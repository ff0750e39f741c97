import SealedTunnel.Time.Calendar

/-!
Days and dates, one for one. A day is counted off in centuries of 400 years, in fours of years within a century, in
years from March to February, and in months of those; leap days come last in each of these, so the counts are quotients.
-/
namespace SealedTunnel.Time.Date

/-- A day of an era of 400 years: full centuries, fours of years and years behind it, and days since the first of March. -/
structure Position where
  century : Nat
  four : Nat
  year : Nat
  day : Nat
  century_le : century ≤ 3
  four_le : four ≤ 24
  year_le : year ≤ 3
  /-- A leap day ends the fourth year, but not a century unless it is the fourth. -/
  day_le : day ≤ 364 ∨ day = 365 ∧ year = 3 ∧ (four ≠ 24 ∨ century = 3)

namespace Position

variable {position : Position}

def dayOfEra (position : Position) : Nat :=
  36524 * position.century + 1461 * position.four + 365 * position.year + position.day

def yearOfEra (position : Position) : Nat := 100 * position.century + 4 * position.four + position.year

theorem exists_dayOfEra {day : Nat} (small : day < 146097) : ∃ position : Position, position.dayOfEra = day := by
  -- The last of four years, and the last of four centuries, may be one day longer than what they are counted by.
  let century := min (day / 36524) 3
  let inCentury := day - 36524 * century
  let year := min (inCentury % 1461 / 365) 3
  refine ⟨⟨century, inCentury / 1461, year, inCentury % 1461 - 365 * year, ?_, ?_, ?_, ?_⟩, ?_⟩
  · omega
  · omega
  · omega
  · omega
  · simp only [dayOfEra]
    omega

/-- Leap days are taken off, and the rest divided by the days of a common year. -/
theorem year_of_dayOfEra (position : Position) :
    (position.dayOfEra - position.dayOfEra / 1460 + position.dayOfEra / 36524 - position.dayOfEra / 146096) / 365 =
      position.yearOfEra := by
  obtain ⟨century, four, year, day, few, fours, years, days⟩ := position
  simp only [dayOfEra, yearOfEra]
  generalize whole : 36524 * century + 1461 * four + 365 * year + day = dayOfEra
  rcases days with days | ⟨rfl, rfl, last⟩
  · have hundredths : dayOfEra / 36524 = century := by omega
    have eras : dayOfEra / 146096 = 0 := by omega
    obtain ⟨late, fourths, early⟩ : ∃ late, dayOfEra / 1460 = 25 * century + four + late ∧ late ≤ day :=
      ⟨dayOfEra / 1460 - (25 * century + four), by omega, by omega⟩
    rw [fourths, hundredths, eras]
    omega
  · have fourths : dayOfEra / 1460 = 25 * century + four + 1 := by omega
    by_cases ends : four = 24
    · have hundredths : dayOfEra / 36524 = century + 1 := by omega
      have eras : dayOfEra / 146096 = 1 := by omega
      rw [fourths, hundredths, eras]
      omega
    · have hundredths : dayOfEra / 36524 = century := by omega
      have eras : dayOfEra / 146096 = 0 := by omega
      rw [fourths, hundredths, eras]
      omega

theorem day_of_dayOfEra (position : Position) :
    position.dayOfEra - (365 * position.yearOfEra + position.yearOfEra / 4 - position.yearOfEra / 100) = position.day := by
  obtain ⟨century, four, year, day, few, fours, years, days⟩ := position
  simp only [dayOfEra, yearOfEra]
  omega

end Position

def ofMarch (year : Int) (dayOfYear : Nat) : Date :=
  let monthFromMarch := (5 * dayOfYear + 2) / 153
  let month := if monthFromMarch < 10 then monthFromMarch + 3 else monthFromMarch - 9
  ⟨if month ≤ 2 then year + 1 else year, month, dayOfYear - (153 * monthFromMarch + 2) / 5 + 1⟩

variable {days : Int} {year : Int} {dayOfYear : Nat}

theorem ofDays_eq (days : Int) : ∃ (era : Int) (position : Position),
    days = era * 146097 + position.dayOfEra - 719468 ∧
    ofDays days = ofMarch (position.yearOfEra + era * 400) position.day := by
  have floor : Int.fdiv (days + 719468) 146097 = (days + 719468) / 146097 := Int.fdiv_eq_ediv_of_nonneg _ (by decide)
  have small : (days + 719468 - (days + 719468) / 146097 * 146097).toNat < 146097 := by omega
  obtain ⟨position, same⟩ := Position.exists_dayOfEra small
  refine ⟨(days + 719468) / 146097, position, by omega, ?_⟩
  unfold ofDays
  simp only [daysPerEra, epochOffset, floor, ← same, position.year_of_dayOfEra, position.day_of_dayOfEra]
  rfl

section Months

/-- Months from March on are thirty and thirty-one days long in a pattern of five; February comes last. -/
theorem ofMarch_month (small : dayOfYear ≤ 365) (year : Int) :
    let date := ofMarch year dayOfYear
    1 ≤ date.month ∧ date.month ≤ 12 ∧ 1 ≤ date.day ∧ (if date.month ≤ 2 then date.year - 1 else date.year) = year ∧
      (153 * (((date.month : Int) + 9) % 12) + 2) / 5 + date.day - 1 = dayOfYear ∧
      5 * dayOfYear + 2 < 153 * (((date.month : Int) + 9) % 12 + 1) := by
  intro date
  have behind : (153 * ((5 * dayOfYear + 2) / 153) + 2) / 5 ≤ dayOfYear := by omega
  have last : (5 * dayOfYear + 2) / 153 ≤ 11 := by omega
  have next : 5 * dayOfYear + 2 < 153 * ((5 * dayOfYear + 2) / 153 + 1) := by omega
  simp only [date, ofMarch]
  generalize (5 * dayOfYear + 2) / 153 = monthFromMarch at behind last next
  by_cases early : monthFromMarch < 10
  · have late : ¬ monthFromMarch + 3 ≤ 2 := by omega
    have same : ((monthFromMarch + 3 : Nat) + 9 : Int) % 12 = monthFromMarch := by omega
    simp only [if_pos early, if_neg late, same, true_and]
    omega
  · have first : monthFromMarch - 9 ≤ 2 := by omega
    have same : ((monthFromMarch - 9 : Nat) + 9 : Int) % 12 = monthFromMarch := by omega
    simp only [if_neg early, if_pos first, same, Int.add_sub_cancel, true_and]
    omega

end Months

theorem Position.yearOfEra_lt (position : Position) : position.yearOfEra < 400 := by
  obtain ⟨century, four, year, day, few, fours, years, days⟩ := position
  simp only [yearOfEra]
  omega

theorem Position.dayOfEra_eq (position : Position) : position.dayOfEra + position.yearOfEra / 100 =
    365 * position.yearOfEra + position.yearOfEra / 4 + position.day := by
  obtain ⟨century, four, year, day, few, fours, years, days⟩ := position
  simp only [dayOfEra, yearOfEra]
  omega

theorem toDays_ofMarch (era : Int) (position : Position) :
    toDays (ofMarch (position.yearOfEra + era * 400) position.day) = era * 146097 + position.dayOfEra - 719468 := by
  have small : position.day ≤ 365 := by
    rcases position.day_le with common | leap <;> omega
  obtain ⟨-, -, -, year, day, -⟩ := ofMarch_month small (position.yearOfEra + era * 400)
  have floor : Int.fdiv (position.yearOfEra + era * 400) 400 = era := by
    rw [Int.fdiv_eq_ediv_of_nonneg _ (by decide)]
    have within := position.yearOfEra_lt
    omega
  have counted := position.dayOfEra_eq
  simp only [toDays, year, floor, daysPerEra, epochOffset, Int.add_sub_cancel, day]
  omega

theorem isLeapYear_position {position : Position} (era : Int) (leap : position.day = 365) :
    isLeapYear (position.yearOfEra + era * 400 + 1) := by
  obtain ⟨century, four, year, day, few, fours, years, days⟩ := position
  simp only at leap
  rw [isLeapYear, decide_eq_true_eq]
  simp only [Position.yearOfEra]
  omega

theorem isValid_ofMarch (small : dayOfYear ≤ 365) (leap : dayOfYear = 365 → isLeapYear (year + 1)) :
    isValid (ofMarch year dayOfYear) := by
  obtain ⟨first, last, day, counted, same, next⟩ := ofMarch_month small year
  rw [isValid, decide_eq_true_eq]
  refine ⟨first, last, day, ?_⟩
  generalize ofMarch year dayOfYear = date at first last day counted same next
  obtain ⟨dateYear, month, dayOfMonth⟩ := date
  simp only at first last day counted same next ⊢
  have months : month = 1 ∨ month = 2 ∨ month = 3 ∨ month = 4 ∨ month = 5 ∨ month = 6 ∨ month = 7 ∨ month = 8 ∨ month = 9 ∨
      month = 10 ∨ month = 11 ∨ month = 12 := by omega
  rcases months with rfl | rfl | rfl | rfl | rfl | rfl | rfl | rfl | rfl | rfl | rfl | rfl
  case inr.inl =>
    have behind : dateYear = year + 1 := by omega
    rw [daysInMonth, behind]
    split
    · omega
    · next common =>
        have shorter : dayOfYear ≠ 365 := fun ends => common (leap ends)
        omega
  all_goals
    simp only [daysInMonth]
    omega

theorem daysInMonth_le (year : Int) (month : Nat) : daysInMonth year month ≤ 31 := by
  unfold daysInMonth
  split
  · split <;> decide
  all_goals decide

theorem toDays_ofDays (days : Int) : toDays (ofDays days) = days := by
  obtain ⟨era, position, same, date⟩ := ofDays_eq days
  rw [date, toDays_ofMarch, same]

theorem isValid_ofDays (days : Int) : isValid (ofDays days) := by
  obtain ⟨era, position, -, date⟩ := ofDays_eq days
  rw [date]
  apply isValid_ofMarch
  · rcases position.day_le with common | leap <;> omega
  · exact isLeapYear_position era

end SealedTunnel.Time.Date
