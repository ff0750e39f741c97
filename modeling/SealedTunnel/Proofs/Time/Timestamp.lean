import Mathlib.Data.List.TakeWhile
import SealedTunnel.Proofs.Text.Numerals
import SealedTunnel.Proofs.Time.Calendar
import SealedTunnel.Time.Timestamp

/-!
Times are read back as they are written, from the year 0 to the year 9999 and if they are whole seconds: each part has
the digits it is given room for, and the date and the time of day put together are the seconds they were taken from.
-/
namespace SealedTunnel.Time.Timestamp

open Text (isDigit zeroPadded)

variable {time : Timestamp} {number places low high : Nat} {rest : List Char}

section Parts

theorem isDigit_zeroPadded {c : Char} {width : Nat} (member : c ∈ zeroPadded width number) : isDigit c :=
  Text.isDigitOf_ten ▸ Text.isDigitOf_zeroPaddedIn (by decide) (by decide) member

theorem isBlank_digit {c : Char} (digit : isDigit c) : Text.isBlank c = false := by
  have all : ∀ code < 58, 48 ≤ code → Text.isBlank (Char.ofNat code) = false := by decide +kernel
  have bounds := Text.isDigit_iff.mp digit
  have known := all c.toNat (by omega) bounds.1
  rwa [Char.ofNat_toNat] at known

theorem skipBlanks_cons {c : Char} (other : Text.isBlank c = false) (rest : List Char) :
    skipBlanks (c :: rest) = c :: rest :=
  List.dropWhile_cons_of_neg (by simp [other])

theorem zeroPadded_cons (wide : 0 < places) (small : number < 10 ^ places) :
    ∃ c digits, zeroPadded places number = c :: digits ∧ isDigit c := by
  have length : (zeroPadded places number).length = places := Text.length_zeroPaddedIn (by decide) wide small
  obtain ⟨c, digits, written⟩ := List.exists_cons_of_length_pos (Nat.lt_of_lt_of_eq wide length.symm)
  exact ⟨c, digits, written, isDigit_zeroPadded (written ▸ List.mem_cons_self)⟩

theorem skipBlanks_zeroPadded (wide : 0 < places) (small : number < 10 ^ places) (rest : List Char) :
    skipBlanks (zeroPadded places number ++ rest) = zeroPadded places number ++ rest := by
  obtain ⟨c, digits, written, digit⟩ := zeroPadded_cons wide small
  rw [written, List.cons_append]
  exact skipBlanks_cons (isBlank_digit digit) _

theorem readDigits_zeroPadded (wide : 0 < places) (small : number < 10 ^ places) (rest : List Char) :
    readDigits places (zeroPadded places number ++ rest) = some (number, rest) := by
  have length : (zeroPadded places number).length = places := Text.length_zeroPaddedIn (by decide) wide small
  have digits : ((zeroPadded places number ++ rest).take places).takeWhile isDigit = zeroPadded places number := by
    rw [List.take_left' length, List.takeWhile_eq_self_iff]
    exact fun c member => isDigit_zeroPadded member
  have full : (zeroPadded places number).isEmpty = false := by
    obtain ⟨c, digits, written, -⟩ := zeroPadded_cons wide small
    rw [written]
    rfl
  have same : Text.numberOf 10 (zeroPadded places number) = number :=
    Text.numberOf_zeroPaddedIn (by decide) (by decide) places number
  simp only [readDigits, digits, full, same, List.drop_left, Bool.false_eq_true, if_false]

theorem readField_twoDigits (small : number < 100) (above : low ≤ number) (below : number ≤ high) (rest : List Char) :
    readField low high (twoDigits number ++ rest) = some (number, rest) := by
  rw [readField, twoDigits, skipBlanks_zeroPadded (by decide) small, readDigits_zeroPadded (by decide) small]
  exact if_pos ⟨above, below⟩

theorem expect_cons {c : Char} (other : Text.isBlank c = false) (rest : List Char) : expect c (c :: rest) = some rest := by
  rw [expect, skipBlanks_cons other]
  exact if_pos rfl

theorem readYear_yearText {year : Int} (first : 0 ≤ year) (last : year ≤ 9999) (rest : List Char) :
    readYear (yearText year ++ rest) = some (year, rest) := by
  have small : year.toNat < 10 ^ 4 := by omega
  have same : (year.toNat : Int) = year := by omega
  obtain ⟨c, digits, written, digit⟩ := zeroPadded_cons (by decide) small
  have read := readDigits_zeroPadded (by decide) small rest
  have unsigned : c ≠ '-' ∧ c ≠ '+' := by
    constructor <;> rintro rfl <;> exact absurd digit (by decide)
  rw [yearText, if_pos ⟨first, last⟩, readYear, skipBlanks_zeroPadded (by decide) small, written, List.cons_append]
  rw [written, List.cons_append] at read
  split
  · next same => exact absurd (List.cons.inj same).1 unsigned.1
  · next same => exact absurd (List.cons.inj same).1 unsigned.2
  · simp only [read, Option.map_some, same]

end Parts

section Whole

theorem readDate_written {date : Date} (first : 0 ≤ date.year) (last : date.year ≤ 9999) (valid : date.isValid)
    (rest : List Char) :
    readDate (yearText date.year ++ '-' :: (twoDigits date.month ++ '-' :: (twoDigits date.day ++ rest))) =
      some (date, rest) := by
  rw [Date.isValid, decide_eq_true_eq] at valid
  obtain ⟨january, december, day, ends⟩ := valid
  have days := Nat.le_trans ends (Date.daysInMonth_le date.year date.month)
  have hyphen : Text.isBlank '-' = false := by decide
  simp only [readDate, readYear_yearText first last, expect_cons hyphen, Option.bind_eq_bind, Option.bind_some,
    readField_twoDigits (Nat.lt_of_le_of_lt december (by decide)) january december,
    readField_twoDigits (Nat.lt_of_le_of_lt days (by decide)) day days]
  rfl

theorem readClock_written {hour minute second : Nat} (hours : hour ≤ 23) (minutes : minute ≤ 59) (seconds : second ≤ 60)
    (rest : List Char) (bare : rest.head? ≠ some '.') :
    readClock (twoDigits hour ++ ':' :: (twoDigits minute ++ ':' :: (twoDigits second ++ rest))) =
      some ((hour, minute, second, 0), rest) := by
  have colon : Text.isBlank ':' = false := by decide
  have fraction : readFraction rest = some (0, rest) := by
    unfold readFraction
    split
    · exact absurd rfl bare
    · rfl
  simp only [readClock, expect_cons colon, Option.bind_eq_bind, Option.bind_some, fraction,
    readField_twoDigits (Nat.lt_of_le_of_lt hours (by decide)) (Nat.zero_le _) hours,
    readField_twoDigits (Nat.lt_of_le_of_lt minutes (by decide)) (Nat.zero_le _) minutes,
    readField_twoDigits (Nat.lt_of_le_of_lt seconds (by decide)) (Nat.zero_le _) seconds]
  rfl

theorem date_eq (time : Timestamp) : time.date = Date.ofDays (time.seconds / 86400) := by
  rw [date, perDay, Int.fdiv_eq_ediv_of_nonneg _ (by decide)]

theorem secondOfDay_eq (time : Timestamp) : time.secondOfDay = (time.seconds % 86400).toNat := by
  rw [secondOfDay, perDay, Int.fmod_eq_emod_of_nonneg _ (by decide)]

theorem ofParts_date (time : Timestamp) : ofParts time.date (time.secondOfDay / 3600) (time.secondOfDay / 60 % 60)
    (time.secondOfDay % 60) time.nanos 0 = time := by
  obtain ⟨seconds, nanos⟩ := time
  have leap : (seconds % 86400).toNat % 60 / 60 = 0 := by omega
  simp only [ofParts, date_eq, secondOfDay_eq, Date.toDays_ofDays, leap, perDay, Nat.zero_mul, Nat.add_zero, Nat.sub_zero,
    Int.sub_zero, Timestamp.mk.injEq, and_true]
  omega

theorem parse?_text (whole : time.nanos = 0) (first : 0 ≤ time.date.year) (last : time.date.year ≤ 9999) :
    parse? time.text = some time := by
  have valid : time.date.isValid := Date.isValid_ofDays _
  have day : time.secondOfDay < 86400 := by
    rw [secondOfDay_eq]
    omega
  have chars : time.text.toList = yearText time.date.year ++ '-' :: (twoDigits time.date.month ++
      '-' :: (twoDigits time.date.day ++ 'T' :: (twoDigits (time.secondOfDay / 3600) ++
        ':' :: (twoDigits (time.secondOfDay / 60 % 60) ++ ':' :: (twoDigits (time.secondOfDay % 60) ++ ['Z']))))) := by
    rw [text, String.toList_ofList]
    simp [Timestamp.chars, whole, fractionText]
  have clock := readClock_written (by omega : time.secondOfDay / 3600 ≤ 23) (by omega : time.secondOfDay / 60 % 60 ≤ 59)
    (by omega : time.secondOfDay % 60 ≤ 60) ['Z'] (by decide)
  have zone : readOffset (skipBlanks ['Z']) = some (0, []) := by decide
  have same := time.ofParts_date
  rw [whole] at same
  have year : isYear time.date.year := by
    rw [isYear, decide_eq_true_eq, earliestYear, latestYear]
    omega
  simp only [parse?, chars, readDate_written first last valid, Option.bind_eq_bind, Option.bind_some, clock, zone, same]
  exact if_pos ⟨rfl, valid, year, by decide, year⟩

end Whole

end SealedTunnel.Time.Timestamp
