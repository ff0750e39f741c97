import Mathlib.Algebra.Group.Nat.Defs
import SealedTunnel.Text.Number

/-!
Numbers in digits, there and back. A number that is written in a base is read in it again, up to what cannot be a digit;
and without zeros in front a number has one way only to be written in decimal digits.
-/
namespace SealedTunnel.Text

variable {c : Char} {base number : Nat} {chars digits rest : List Char}

section Digits

theorem isDigit_iff : isDigit c ↔ 48 ≤ c.toNat ∧ c.toNat ≤ 57 := by
  simp only [isDigit, decide_eq_true_eq, Char.le_def, UInt32.le_iff_toNat_le]
  rfl

theorem isDigit_toDigits {n : Nat} (member : c ∈ Nat.toDigits 10 n) : isDigit c := by
  have digit := Nat.isDigit_of_mem_toDigits (by decide) (by decide) member
  simpa [isDigit, Char.isDigit, Char.le_def] using digit

theorem digitValue_digit (digit : isDigit c) : digitValue c = some (c.toNat - 48) := by
  simp only [isDigit, decide_eq_true_eq] at digit
  rw [digitValue, if_pos digit]
  rfl

theorem digitChar_digit (digit : isDigit c) : Nat.digitChar (c.toNat - 48) = c := by
  rw [isDigit_iff] at digit
  apply Char.toNat_inj.mp
  rw [Nat.toNat_digitChar_of_lt_ten (by omega)]
  omega

theorem digitValue_digitChar {value : Nat} (small : value < 16) : digitValue (Nat.digitChar value) = some value := by
  have all : ∀ value < 16, digitValue (Nat.digitChar value) = some value := by decide
  exact all value small

theorem isDigitOf_ten : isDigitOf 10 c = isDigit c := by
  by_cases digit : isDigit c
  · have bounds := isDigit_iff.mp digit
    rw [isDigitOf, digitValue_digit digit, digit]
    simp
    omega
  · have letter : ∀ value, digitValue c = some value → 10 ≤ value := by
      intro value found
      unfold digitValue at found
      split at found
      · rename_i decimal
        exact absurd (decide_eq_true decimal) digit
      · split at found
        · cases found
          exact Nat.le_add_left ..
        · split at found <;> cases found
          exact Nat.le_add_left ..
    rw [Bool.eq_false_iff.mpr digit, isDigitOf]
    cases found : digitValue c with
    | none => rfl
    | some value => simpa using letter value found

theorem isDigitOf_mono {larger : Nat} (le : base ≤ larger) (digit : isDigitOf base c) : isDigitOf larger c := by
  unfold isDigitOf at digit ⊢
  cases value : digitValue c with
  | none =>
      rw [value] at digit
      cases digit
  | some number =>
      rw [value] at digit
      exact decide_eq_true (Nat.lt_of_lt_of_le (of_decide_eq_true digit) le)

theorem isDigitOf_toDigits (two : 1 < base) (known : base ≤ 16) (member : c ∈ Nat.toDigits base number) :
    isDigitOf base c := by
  have written : ∀ value < base, isDigitOf base (Nat.digitChar value) := by
    intro value small
    simp [isDigitOf, digitValue_digitChar (Nat.lt_of_lt_of_le small known), small]
  induction number using Nat.base_induction base two with
  | single value small =>
      rw [Nat.toDigits_of_lt_base small, List.mem_singleton] at member
      exact member ▸ written value small
  | digit front value small positive ih =>
      rw [← Nat.toDigits_append_toDigits two positive small, Nat.toDigits_of_lt_base small] at member
      rcases List.mem_append.mp member with member | member
      · exact ih member
      · rw [List.mem_singleton] at member
        exact member ▸ written value small

end Digits

section Numbers

theorem numberOf_append (digits : List Char) (c : Char) :
    numberOf base (digits ++ [c]) = numberOf base digits * base + (digitValue c).getD 0 := by
  simp [numberOf]

theorem digitValue_lt (digit : isDigitOf base c) : (digitValue c).getD 0 < base := by
  unfold isDigitOf at digit
  cases value : digitValue c with
  | none =>
      rw [value] at digit
      cases digit
  | some number =>
      rw [value] at digit
      exact of_decide_eq_true digit

theorem foldl_lt (digital : ∀ c ∈ digits, isDigitOf base c) (front : Nat) :
    digits.foldl (fun number c => number * base + (digitValue c).getD 0) front < (front + 1) * base ^ digits.length := by
  induction digits generalizing front with
  | nil => simp
  | cons c rest ih =>
      obtain ⟨digit, others⟩ := List.forall_mem_cons.mp digital
      have next : front * base + (digitValue c).getD 0 + 1 ≤ (front + 1) * base := by
        rw [Nat.succ_mul]
        exact Nat.add_lt_add_left (digitValue_lt digit) _
      calc
        _ < (front * base + (digitValue c).getD 0 + 1) * base ^ rest.length := ih others _
        _ ≤ (front + 1) * base * base ^ rest.length := Nat.mul_le_mul_right _ next
        _ = (front + 1) * base ^ (c :: rest).length := by rw [List.length_cons, Nat.pow_succ', Nat.mul_assoc]

theorem numberOf_lt (digital : ∀ c ∈ digits, isDigitOf base c) : numberOf base digits < base ^ digits.length := by
  have bound := foldl_lt digital 0
  rwa [Nat.zero_add, Nat.one_mul] at bound

theorem numberOf_toDigits (two : 1 < base) (known : base ≤ 16) (number : Nat) :
    numberOf base (Nat.toDigits base number) = number := by
  induction number using Nat.base_induction base two with
  | single value small =>
      rw [Nat.toDigits_of_lt_base small]
      simp [numberOf, digitValue_digitChar (Nat.lt_of_lt_of_le small known)]
  | digit front value small positive ih =>
      rw [← Nat.toDigits_append_toDigits two positive small, Nat.toDigits_of_lt_base small, numberOf_append, ih,
        digitValue_digitChar (Nat.lt_of_lt_of_le small known), Option.getD_some, Nat.mul_comm]

theorem head_toDigits (two : 1 < base) (positive : 0 < number) : (Nat.toDigits base number).head? ≠ some '0' := by
  induction number using Nat.base_induction base two with
  | single value small =>
      rw [Nat.toDigits_of_lt_base small]
      simp
      omega
  | digit front value small leads ih =>
      rw [← Nat.toDigits_append_toDigits two leads small, List.head?_append, Option.or_of_isSome]
      · exact ih leads
      · simp

/-- Decimal digits behind those of a number that is not zero make up the digits of what they are read as. -/
theorem toDigits_foldl (decimal : ∀ c ∈ digits, isDigit c) (front : Nat) (positive : 0 < front) :
    Nat.toDigits 10 front ++ digits =
      Nat.toDigits 10 (digits.foldl (fun number c => number * 10 + (digitValue c).getD 0) front) := by
  induction digits generalizing front with
  | nil => simp
  | cons c rest ih =>
      obtain ⟨digit, others⟩ := List.forall_mem_cons.mp decimal
      have small : c.toNat - 48 < 10 := by
        have bounds := isDigit_iff.mp digit
        omega
      have joined := Nat.toDigits_append_toDigits (b := 10) (by decide) positive small
      rw [Nat.toDigits_of_lt_base small, digitChar_digit digit] at joined
      calc
        Nat.toDigits 10 front ++ c :: rest = Nat.toDigits 10 front ++ [c] ++ rest := by simp
        _ = Nat.toDigits 10 (front * 10 + (c.toNat - 48)) ++ rest := by rw [joined, Nat.mul_comm]
        _ = _ := by
          rw [ih others _ (by omega), List.foldl_cons, digitValue_digit digit, Option.getD_some]

theorem toDigits_numberOf (nonempty : digits ≠ []) (decimal : ∀ c ∈ digits, isDigit c)
    (leading : digits.length ≤ 1 ∨ digits.head? ≠ some '0') : Nat.toDigits 10 (numberOf 10 digits) = digits := by
  obtain ⟨c, rest, rfl⟩ := List.exists_cons_of_ne_nil nonempty
  obtain ⟨digit, others⟩ := List.forall_mem_cons.mp decimal
  have bounds := isDigit_iff.mp digit
  have small : c.toNat - 48 < 10 := by omega
  have first : numberOf 10 (c :: rest) =
      rest.foldl (fun number c => number * 10 + (digitValue c).getD 0) (c.toNat - 48) := by
    simp [numberOf, digitValue_digit digit]
  have written : Nat.toDigits 10 (c.toNat - 48) = [c] := by
    rw [Nat.toDigits_of_lt_base small, digitChar_digit digit]
  cases rest with
  | nil => exact (congrArg _ first).trans written
  | cons next rest =>
      have leads : c ≠ '0' := by simpa using leading
      have positive : 0 < c.toNat - 48 := by
        have other : c.toNat ≠ 48 := fun zero => leads (Char.toNat_inj.mp zero)
        omega
      rw [first, ← toDigits_foldl others _ positive, written]
      rfl

end Numbers

section Padded

variable {width : Nat}

theorem numberOf_replicate (count : Nat) (digits : List Char) :
    numberOf base (List.replicate count '0' ++ digits) = numberOf base digits := by
  have zero : (digitValue '0').getD 0 = 0 := by decide
  induction count with
  | zero => rfl
  | succ count ih =>
      rw [← ih, List.replicate_succ, List.cons_append, numberOf, List.foldl_cons, zero, Nat.zero_mul]
      rfl

theorem numberOf_zeroPaddedIn (two : 1 < base) (known : base ≤ 16) (width number : Nat) :
    numberOf base (zeroPaddedIn base width number) = number := by
  rw [zeroPaddedIn, numberOf_replicate, numberOf_toDigits two known]

theorem length_zeroPaddedIn (two : 1 < base) (wide : 0 < width) (small : number < base ^ width) :
    (zeroPaddedIn base width number).length = width := by
  have fits := (Nat.length_toDigits_le_iff two wide).mpr small
  rw [zeroPaddedIn, List.length_append, List.length_replicate]
  omega

theorem isDigitOf_zeroPaddedIn (two : 1 < base) (known : base ≤ 16) (member : c ∈ zeroPaddedIn base width number) :
    isDigitOf base c := by
  rcases List.mem_append.mp member with member | member
  · have zero : digitValue '0' = some 0 := by decide
    rw [List.eq_of_mem_replicate member, isDigitOf, zero]
    exact decide_eq_true (Nat.lt_trans Nat.one_pos two)
  · exact isDigitOf_toDigits two known member

end Padded

section Forms

def Stops (base : Nat) (rest : List Char) : Prop := ∀ c ∈ rest.head?, isDigitOf base c = false

theorem Stops.cons (mark : isDigitOf base c = false) (rest : List Char) : Stops base (c :: rest) := by
  rintro _ first
  cases first
  exact mark

theorem Stops.nil : Stops base [] := by simp [Stops]

theorem Stops.mono {larger : Nat} (le : base ≤ larger) (stops : Stops larger rest) : Stops base rest := by
  intro c first
  apply Bool.eq_false_iff.mpr
  intro digit
  exact Bool.eq_false_iff.mp (stops c first) (isDigitOf_mono le digit)

structure NumberForm.Allows (form : NumberForm) (digits : List Char) : Prop where
  nonempty : digits ≠ []
  places : form.places = 0 ∨ digits.length ≤ form.places
  leading : form.leadingZeros ∨ digits.length ≤ 1 ∨ digits.head? ≠ some '0'
  largest : numberOf form.base digits ≤ form.largest

theorem takeWhile_digits (digital : ∀ c ∈ digits, isDigitOf base c) (stops : Stops base rest) :
    (digits ++ rest).takeWhile (isDigitOf base) = digits ∧ (digits ++ rest).dropWhile (isDigitOf base) = rest := by
  rw [List.takeWhile_append_of_pos digital, List.dropWhile_append_of_pos digital]
  cases rest with
  | nil => simp
  | cons c rest => simp [stops c rfl]

theorem stops_dropWhile (chars : List Char) : Stops base (chars.dropWhile (isDigitOf base)) := by
  intro c first
  have stopped := List.head?_dropWhile_not (isDigitOf base) chars
  rw [Option.mem_def.mp first] at stopped
  exact stopped

theorem NumberForm.read_digits {form : NumberForm} (digital : ∀ c ∈ digits, isDigitOf form.base c)
    (stops : Stops form.base rest) (allowed : form.Allows digits) :
    form.read (digits ++ rest) = some (numberOf form.base digits, rest) := by
  obtain ⟨front, behind⟩ := takeWhile_digits digital stops
  obtain ⟨nonempty, places, leading, largest⟩ := allowed
  rw [NumberForm.read]
  simp only [front, behind]
  rw [if_neg (by simpa using nonempty), if_neg (by omega), if_neg ?_, if_neg (by omega)]
  rintro ⟨unled, long, zero⟩
  rcases leading with led | short | other
  · rw [led] at unled
    cases unled
  · omega
  · exact other zero

theorem NumberForm.read_eq_some {form : NumberForm} : form.read chars = some (number, rest) ↔
    ∃ digits, chars = digits ++ rest ∧ (∀ c ∈ digits, isDigitOf form.base c) ∧ Stops form.base rest ∧
      form.Allows digits ∧ numberOf form.base digits = number := by
  constructor
  · intro read
    unfold NumberForm.read at read
    dsimp only at read
    split at read
    · cases read
    split at read
    · cases read
    split at read
    · cases read
    split at read <;> cases read
    rename_i nonempty places leading largest
    refine ⟨chars.takeWhile (isDigitOf form.base), List.takeWhile_append_dropWhile.symm,
      fun c member => List.all_eq_true.mp List.all_takeWhile c member, stops_dropWhile chars, ⟨?_, ?_, ?_, ?_⟩, rfl⟩
    · simpa using nonempty
    · omega
    · cases led : form.leadingZeros with
      | true => exact Or.inl rfl
      | false =>
          refine Or.inr (Classical.or_iff_not_imp_left.mpr fun long zero => leading ⟨by simp [led], by omega, zero⟩)
    · omega
  · rintro ⟨digits, rfl, digital, stops, allowed, rfl⟩
    exact NumberForm.read_digits digital stops allowed

theorem NumberForm.read_stops {form : NumberForm} (stops : Stops form.base chars) : form.read chars = none := by
  have absent : ∀ c ∈ ([] : List Char), isDigitOf form.base c := by simp
  have digits := (takeWhile_digits absent stops).1
  simp only [List.nil_append] at digits
  rw [NumberForm.read]
  simp only [digits, List.isEmpty_nil, if_true]

theorem NumberForm.read_toDigits (form : NumberForm) (two : 1 < form.base) (known : form.base ≤ 16)
    (small : number ≤ form.largest) (places : form.places = 0 ∨ number < Nat.pow form.base form.places)
    (stops : Stops form.base rest) : form.read (Nat.toDigits form.base number ++ rest) = some (number, rest) := by
  have same := numberOf_toDigits two known number
  rw [NumberForm.read_digits (fun c member => isDigitOf_toDigits two known member) stops, same]
  refine ⟨Nat.toDigits_ne_nil, ?_, ?_, by omega⟩
  · rcases Nat.eq_zero_or_pos form.places with none | some
    · exact Or.inl none
    · refine Or.inr ((Nat.length_toDigits_le_iff two some).mpr (places.resolve_left (by omega)))
  · rcases Nat.eq_zero_or_pos number with rfl | positive
    · exact Or.inr (Or.inl (by simp))
    · exact Or.inr (Or.inr (head_toDigits two positive))

end Forms

section Whole

variable {largest : Nat}

theorem decimal?_unsigned (unsigned : chars.head? ≠ some '+') :
    decimal? largest chars =
      if chars.isEmpty ∨ !chars.all isDigit then none
      else if numberOf 10 chars > largest then none
      else some (numberOf 10 chars) := by
  rw [decimal?]
  rintro rest rfl
  exact unsigned rfl

theorem decimal?_digits : (∀ c ∈ digits, isDigit c) ∧ digits ≠ [] ∧ numberOf 10 digits = number ∧ number ≤ largest ↔
    (if digits.isEmpty ∨ !digits.all isDigit then none
      else if numberOf 10 digits > largest then none
      else some (numberOf 10 digits)) = some number := by
  simp only [Option.ite_none_left_eq_some, Option.some.injEq, not_or, List.isEmpty_iff, Bool.not_eq_true',
    Bool.not_eq_false, List.all_eq_true]
  constructor
  · rintro ⟨digital, nonempty, rfl, fits⟩
    exact ⟨⟨nonempty, digital⟩, Nat.not_lt.mpr fits, rfl⟩
  · rintro ⟨⟨nonempty, digital⟩, fits, rfl⟩
    exact ⟨digital, nonempty, rfl, Nat.not_lt.mp fits⟩

/-- A whole text is a number in decimal digits, with or without a plus sign. -/
theorem decimal?_eq_some : decimal? largest chars = some number ↔
    ∃ digits, (chars = digits ∨ chars = '+' :: digits) ∧ (∀ c ∈ digits, isDigit c) ∧ digits ≠ [] ∧
      numberOf 10 digits = number ∧ number ≤ largest := by
  constructor
  · intro read
    by_cases signed : chars.head? = some '+'
    · obtain ⟨rest, rfl⟩ := List.head?_eq_some_iff.mp signed
      exact ⟨rest, Or.inr rfl, decimal?_digits.mpr read⟩
    · rw [decimal?_unsigned signed] at read
      exact ⟨chars, Or.inl rfl, decimal?_digits.mpr read⟩
  · rintro ⟨digits, rfl | rfl, digital⟩
    · have unsigned : chars.head? ≠ some '+' := fun plus =>
        absurd (digital.1 '+' (List.mem_of_head? plus)) (by decide)
      exact (decimal?_unsigned unsigned).trans (decimal?_digits.mp digital)
    · exact decimal?_digits.mp digital

theorem decimal?_toDigits (small : number ≤ largest) : decimal? largest (Nat.toDigits 10 number) = some number := by
  rw [decimal?_eq_some]
  exact ⟨_, Or.inl rfl, fun c member => isDigit_toDigits member, Nat.toDigits_ne_nil,
    numberOf_toDigits (by decide) (by decide) number, small⟩

end Whole
end SealedTunnel.Text
