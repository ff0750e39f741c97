import SealedTunnel.Json.Printer
import SealedTunnel.Proofs.Text.Numerals
import SealedTunnel.Proofs.Text.Utf8

/-!
A document is one line. Whatever is nested in it and whatever its strings hold, nothing that it is written with comes before
the blank, so that there is no end of a line among its bytes; and it is never empty.
-/
namespace SealedTunnel

variable {c : Char} {chars others : List Char}

namespace Text

def IsPrinted (chars : List Char) : Prop := ∀ c ∈ chars, ' ' ≤ c

instance : Decidable (IsPrinted chars) := List.decidableBAll _ chars

theorem IsPrinted.nil : IsPrinted [] := List.forall_mem_nil _

theorem isPrinted_cons : IsPrinted (c :: chars) ↔ ' ' ≤ c ∧ IsPrinted chars := List.forall_mem_cons

theorem isPrinted_append : IsPrinted (chars ++ others) ↔ IsPrinted chars ∧ IsPrinted others := List.forall_mem_append

theorem IsPrinted.cons (printed : IsPrinted chars) (first : ' ' ≤ c) : IsPrinted (c :: chars) :=
  isPrinted_cons.mpr ⟨first, printed⟩

theorem IsPrinted.append (printed : IsPrinted chars) (behind : IsPrinted others) : IsPrinted (chars ++ others) :=
  isPrinted_append.mpr ⟨printed, behind⟩

theorem isPrinted_replicate (count : Nat) (first : ' ' ≤ c) : IsPrinted (List.replicate count c) := by
  intro other member
  rwa [List.eq_of_mem_replicate member]

theorem printed_digit {base : Nat} (digit : isDigitOf base c) : ' ' ≤ c := by
  have blank : ∀ first : Char, ' ' ≤ first → first ≤ c → ' ' ≤ c := fun _ => Char.le_trans
  unfold isDigitOf digitValue at digit
  split at digit
  next found =>
    split at found
    next decimal => exact blank '0' (by decide) decimal.1
    split at found
    next small => exact blank 'a' (by decide) small.1
    split at found
    next capital => exact blank 'A' (by decide) capital.1
    cases found
  next => cases digit

theorem isPrinted_toDigits (number : Nat) : IsPrinted (Nat.toDigits 10 number) :=
  fun _ member => printed_digit (isDigitOf_toDigits (by decide) (by decide) member)

theorem isPrinted_intText (value : Int) : IsPrinted (toString value).toList := by
  cases value with
  | ofNat number =>
      have written : (toString (Int.ofNat number)).toList = Nat.toDigits 10 number := String.toList_ofList
      rw [written]
      exact isPrinted_toDigits number
  | negSucc number =>
      have written : (toString (Int.negSucc number)).toList = '-' :: Nat.toDigits 10 (number + 1) := by
        change ("-" ++ String.ofList (Nat.toDigits 10 (number + 1))).toList = _
        rw [String.toList_append, String.toList_ofList, String.toList_ofList]
        rfl
      rw [written]
      exact (isPrinted_toDigits _).cons (by decide)

theorem lineFeed_not_mem (printed : IsPrinted chars) : 0x0a ∉ Bytes.ofText (String.ofList chars) := by
  intro member
  have among : Char.ofNat 0x0a ∈ chars := mem_ofText_ascii member (by decide)
  exact absurd (printed _ among) (by decide)

end Text

namespace Json

open Text (IsPrinted isPrinted_cons isPrinted_toDigits)

theorem isPrinted_escapedChar (c : Char) : IsPrinted (escapedChar c) := by
  have code : ∀ letter : Char, ' ' ≤ letter → IsPrinted ['\\', letter] := by
    intro letter printed
    exact isPrinted_cons.mpr ⟨by decide, IsPrinted.nil.cons printed⟩
  unfold escapedChar
  split
  next mark =>
    apply code
    rcases mark with rfl | rfl <;> decide
  split
  next printed => exact IsPrinted.nil.cons printed
  -- The escapes that have a letter of their own.
  iterate 5
    split
    next => exact code _ (by decide)
  next =>
    have digits : IsPrinted (Text.zeroPaddedIn 16 4 c.toNat) := fun _ member =>
      Text.printed_digit (Text.isDigitOf_zeroPaddedIn (by decide) (by decide) member)
    exact (digits.cons (by decide)).cons (by decide)

theorem isPrinted_quotedChars (text : String) : IsPrinted (quotedChars text) := by
  have inside : IsPrinted (text.toList.flatMap escapedChar) := by
    intro c member
    obtain ⟨origin, -, part⟩ := List.mem_flatMap.mp member
    exact isPrinted_escapedChar origin c part
  exact (inside.cons (by decide)).append (IsPrinted.nil.cons (by decide))

theorem isPrinted_integerChars (value : Int) : IsPrinted (integerChars value) := by
  unfold integerChars
  split
  · exact (isPrinted_toDigits _).cons (by decide)
  · exact isPrinted_toDigits _

theorem isPrinted_joined {items : List (List Char)} (printed : ∀ item ∈ items, IsPrinted item) :
    IsPrinted (joined items) := by
  fun_induction joined items with
  | case1 => exact .nil
  | case2 item => exact printed item List.mem_cons_self
  | case3 item others _ ih =>
      obtain ⟨first, later⟩ := List.forall_mem_cons.mp printed
      exact first.append ((ih later).cons (by decide))

end Json

namespace Decimal.Binary64

open Text (IsPrinted isPrinted_append isPrinted_replicate isPrinted_toDigits isPrinted_intText)

variable {digits : List Char}

theorem isPrinted_positional (printed : IsPrinted digits) (place : Int) : IsPrinted (positional digits place) := by
  have zeros : ∀ count, IsPrinted (List.replicate count '0') := fun count => isPrinted_replicate count (by decide)
  unfold positional
  split
  · exact (((zeros _).cons (by decide)).cons (by decide)).append printed
  split
  · exact printed.append (zeros _)
  · have cut := List.take_append_drop place.toNat digits ▸ printed
    obtain ⟨before, behind⟩ := isPrinted_append.mp cut
    exact before.append (behind.cons (by decide))

theorem isPrinted_scientific (printed : IsPrinted digits) (place : Int) : IsPrinted (scientific digits place) := by
  have power := (isPrinted_intText (place - 1)).cons (c := 'e') (by decide)
  unfold scientific
  dsimp only
  split
  next first second rest =>
    obtain ⟨here, later⟩ := Text.isPrinted_cons.mp printed
    exact ((later.cons (by decide)).cons here).append power
  next => exact printed.append power

theorem isPrinted_shortestDigits (x : Binary64) : IsPrinted x.shortestDigits.1 := by
  intro c member
  rw [shortestDigits, List.mem_reverse] at member
  have among := (List.dropWhile_sublist _).subset member
  exact isPrinted_toDigits _ c (List.mem_reverse.mp among)

theorem positional_ne_nil {place : Int} (more : place.toNat < digits.length) : positional digits place ≠ [] := by
  unfold positional
  split
  · exact List.cons_ne_nil _ _
  split
  next all => exact absurd all (Nat.not_le.mpr more)
  next => exact List.append_ne_nil_of_right_ne_nil _ (List.cons_ne_nil _ _)

theorem documentText_printed (x : Binary64) : IsPrinted x.documentText.toList ∧ x.documentText.toList ≠ [] := by
  have sign : IsPrinted x.signText.toList := by
    unfold signText
    split
    · exact IsPrinted.nil.cons (by decide)
    · exact .nil
  have digits := x.isPrinted_shortestDigits
  -- What stands behind the sign is printed and not empty.
  have whole : ∀ body : List Char, IsPrinted body → body ≠ [] →
      IsPrinted (x.signText ++ String.ofList body).toList ∧ (x.signText ++ String.ofList body).toList ≠ [] := by
    intro body printed some
    rw [String.toList_append, String.toList_ofList]
    exact ⟨sign.append printed, List.append_ne_nil_of_right_ne_nil _ some⟩
  unfold documentText
  split
  · exact whole ['0', '.', '0'] (by decide) (List.cons_ne_nil _ _)
  apply whole
  · split
    · apply (isPrinted_positional digits _).append
      split
      · exact (IsPrinted.nil.cons (by decide)).cons (by decide)
      · exact .nil
    · exact isPrinted_scientific digits _
  · split
    · split
      · exact List.append_ne_nil_of_right_ne_nil _ (List.cons_ne_nil _ _)
      next more => exact List.append_ne_nil_of_left_ne_nil (positional_ne_nil (Nat.not_le.mp more)) _
    · exact List.append_ne_nil_of_right_ne_nil _ (List.cons_ne_nil _ _)

end Decimal.Binary64

namespace Json

open Text (IsPrinted)

theorem isPrinted_enclosed {items : List (List Char)} (printed : ∀ item ∈ items, IsPrinted item) {opening closing : Char}
    (first : ' ' ≤ opening) (last : ' ' ≤ closing) : IsPrinted (opening :: joined items ++ [closing]) :=
  ((isPrinted_joined printed).cons first).append (IsPrinted.nil.cons last)

mutual

theorem isPrinted_chars : ∀ document : Json, IsPrinted document.chars
  | .null => by decide
  | .bool value => by cases value <;> decide
  | .integer value => isPrinted_integerChars value
  | .float value => by
      rw [chars]
      split
      · exact value.documentText_printed.1
      · decide
  | .string text => isPrinted_quotedChars text
  | .array items => isPrinted_enclosed (isPrinted_itemChars items) (by decide) (by decide)
  | .object fields => isPrinted_enclosed (isPrinted_fieldChars fields) (by decide) (by decide)

theorem isPrinted_itemChars : ∀ items : List Json, ∀ item ∈ itemChars items, IsPrinted item
  | [] => List.forall_mem_nil _
  | item :: others => List.forall_mem_cons.mpr ⟨isPrinted_chars item, isPrinted_itemChars others⟩

theorem isPrinted_fieldChars : ∀ fields : List (String × Json), ∀ field ∈ fieldChars fields, IsPrinted field
  | [] => List.forall_mem_nil _
  | (name, value) :: others =>
      List.forall_mem_cons.mpr ⟨(isPrinted_quotedChars name).append ((isPrinted_chars value).cons (by decide)),
        isPrinted_fieldChars others⟩

end

theorem chars_ne_nil (document : Json) : document.chars ≠ [] := by
  cases document with
  | null => decide
  | bool value => cases value <;> decide
  | integer value =>
      rw [chars, integerChars]
      split
      · exact List.cons_ne_nil _ _
      · exact Nat.toDigits_ne_nil
  | float value =>
      rw [chars]
      split
      · exact value.documentText_printed.2
      · decide
  | string | array | object => exact List.cons_ne_nil _ _

theorem text_isLine (document : Json) : Bytes.ofText document.text ≠ [] ∧ 0x0a ∉ Bytes.ofText document.text := by
  refine ⟨?_, Text.lineFeed_not_mem document.isPrinted_chars⟩
  intro none
  have empty : document.text.toList = [] := congrArg String.toList (Bytes.ofText_eq_nil.mp none)
  rw [text, String.toList_ofList] at empty
  exact document.chars_ne_nil empty

end Json

end SealedTunnel
