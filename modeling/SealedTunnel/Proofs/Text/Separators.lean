import SealedTunnel.Text.CharClass
import SealedTunnel.Text.Split

/-!
Text put together and taken apart again: cut at a separator that one side does not hold, with nothing to trim.
-/
namespace SealedTunnel.Text

variable {separator : Char} {front behind chars : List Char}

theorem splitFirst?_absent (absent : separator ∉ chars) : splitFirst? separator chars = none := by
  induction chars with
  | nil => rfl
  | cons c rest ih =>
      obtain ⟨other, later⟩ := List.ne_and_not_mem_of_not_mem_cons absent
      rw [splitFirst?, if_neg (Ne.symm other), ih later]
      rfl

theorem splitFirst?_append (absent : separator ∉ front) (behind : List Char) :
    splitFirst? separator (front ++ separator :: behind) = some (front, behind) := by
  induction front with
  | nil => simp [splitFirst?]
  | cons c rest ih =>
      obtain ⟨other, later⟩ := List.ne_and_not_mem_of_not_mem_cons absent
      rw [List.cons_append, splitFirst?, if_neg (Ne.symm other), ih later]
      rfl

theorem cut_unique {other tail : List Char} (absent : separator ∉ front) (also : separator ∉ other)
    (same : front ++ separator :: behind = other ++ separator :: tail) : front = other ∧ behind = tail := by
  have cut := splitFirst?_append absent behind
  rw [same, splitFirst?_append also tail] at cut
  cases cut
  exact ⟨rfl, rfl⟩

theorem pieces_absent (absent : separator ∉ chars) : pieces separator chars = [chars] := by
  induction chars with
  | nil => rfl
  | cons c rest ih =>
      obtain ⟨other, later⟩ := List.ne_and_not_mem_of_not_mem_cons absent
      rw [pieces, if_neg (Ne.symm other), ih later]

theorem splitLast?_absent (absent : separator ∉ chars) : splitLast? separator chars = none := by
  induction chars with
  | nil => rfl
  | cons c rest ih =>
      obtain ⟨other, later⟩ := List.ne_and_not_mem_of_not_mem_cons absent
      simp [splitLast?, ih later, Ne.symm other]

theorem splitLast?_append (front : List Char) (absent : separator ∉ behind) :
    splitLast? separator (front ++ separator :: behind) = some (front, behind) := by
  induction front with
  | nil => simp [splitLast?, splitLast?_absent absent]
  | cons c rest ih => simp [splitLast?, ih]

theorem splitLast?_eq_some : splitLast? separator chars = some (front, behind) ↔
    chars = front ++ separator :: behind ∧ separator ∉ behind := by
  constructor
  · intro cut
    by_cases absent : separator ∈ chars
    · obtain ⟨reversed, rest, same, none⟩ := List.eq_append_cons_of_mem (List.mem_reverse.mpr absent)
      have last : chars = rest.reverse ++ separator :: reversed.reverse := by
        simpa using congrArg List.reverse same
      rw [last, splitLast?_append _ (by simpa using none)] at cut
      cases cut
      exact ⟨last, by simpa using none⟩
    · rw [splitLast?_absent absent] at cut
      cases cut
  · rintro ⟨rfl, absent⟩
    exact splitLast?_append front absent

section Ends

variable {p : Char → Bool} {first last : Char}

theorem strip_eq (head : chars.head? = some first) (tail : chars.getLast? = some last)
    (kept : p first = false) (also : p last = false) : ((chars.dropWhile p).reverse.dropWhile p).reverse = chars := by
  have whole : chars.dropWhile p = chars := by
    cases chars with
    | nil => cases head
    | cons c rest =>
        cases head
        exact List.dropWhile_cons_of_neg (by simp [kept])
  have back : chars.reverse.dropWhile p = chars.reverse := by
    cases reversed : chars.reverse with
    | nil => rfl
    | cons c rest =>
        rw [← List.head?_reverse, reversed] at tail
        cases tail
        exact List.dropWhile_cons_of_neg (by simp [also])
  rw [whole, back, List.reverse_reverse]

def isVisible (c : Char) : Bool := 0x21 ≤ c.toNat ∧ c.toNat < 0x7f

theorem isBlank_visible {c : Char} (visible : isVisible c) : isBlank c = false := by
  -- The first four bounds lie below all of these characters, and the others above.
  have count : ∀ code < 0x7f, 0x21 ≤ code →
      blankBounds.foldl (fun count bound => if bound ≤ code then count + 1 else count) 0 = 4 := by
    decide +kernel
  simp only [isVisible, decide_eq_true_eq] at visible
  rw [isBlank, within, count c.toNat visible.2 visible.1]
  rfl

theorem trim_eq {text : String} (head : text.toList.head? = some first) (tail : text.toList.getLast? = some last)
    (visible : isVisible first) (also : isVisible last) : trim text = text := by
  rw [trim, trimmed, strip_eq head tail (isBlank_visible visible) (isBlank_visible also), String.ofList_toList]

end Ends
end SealedTunnel.Text
