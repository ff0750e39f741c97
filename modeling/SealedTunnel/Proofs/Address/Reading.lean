import SealedTunnel.Proofs.Text.Numerals
import SealedTunnel.Target

/-!
What reading an address takes from the front of a text: nothing but digits, colons and dots. And what targets a text can
name.
-/
namespace SealedTunnel

open Text (NumberForm isDigitOf)

def isAddressChar (c : Char) : Bool := isDigitOf 16 c ∨ c = ':' ∨ c = '.'

/-- From `chars` on, an address may have been read as far as `rest`. -/
def Spans (chars rest : List Char) : Prop := ∃ front, chars = front ++ rest ∧ ∀ c ∈ front, isAddressChar c

variable {chars mid rest : List Char} {c : Char}

theorem isAddressChar_digit {base : Nat} (small : base ≤ 16) (digit : isDigitOf base c) : isAddressChar c := by
  simp [isAddressChar, Text.isDigitOf_mono small digit]

namespace Spans

theorem refl (chars : List Char) : Spans chars chars := ⟨[], rfl, by simp⟩

theorem trans (first : Spans chars mid) (second : Spans mid rest) : Spans chars rest := by
  obtain ⟨front, rfl, digits⟩ := first
  obtain ⟨next, rfl, others⟩ := second
  refine ⟨front ++ next, (List.append_assoc ..).symm, ?_⟩
  intro c member
  rcases List.mem_append.mp member with member | member
  · exact digits c member
  · exact others c member

theorem mark (known : isAddressChar c) (expected : expectChar c chars = some rest) : Spans chars rest := by
  cases chars with
  | nil => cases expected
  | cons head tail =>
      rw [expectChar] at expected
      split at expected
      · rename_i same
        cases expected
        exact ⟨[head], rfl, by simpa [same] using known⟩
      · cases expected

theorem number {form : NumberForm} {value : Nat} (base : form.base ≤ 16)
    (read : form.read chars = some (value, rest)) : Spans chars rest := by
  have kept : rest = chars.dropWhile (isDigitOf form.base) := by
    unfold NumberForm.read at read
    dsimp only at read
    repeat' split at read
    all_goals cases read
    rfl
  refine ⟨chars.takeWhile (isDigitOf form.base), by rw [kept, List.takeWhile_append_dropWhile], ?_⟩
  intro c member
  exact isAddressChar_digit base (List.all_eq_true.mp List.all_takeWhile c member)

theorem ipv4 {ip : Ipv4} (read : Ipv4.read chars = some (ip, rest)) : Spans chars rest := by
  simp only [Ipv4.read, Option.bind_eq_bind, Option.bind_eq_some_iff, Option.pure_def] at read
  obtain ⟨_, a, _, dot, _, b, _, dot', _, c, _, dot'', _, d, made⟩ := read
  cases made
  have base : Ipv4.octetForm.base ≤ 16 := by decide
  have known : isAddressChar '.' := by decide
  exact (number base a).trans <| (mark known dot).trans <| (number base b).trans <| (mark known dot').trans <|
    (number base c).trans <| (mark known dot'').trans (number base d)

theorem separator {first : Bool} (read : Ipv6.separator first chars = some rest) : Spans chars rest := by
  unfold Ipv6.separator at read
  split at read
  · cases read
    exact refl chars
  · exact mark (by decide) read

theorem groups : ∀ (limit : Nat) (first : Bool) (chars : List Char),
    Spans chars (Ipv6.readGroups limit first chars).2.2
  | 0, _, chars => refl chars
  | limit + 1, first, chars => by
      rw [Ipv6.readGroups]
      split
      · rename_i ip rest embedded
        split at embedded
        · cases embedded
        · obtain ⟨mid, separated, read⟩ := Option.bind_eq_some_iff.mp embedded
          exact (separator separated).trans (ipv4 read)
      · split
        · rename_i group rest read
          obtain ⟨mid, separated, read⟩ := Option.bind_eq_some_iff.mp read
          have later := groups limit false rest
          exact (separator separated).trans ((number (by decide) read).trans later)
        · exact refl chars

theorem ipv6 {ip : Ipv6} (read : Ipv6.read chars = some (ip, rest)) : Spans chars rest := by
  unfold Ipv6.read at read
  dsimp only at read
  split at read
  · cases read
    exact groups 8 true chars
  · split at read
    · cases read
    · simp only [Option.bind_eq_bind, Option.bind_eq_some_iff, Option.pure_def] at read
      obtain ⟨_, colon, _, colon', made⟩ := read
      cases made
      have known : isAddressChar ':' := by decide
      exact (groups 8 true chars).trans <| (mark known colon).trans <| (mark known colon').trans (groups _ true _)

end Spans

theorem IpAddress.readWhole?_eq_some {α : Type} {read : List Char → Option (α × List Char)} {value : α} :
    readWhole? read chars = some value ↔ read chars = some (value, []) := by
  unfold readWhole?
  constructor
  · intro whole
    split at whole
    · rename_i same
      cases whole
      exact same
    · cases whole
  · intro whole
    rw [whole]

theorem Ipv6.isAddressChar_of_read {ip : Ipv6} (whole : IpAddress.readWhole? Ipv6.read chars = some ip) :
    ∀ c ∈ chars, isAddressChar c := by
  obtain ⟨front, same, digits⟩ := Spans.ipv6 (IpAddress.readWhole?_eq_some.mp whole)
  rw [same, List.append_nil]
  exact digits

namespace Target

variable {target : Target} {text : String}

theorem readIpv4_eq_some (read : readIpv4 chars = some (target, rest)) : ∃ ip port, target = ipv4 ip port := by
  simp only [readIpv4, Option.bind_eq_bind, Option.bind_eq_some_iff, Option.pure_def] at read
  obtain ⟨ip, -, port, -, made⟩ := read
  cases made
  exact ⟨_, _, rfl⟩

theorem readIpv6_eq_some (read : readIpv6 chars = some (target, rest)) :
    ∃ ip port scope, target = ipv6 ip port 0 scope := by
  simp only [readIpv6, Option.bind_eq_bind, Option.bind_eq_some_iff, Option.pure_def] at read
  obtain ⟨_, -, ip, -, _, -, port, -, made⟩ := read
  cases made
  exact ⟨_, _, _, rfl⟩

/-- An address in a text may name a scope, but no flow. -/
theorem numeric?_eq_some (numeric : numeric? text = some target) :
    (∃ ip port, target = ipv4 ip port) ∨ ∃ ip port scope, target = ipv6 ip port 0 scope := by
  unfold numeric? at numeric
  cases first : IpAddress.readWhole? readIpv4 text.toList with
  | some same =>
      rw [first] at numeric
      cases numeric
      exact Or.inl (readIpv4_eq_some (IpAddress.readWhole?_eq_some.mp first))
  | none =>
      rw [first] at numeric
      exact Or.inr (readIpv6_eq_some (IpAddress.readWhole?_eq_some.mp numeric))

theorem parse_eq_ok (parsed : parse text = .ok target) :
    numeric? text = some target ∨
      ∃ name port, target = domain name port ∧ 0 < name.utf8ByteSize ∧ name.utf8ByteSize ≤ longestDomain := by
  unfold parse at parsed
  split at parsed
  · next numeric =>
      cases parsed
      exact Or.inl numeric
  · split at parsed
    · cases parsed
    · split at parsed
      · cases parsed
      · dsimp only at parsed
        split at parsed
        · cases parsed
        · next sized =>
            split at parsed
            · cases parsed
            · cases parsed
              exact Or.inr ⟨_, _, rfl, by omega⟩

end Target
end SealedTunnel
