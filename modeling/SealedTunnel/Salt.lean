import SealedTunnel.Error
import SealedTunnel.Bytes

namespace SealedTunnel

/-- Byte `index` of the draw `attempt` from a source of entropy. -/
abbrev Entropy := (attempt index : Nat) → UInt8

/-- Random sources may have a failure: what the system says while it has no entropy to give. -/
inductive SaltSource
  | random (entropy : Entropy) (failure : Option String := none)
  | fixed (salt : Bytes)
  | led (lead : Bytes) (entropy : Entropy) (failure : Option String := none)

namespace SaltSource

def randomBytes (entropy : Entropy) (attempt size : Nat) : Bytes := (List.range size).map (entropy attempt)

/-- Entropy that has failed still gives no bytes to whoever asks for none. -/
def fill (entropy : Entropy) (failure : Option String) (attempt size : Nat) : Except Fault Bytes :=
  match failure with
  | none => .ok (randomBytes entropy attempt size)
  | some reason => if size = 0 then .ok [] else .error (.salt (.entropy reason))

def draw (source : SaltSource) (attempt size : Nat) : Except Fault Bytes :=
  match source with
  | random entropy failure => fill entropy failure attempt size
  | fixed salt =>
    if salt.length = size then .ok salt else .error (.salt (.fixedLength salt.length size))
  | led lead entropy failure =>
    if lead.length > size then .error (.salt (.leadTooLong lead.length size))
    else (fill entropy failure attempt (size - lead.length)).map (lead ++ ·)

def after (source : SaltSource) (draws : Nat) : SaltSource :=
  match source with
  | random entropy failure => random (fun attempt => entropy (draws + attempt)) failure
  | fixed salt => fixed salt
  | led lead entropy failure => led lead (fun attempt => entropy (draws + attempt)) failure

def lead : SaltSource → Bytes
  | led lead _ _ => lead
  | _ => []

def isFixed : SaltSource → Bool
  | fixed _ => true
  | _ => false

def describe : SaltSource → String
  | random _ _ => "RandomSaltGenerator"
  | fixed salt => s!"FixedSaltGenerator \x7b len: {salt.length} \x7d"
  | led lead _ _ => "PrefixSaltGenerator \x7b prefix: [" ++ ", ".intercalate (lead.map fun byte : UInt8 => toString byte.toNat) ++ "] \x7d"

section Fill

variable {entropy : Entropy} {failure : Option String} {attempt size : Nat} {bytes : Bytes} {fault : Fault}

theorem length_of_fill (filled : fill entropy failure attempt size = .ok bytes) : bytes.length = size := by
  cases failure with
  | none =>
    simp only [fill, Except.ok.injEq] at filled
    simp [← filled, randomBytes]
  | some reason =>
    simp only [fill] at filled
    split at filled
    · simp_all
    · simp at filled

theorem fault_of_fill (failed : fill entropy failure attempt size = .error fault) : ∃ cause, fault = .salt cause := by
  cases failure with
  | none => simp [fill] at failed
  | some reason =>
    simp only [fill] at failed
    split at failed
    · simp at failed
    · exact ⟨_, (Except.error.inj failed).symm⟩

end Fill

theorem length_of_draw {source : SaltSource} {attempt size : Nat} {salt : Bytes}
    (drawn : source.draw attempt size = .ok salt) : salt.length = size := by
  cases source with
  | random entropy failure => exact length_of_fill drawn
  | fixed held =>
    simp only [draw] at drawn
    split at drawn
    · simp_all
    · simp at drawn
  | led lead entropy failure =>
    simp only [draw] at drawn
    split at drawn
    · simp at drawn
    · cases filled : fill entropy failure attempt (size - lead.length) with
      | error fault => simp [filled, Except.map] at drawn
      | ok bytes =>
        simp only [filled, Except.map, Except.ok.injEq] at drawn
        simp only [← drawn, List.length_append, length_of_fill filled]
        omega

theorem fault_of_draw {source : SaltSource} {attempt size : Nat} {fault : Fault}
    (failed : source.draw attempt size = .error fault) : ∃ cause, fault = .salt cause := by
  cases source with
  | random entropy failure => exact fault_of_fill failed
  | fixed held =>
    simp only [draw] at failed
    split at failed
    · simp at failed
    · exact ⟨_, (Except.error.inj failed).symm⟩
  | led lead entropy failure =>
    simp only [draw] at failed
    split at failed
    · exact ⟨_, (Except.error.inj failed).symm⟩
    · cases filled : fill entropy failure attempt (size - lead.length) with
      | error cause =>
        simp only [filled, Except.map, Except.error.injEq] at failed
        exact failed ▸ fault_of_fill filled
      | ok bytes => simp [filled, Except.map] at failed

end SaltSource
end SealedTunnel
