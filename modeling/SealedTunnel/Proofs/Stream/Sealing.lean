import SealedTunnel.Proofs.Wire.Encoding
import SealedTunnel.Stream.Sealer

namespace SealedTunnel

namespace SaltSource

def IsAble (salts : SaltSource) (key : MasterKey) : Prop :=
  ∀ attempt, ∃ salt, salts.draw attempt key.saltSize = .ok salt

theorem fill_all (entropy : Entropy) (failure : Option String) (size : Nat) :
    (∀ attempt, ∃ bytes, fill entropy failure attempt size = .ok bytes) ∨
      (∀ attempt, ∃ fault, fill entropy failure attempt size = .error fault) := by
  cases failure with
  | none => exact Or.inl fun attempt => ⟨_, rfl⟩
  | some reason =>
      by_cases none : size = 0
      · exact Or.inl fun attempt => ⟨_, if_pos none⟩
      · exact Or.inr fun attempt => ⟨_, if_neg none⟩

theorem draw_all (salts : SaltSource) (size : Nat) :
    (∀ attempt, ∃ salt, salts.draw attempt size = .ok salt) ∨
      (∀ attempt, ∃ fault, salts.draw attempt size = .error fault) := by
  cases salts with
  | random entropy failure => exact fill_all entropy failure size
  | fixed salt =>
      by_cases sized : salt.length = size
      · exact Or.inl fun attempt => ⟨_, if_pos sized⟩
      · exact Or.inr fun attempt => ⟨_, if_neg sized⟩
  | led lead entropy failure =>
      simp only [draw]
      by_cases long : lead.length > size
      · exact Or.inr fun attempt => ⟨_, if_pos long⟩
      · simp only [if_neg long]
        refine (fill_all entropy failure (size - lead.length)).imp (fun filled attempt => ?_) (fun failed attempt => ?_)
        · obtain ⟨bytes, filled⟩ := filled attempt
          exact ⟨lead ++ bytes, congrArg (Except.map (lead ++ ·)) filled⟩
        · obtain ⟨fault, failed⟩ := failed attempt
          exact ⟨fault, congrArg (Except.map (lead ++ ·)) failed⟩

theorem isAble_of_draw {salts : SaltSource} {key : MasterKey} {attempt : Nat} {salt : Bytes}
    (drawn : salts.draw attempt key.saltSize = .ok salt) : salts.IsAble key := by
  rcases salts.draw_all key.saltSize with able | unable
  · exact able
  · obtain ⟨fault, undrawn⟩ := unable attempt
    cases drawn.symm.trans undrawn

end SaltSource

namespace Sealer

/-- The sealer has sealed these payloads, and these are the bytes for the wire. -/
inductive Wrote (key : MasterKey) (salts : SaltSource) (sealer : Sealer) (payloads : List Bytes) (bytes : Bytes) : Prop
  | nothing (ofKey : sealer.key = key) (ofSalts : sealer.salts = salts) (unbegun : sealer.session = none)
      (nonce : sealer.nonce = .zero) (none : payloads = []) (empty : bytes = [])
  | begun {session : Aead} {salt : Bytes} {attempt : Nat} (ofKey : sealer.key = key)
      (ofSalts : sealer.salts = salts) (drawn : salts.draw attempt key.saltSize = .ok salt)
      (ofSalt : key.session salt = .ok session) (begun : sealer.session = some session)
      (nonce : sealer.nonce = .ofNat (2 * payloads.length)) (sendable : Wire.Sendable payloads)
      (encoded : bytes = salt ++ Wire.frames session 0 payloads)

variable {key : MasterKey} {salts : SaltSource} {sealer : Sealer} {payloads : List Bytes} {bytes : Bytes}

theorem wrote_fresh (key : MasterKey) (salts : SaltSource) : (fresh key salts).Wrote key salts [] [] :=
  .nothing rfl rfl rfl rfl rfl rfl

section SealData

variable {session : Aead} {salt : Bytes} {fault : Fault} {count : Nat}

theorem sealData_begun (begun : sealer.session = some session) (nonce : sealer.nonce = .ofNat count) (data : Bytes) :
    sealer.sealData data = (.ok (Wire.frames session count (data.pieces Wire.longestPayload)),
      { sealer with nonce := .ofNat (count + 2 * (data.pieces Wire.longestPayload).length) }) := by
  have sealed := Wire.chunks_eq session count _ (Wire.sendable_pieces data)
  simp only [sealData, begin, begun, nonce, sealed, List.nil_append]

theorem sealData_first (unbegun : sealer.session = none) (nonce : sealer.nonce = .ofNat count)
    (drawn : sealer.salts.draw sealer.attempts sealer.key.saltSize = .ok salt)
    (ofSalt : sealer.key.session salt = .ok session) (data : Bytes) :
    sealer.sealData data = (.ok (salt ++ Wire.frames session count (data.pieces Wire.longestPayload)),
      { sealer with
        attempts := sealer.attempts + 1
        session := some session
        nonce := .ofNat (count + 2 * (data.pieces Wire.longestPayload).length) }) := by
  have sealed := Wire.chunks_eq session count _ (Wire.sendable_pieces data)
  simp only [sealData, begin, unbegun, drawn, ofSalt, nonce, sealed]

theorem sealData_unsalted (unbegun : sealer.session = none)
    (undrawn : sealer.salts.draw sealer.attempts sealer.key.saltSize = .error fault) (data : Bytes) :
    sealer.sealData data = (.error fault, { sealer with attempts := sealer.attempts + 1 }) := by
  simp only [sealData, begin, unbegun, undrawn]

end SealData

/-- Sealing data adds its pieces behind what there is, unless no salt can be had. -/
theorem Wrote.seal (wrote : sealer.Wrote key salts payloads bytes) (data : Bytes) :
    (∃ sealed after, sealer.sealData data = (.ok sealed, after) ∧
        after.Wrote key salts (payloads ++ data.pieces Wire.longestPayload) (bytes ++ sealed)) ∨
      (∃ fault, sealer.sealData data = (.error fault, { sealer with attempts := sealer.attempts + 1 }) ∧
        salts.draw sealer.attempts key.saltSize = .error fault ∧ sealer.session = none) := by
  have pieces := Wire.sendable_pieces data
  cases wrote with
  | nothing ofKey ofSalts unbegun nonce none empty =>
      subst ofKey ofSalts none empty
      rw [Nonce.zero_eq_ofNat] at nonce
      cases drawn : sealer.salts.draw sealer.attempts sealer.key.saltSize with
      | error fault => exact Or.inr ⟨fault, sealData_unsalted unbegun drawn data, rfl, unbegun⟩
      | ok salt =>
          obtain ⟨session, ofSalt⟩ := sealer.key.session_ok salt
          refine Or.inl ⟨_, _, sealData_first unbegun nonce drawn ofSalt data, .begun rfl rfl drawn ofSalt rfl ?_ pieces rfl⟩
          rw [List.nil_append, Nat.zero_add]
  | @begun session salt attempt ofKey ofSalts drawn ofSalt begun nonce sendable encoded =>
      refine Or.inl ⟨_, _, sealData_begun begun nonce data, .begun ofKey ofSalts drawn ofSalt begun ?_
        (sendable.append pieces) ?_⟩
      · rw [List.length_append, Nat.mul_add]
      · rw [encoded, Wire.frames_append, Nat.zero_add, List.append_assoc]

theorem Wrote.seal_able (wrote : sealer.Wrote key salts payloads bytes) (able : salts.IsAble key) (data : Bytes) :
    ∃ sealed after, sealer.sealData data = (.ok sealed, after) ∧
      after.Wrote key salts (payloads ++ data.pieces Wire.longestPayload) (bytes ++ sealed) := by
  rcases wrote.seal data with made | ⟨fault, -, undrawn, -⟩
  · exact made
  · obtain ⟨salt, drawn⟩ := able sealer.attempts
    cases undrawn.symm.trans drawn

end Sealer
end SealedTunnel
