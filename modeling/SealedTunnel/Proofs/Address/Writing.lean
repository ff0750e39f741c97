import SealedTunnel.Proofs.Address.Encoding
import SealedTunnel.Proofs.Address.Reading

namespace SealedTunnel.Target

variable {target : Target} {text : String} {encoded : Bytes}

theorem run_put (bytes buffer : Bytes) : (put bytes).run buffer = (.ok (), buffer ++ bytes) := rfl

theorem run_put_bind {α : Type} (bytes : Bytes) (next : Unit → ExceptT Fault (StateM Bytes) α) (buffer : Bytes) :
    (put bytes >>= next).run buffer = (next ()).run (buffer ++ bytes) := rfl

theorem write_encoded (made : target.encode = .ok encoded) (buffer : Bytes) :
    target.write.run buffer = (.ok (), buffer ++ encoded) := by
  have able := encode_able made
  unfold write
  cases target with
  | ipv4 ip port =>
      cases made
      dsimp only
      rw [run_put_bind, run_put_bind, run_put]
      simp
  | ipv6 ip port flow scope =>
      cases made
      dsimp only
      rw [run_put_bind, run_put_bind, run_put]
      simp
  | domain host port =>
      rw [encode, if_pos able] at made
      cases made
      dsimp only
      rw [if_neg (not_not_intro able), run_put_bind, run_put_bind, run_put_bind, run_put]
      simp

theorem write_refused (unable : ¬ target.isEncodable) (buffer : Bytes) :
    ∃ host port, target = domain host port ∧
      target.write.run buffer = (.error (.address (.domainLength host.utf8ByteSize)), buffer) := by
  obtain ⟨host, port, rfl, -⟩ := encode_refused unable
  refine ⟨host, port, rfl, ?_⟩
  unfold write
  dsimp only
  rw [if_pos unable]
  rfl

theorem isEncodable_parse (parsed : parse text = .ok target) : target.isEncodable := by
  rcases parse_eq_ok parsed with numeric | ⟨name, port, rfl, sized⟩
  · rcases numeric?_eq_some numeric with ⟨ip, port, rfl⟩ | ⟨ip, port, scope, rfl⟩ <;> rfl
  · exact isEncodable_domain.mpr sized

/-- A target is written unless it is a domain of no bytes or too many, and then the buffer stays as it is. What is put
behind the buffer has the announced length, and with anything behind it decodes to the target, all but flow and scope,
and to that length. Targets that are read from text can always be written. -/
theorem written_decodes (target : Target) (buffer : Bytes) :
    ((∃ fault, (target.write.run buffer).1 = .error fault) ↔
      ∃ host port, target = domain host port ∧ (host.utf8ByteSize = 0 ∨ 255 < host.utf8ByteSize)) ∧
    (∀ fault after, target.write.run buffer = (.error fault, after) → after = buffer) ∧
    (∀ after, target.write.run buffer = (.ok (), after) →
      ∃ encoded, after = buffer ++ encoded ∧ encoded.length = target.encodedLength ∧
        ∀ rest, decode (encoded ++ rest) = .ok (target.unscoped, encoded.length)) ∧
    ∀ text, parse text = .ok target → ∃ after, target.write.run buffer = (.ok (), after) := by
  by_cases able : target.isEncodable
  · obtain ⟨encoded, made, length⟩ := encode_encodable able
    have written := write_encoded made buffer
    rw [written]
    refine ⟨⟨?_, ?_⟩, ?_, ?_, fun _ _ => ⟨_, rfl⟩⟩
    · rintro ⟨fault, failed⟩
      cases failed
    · rintro ⟨host, port, rfl, sized⟩
      rw [isEncodable_domain, longestDomain] at able
      omega
    · rintro fault after ⟨⟩
    · rintro after ⟨⟩
      exact ⟨encoded, rfl, length, decode_encode made⟩
  · obtain ⟨host, port, rfl, written⟩ := write_refused able buffer
    rw [written]
    refine ⟨⟨?_, fun _ => ⟨_, rfl⟩⟩, ?_, ?_, fun text parsed => absurd (isEncodable_parse parsed) able⟩
    · intro _
      rw [isEncodable_domain, longestDomain] at able
      exact ⟨host, port, rfl, by omega⟩
    · rintro fault after ⟨⟩
      rfl
    · rintro after ⟨⟩

theorem written_decodes_name :
    ∃ encoded, (domain "a.b" 443).write.run [7] = (.ok (), 7 :: encoded) ∧ encoded.length = 7 ∧
      decode (encoded ++ [1, 2]) = .ok (domain "a.b" 443, 7) := by
  obtain ⟨-, -, written, parsed⟩ := written_decodes (domain "a.b" 443) [7]
  obtain ⟨after, done⟩ := parsed "a.b:443" rfl
  obtain ⟨encoded, rfl, length, decoded⟩ := written after done
  refine ⟨encoded, done, length, ?_⟩
  rw [decoded, length]
  rfl

end SealedTunnel.Target
