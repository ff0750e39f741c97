import SealedTunnel.Bytes

/-!
Slots of a buffer. What is written into a slot replaces what stood there; everything in front of it and behind it stays.
-/
namespace SealedTunnel.Bytes

variable {bytes patch : Bytes} {start size : Nat}

theorem overwrite_eq (fits : start + patch.length ≤ bytes.length) :
    bytes.overwrite start patch = bytes.take start ++ patch ++ bytes.drop (start + patch.length) := by
  have whole : patch.take (bytes.length - start) = patch := List.take_of_length_le (by omega)
  rw [overwrite, whole]

theorem take_overwrite (fits : start + patch.length ≤ bytes.length) :
    ((bytes.overwrite start patch).drop start).take patch.length = patch := by
  have front : (bytes.take start).length = start := List.length_take_of_le (by omega)
  rw [overwrite_eq fits, List.append_assoc, List.drop_left' front, List.take_left]

theorem length_overwrite (fits : start + patch.length ≤ bytes.length) :
    (bytes.overwrite start patch).length = bytes.length := by
  simp only [overwrite, List.length_append, List.length_take, List.length_drop]
  omega

theorem overwrite_slot {front old : Bytes} (behind : Bytes) (place : front.length = start)
    (same : patch.length = old.length) : (front ++ (old ++ behind)).overwrite start patch = front ++ (patch ++ behind) := by
  subst place
  rw [overwrite_eq (by simp [same]), List.take_left, ← List.drop_drop, List.drop_left, List.drop_left' same.symm,
    List.append_assoc]

theorem overwrite_front {old : Bytes} (behind : Bytes) (same : patch.length = old.length) :
    (old ++ behind).overwrite 0 patch = patch ++ behind := by
  have place : ([] : Bytes).length = 0 := rfl
  exact overwrite_slot behind place same

theorem drop_overwrite {behind : Nat} (fits : start + patch.length ≤ bytes.length) (later : start + patch.length ≤ behind) :
    (bytes.overwrite start patch).drop behind = bytes.drop behind := by
  have front : (bytes.take start ++ patch).length = start + patch.length := by
    rw [List.length_append, List.length_take_of_le (by omega)]
  obtain ⟨gap, rfl⟩ := Nat.exists_eq_add_of_le later
  rw [overwrite_eq fits, ← List.drop_drop, List.drop_left' front, List.drop_drop]

theorem overwrite_behind {second : Bytes} (fits : start + (patch.length + second.length) ≤ bytes.length) :
    (bytes.overwrite start patch).overwrite (start + patch.length) second = bytes.overwrite start (patch ++ second) := by
  have first : start + patch.length ≤ bytes.length := by omega
  have later : start + patch.length + second.length ≤ (bytes.overwrite start patch).length := by
    rw [length_overwrite first]
    omega
  have both : start + (patch ++ second).length ≤ bytes.length := by rwa [List.length_append]
  have front : (bytes.take start ++ patch).length = start + patch.length := by
    rw [List.length_append, List.length_take_of_le (by omega)]
  calc (bytes.overwrite start patch).overwrite (start + patch.length) second
    _ = (bytes.overwrite start patch).take (start + patch.length) ++ second ++
          (bytes.overwrite start patch).drop (start + patch.length + second.length) := overwrite_eq later
    _ = (bytes.take start ++ patch) ++ second ++ bytes.drop (start + patch.length + second.length) := by
        rw [drop_overwrite first (by omega), overwrite_eq first, List.take_left' front]
    _ = bytes.take start ++ (patch ++ second) ++ bytes.drop (start + (patch ++ second).length) := by
        rw [List.append_assoc (bytes.take start), List.length_append, Nat.add_assoc]
    _ = bytes.overwrite start (patch ++ second) := (overwrite_eq both).symm

theorem overwrite_same (fits : start + size ≤ bytes.length) :
    bytes.overwrite start ((bytes.drop start).take size) = bytes := by
  have slot : ((bytes.drop start).take size).length = size := List.length_take_of_le (by simp; omega)
  rw [overwrite_eq (by omega), slot, List.append_assoc, ← List.drop_drop, List.take_append_drop, List.take_append_drop]

theorem exists_slots {first second third : Nat} (roomy : first + second + third ≤ bytes.length) :
    ∃ one two three rest : Bytes, bytes = one ++ (two ++ (three ++ rest)) ∧
      one.length = first ∧ two.length = second ∧ three.length = third := by
  refine ⟨bytes.take first, (bytes.drop first).take second, ((bytes.drop first).drop second).take third,
    ((bytes.drop first).drop second).drop third, ?_, ?_, ?_, ?_⟩
  · rw [List.take_append_drop, List.take_append_drop, List.take_append_drop]
  all_goals
    simp only [List.length_take, List.length_drop]
    omega

end SealedTunnel.Bytes
