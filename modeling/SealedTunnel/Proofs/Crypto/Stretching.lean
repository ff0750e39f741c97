import Mathlib.Logic.Function.Iterate
import SealedTunnel.KeyDerivation

/-!
A stretched key is the beginning of a chain of digests, as long as it has to be. The loop finds the last digest at the end of
what it has derived so far; of the digest itself nothing is used but its size.
-/
namespace SealedTunnel.KeyDerivation

open Digest

def grow (data derived : Bytes) : Bytes := derived ++ md5 (derived.drop (derived.length - md5Size) ++ data)

variable (data derived : Bytes) (length rounds : Nat)

theorem length_grow : (grow data derived).length = derived.length + md5Size := by
  rw [grow, List.length_append, length_md5]

theorem last_grow :
    (grow data derived).drop ((grow data derived).length - md5Size) =
      md5 (derived.drop (derived.length - md5Size) ++ data) := by
  rw [length_grow, Nat.add_sub_cancel, grow, List.drop_left]

theorem length_grow_iterate : ((grow data)^[rounds] derived).length = derived.length + rounds * md5Size := by
  induction rounds with
  | zero => rw [Function.iterate_zero_apply, Nat.zero_mul, Nat.add_zero]
  | succ rounds ih => rw [Function.iterate_succ_apply', length_grow, ih, Nat.succ_mul, Nat.add_assoc]

theorem grow_iterate :
    (grow data)^[rounds] derived =
      derived ++ digestChain data rounds (derived.drop (derived.length - md5Size)) := by
  induction rounds generalizing derived with
  | zero => exact (List.append_nil derived).symm
  | succ rounds ih => rw [Function.iterate_succ_apply, ih, last_grow, digestChain, grow, List.append_assoc]

theorem stretchFrom_short (short : derived.length < length) :
    stretchFrom data length derived = stretchFrom data length (grow data derived) := by
  rw [stretchFrom, if_pos short, grow]

theorem stretchFrom_long (long : length ≤ derived.length) : stretchFrom data length derived = derived.take length := by
  rw [stretchFrom, if_neg (Nat.not_lt.mpr long)]

theorem stretchFrom_eq (enough : length ≤ derived.length + rounds * md5Size) :
    stretchFrom data length derived = ((grow data)^[rounds] derived).take length := by
  induction rounds generalizing derived with
  | zero => exact stretchFrom_long data derived length (by omega)
  | succ rounds ih =>
      by_cases short : derived.length < length
      · rw [stretchFrom_short data derived length short, Function.iterate_succ_apply]
        rw [Nat.succ_mul] at enough
        apply ih
        rw [length_grow]
        omega
      · have long : length ≤ derived.length := Nat.not_lt.mp short
        rw [stretchFrom_long data derived length long, grow_iterate, List.take_append_of_le_length long]

theorem stretch_eq (enough : length ≤ rounds * md5Size) :
    stretch data length = ((grow data)^[rounds] []).take length := by
  apply stretchFrom_eq
  rwa [List.length_nil, Nat.zero_add]

def roundsFor (length : Nat) : Nat := (length + (md5Size - 1)) / md5Size

/-- Stretching takes the rounds for the length and no more, and gives the first bytes of the chain of digests, however far
that is continued. A key is therefore the beginning of every longer one. -/
theorem stretch_chain :
    stretch data length = ((grow data)^[roundsFor length] []).take length ∧
      (∀ rounds < roundsFor length, ((grow data)^[rounds] []).length < length) ∧
      (∀ count, length ≤ count * md5Size → stretch data length = (digestChain data count []).take length) ∧
      (stretch data length).length = length ∧
      ∀ longer, length ≤ longer → stretch data length = (stretch data longer).take length := by
  have chain : ∀ length count, length ≤ count * md5Size →
      stretch data length = (digestChain data count []).take length := by
    intro length count enough
    rw [stretch_eq data length count enough, grow_iterate]
    rfl
  have reached : length ≤ roundsFor length * md5Size := by
    simp only [roundsFor, md5Size]
    omega
  refine ⟨stretch_eq data length _ reached, ?_, chain length, ?_, ?_⟩
  · intro rounds fewer
    rw [length_grow_iterate, List.length_nil]
    simp only [roundsFor, md5Size] at fewer ⊢
    omega
  · rw [stretch_eq data length _ reached, List.length_take, length_grow_iterate, List.length_nil, Nat.zero_add,
      Nat.min_eq_left reached]
  · intro longer more
    have enough : longer ≤ longer * md5Size := Nat.le_mul_of_pos_right longer (by decide)
    rw [chain longer longer enough, chain length longer (Nat.le_trans more enough), List.take_take, Nat.min_eq_left more]

end SealedTunnel.KeyDerivation
