import Mathlib.Data.Set.Function
import Mathlib.Logic.Function.Iterate
import SealedTunnel.Nonce

namespace SealedTunnel.Nonce

theorem carry_ofNatLE (width count : Nat) :
    carry (Bytes.ofNatLE width count) = Bytes.ofNatLE width (count + 1) := by
  induction width generalizing count with
  | zero => rfl
  | succ width ih =>
      have step : UInt8.ofNat count + 1 = UInt8.ofNat (count + 1) := by simp
      have turn : UInt8.ofNat (count + 1) = 0 ↔ (count + 1) % 256 = 0 := by
        rw [← UInt8.toNat_inj, UInt8.toNat_ofNat']
        rfl
      simp only [Bytes.ofNatLE, carry, step, ih]
      by_cases wraps : (count + 1) % 256 = 0
      · have next : count / 256 + 1 = (count + 1) / 256 := by omega
        rw [if_pos (turn.mpr wraps), turn.mpr wraps, next]
      · have same : count / 256 = (count + 1) / 256 := by omega
        rw [if_neg (fun zero => wraps (turn.mp zero)), same]

@[simp] theorem next_ofNat (count : Nat) : (ofNat count).next = ofNat (count + 1) := by
  simp only [next, ofNat, mk.injEq]
  exact carry_ofNatLE nonceSize count

theorem zero_eq_ofNat : zero = ofNat 0 := by decide

theorem ofNatLE_toNatLE (bytes : Bytes) : Bytes.ofNatLE bytes.length bytes.toNatLE = bytes := by
  induction bytes with
  | nil => rfl
  | cons byte rest ih =>
      have size := byte.toNat_lt
      have low : UInt8.ofNat (byte.toNat + 256 * Bytes.toNatLE rest) = byte := by
        rw [← UInt8.toNat_inj, UInt8.toNat_ofNat']
        omega
      have high : (byte.toNat + 256 * Bytes.toNatLE rest) / 256 = Bytes.toNatLE rest := by omega
      rw [List.length_cons, Bytes.toNatLE, Bytes.ofNatLE, low, high, ih]

theorem ofNat_value (nonce : Nonce) : ofNat nonce.value = nonce := by
  obtain ⟨bytes, length⟩ := nonce
  rw [ofNat, mk.injEq, ← length]
  exact ofNatLE_toNatLE bytes

theorem toNatLE_ofNatLE (width count : Nat) : (Bytes.ofNatLE width count).toNatLE = count % Nat.pow 256 width := by
  induction width generalizing count with
  | zero => exact (Nat.mod_one count).symm
  | succ width ih =>
      have more : Nat.pow 256 (width + 1) = 256 * Nat.pow 256 width := Nat.mul_comm _ _
      rw [Bytes.ofNatLE, Bytes.toNatLE, ih, UInt8.toNat_ofNat', more, Nat.mod_mul]

theorem value_ofNat (count : Nat) : (ofNat count).value = count % Nat.pow 2 96 := by
  have all : Nat.pow 2 96 = Nat.pow 256 nonceSize := by decide
  rw [all]
  exact toNatLE_ofNatLE nonceSize count

theorem next_eq (nonce : Nonce) : nonce.next = ofNat (nonce.value + 1) := by
  have step := next_ofNat nonce.value
  rwa [ofNat_value] at step

theorem next_iterate (count : Nat) : next^[count] zero = ofNat count := by
  induction count with
  | zero => exact zero_eq_ofNat
  | succ count ih => rw [Function.iterate_succ_apply', ih, next_ofNat]

theorem ofNatLE_inj {width first second : Nat} (one : first < Nat.pow 256 width) (two : second < Nat.pow 256 width)
    (same : Bytes.ofNatLE width first = Bytes.ofNatLE width second) : first = second := by
  induction width generalizing first second with
  | zero =>
      have only : Nat.pow 256 0 = 1 := rfl
      omega
  | succ width ih =>
      have more : Nat.pow 256 (width + 1) = Nat.pow 256 width * 256 := rfl
      obtain ⟨low, high⟩ := List.cons.inj same
      have low := congrArg UInt8.toNat low
      have high := ih (by omega) (by omega) high
      simp only [UInt8.toNat_ofNat'] at low
      omega

theorem ofNat_inj {first second : Nat} (one : first < Nat.pow 2 96) (two : second < Nat.pow 2 96)
    (same : ofNat first = ofNat second) : first = second := by
  have all : Nat.pow 2 96 = Nat.pow 256 nonceSize := by decide
  rw [all] at one two
  exact ofNatLE_inj one two (congrArg Nonce.bytes same)

/-- A step from any nonce adds one modulo `2^96`. So many steps from zero lead to their number, and below `2^96` no two
numbers of steps lead to one nonce. -/
theorem next_counts (nonce : Nonce) (count : Nat) :
    nonce.next.value = (nonce.value + 1) % Nat.pow 2 96 ∧ (next^[count] zero).value = count % Nat.pow 2 96 ∧
      Set.InjOn (fun steps => next^[steps] zero) {steps | steps < Nat.pow 2 96} := by
  refine ⟨?_, ?_, ?_⟩
  · rw [next_eq, value_ofNat]
  · rw [next_iterate, value_ofNat]
  · intro first one second two same
    simp only [next_iterate] at same
    exact ofNat_inj one two same

end SealedTunnel.Nonce
