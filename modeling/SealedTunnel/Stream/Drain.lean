import SealedTunnel.Poll

namespace SealedTunnel

def IoError.stuck : IoError := .bare .writeZero

/-- Hands bytes to the sink until all are accepted; what is left over otherwise. An interrupted write
is made again, and a sink that takes nothing makes it fail with `stuck`. -/
def drain {σ : Type} [ByteSink σ] (stuck : IoError) (sink : σ) (bytes : Bytes) :
    Poll (Except IoError Unit) × Bytes × σ :=
  if _some : bytes.length = 0 then (.ready (.ok ()), [], sink)
  else
    match _written : ByteSink.write sink bytes with
    | (.stalled reason, sink) => (.stalled reason, bytes, sink)
    | (.ready (.error error), after) =>
      if _interrupted : error.kind = .interrupted then drain stuck after bytes
      else (.ready (.error error), bytes, after)
    | (.ready (.ok 0), sink) => (.ready (.error stuck), bytes, sink)
    | (.ready (.ok (count + 1)), sink) => drain stuck sink (bytes.drop (count + 1))
termination_by (bytes.length, ByteSink.interruptions sink)
decreasing_by
  · have fewer := ByteSink.interruptions_write _ _ error (congrArg Prod.fst _written) _interrupted
    rw [_written] at fewer
    exact Prod.Lex.right _ fewer
  · exact Prod.Lex.left _ _ (by simp only [List.length_drop]; omega)

theorem drain_error {σ : Type} [ByteSink σ] {stuck error : IoError} {sink after : σ} {bytes rest : Bytes}
    (final : stuck.kind ≠ .interrupted) (failed : drain stuck sink bytes = (.ready (.error error), rest, after)) : error.kind ≠ .interrupted := by
  fun_induction drain stuck sink bytes with
  | case1 => simp at failed
  | case2 => simp at failed
  | case3 _ _ _ _ _ _ _ ih => exact ih failed
  | case4 _ _ _ _ _ _ uninterrupted =>
    simp only [Prod.mk.injEq, Poll.ready.injEq, Except.error.injEq] at failed
    rw [← failed.1]
    exact uninterrupted
  | case5 =>
    simp only [Prod.mk.injEq, Poll.ready.injEq, Except.error.injEq] at failed
    rw [← failed.1]
    exact final
  | case6 _ _ _ _ _ _ ih => exact ih failed

section Write

variable {σ : Type} [ByteSink σ] {sink after : σ} {error : IoError} {bytes : Bytes}

theorem drain_write (stuck : IoError) (some : bytes ≠ []) :
    drain stuck sink bytes = match ByteSink.write sink bytes with
      | (.stalled reason, after) => (.stalled reason, bytes, after)
      | (.ready (.error error), after) =>
        if error.kind = .interrupted then drain stuck after bytes else (.ready (.error error), bytes, after)
      | (.ready (.ok 0), after) => (.ready (.error stuck), bytes, after)
      | (.ready (.ok (count + 1)), after) => drain stuck after (bytes.drop (count + 1)) := by
  fun_cases drain stuck sink bytes with
  | case1 none => exact absurd (List.length_eq_zero_iff.mp none) some
  | case2 _ reason next written | case5 _ next written | case6 _ next count written => rw [written]
  | case3 _ error next written interrupted =>
      rw [written]
      exact (if_pos interrupted).symm
  | case4 _ error next written final =>
      rw [written]
      exact (if_neg final).symm

theorem drain_fails (stuck : IoError) (some : bytes ≠ [])
    (failed : ByteSink.write sink bytes = (.ready (.error error), after)) (final : error.kind ≠ .interrupted) :
    drain stuck sink bytes = (.ready (.error error), bytes, after) := by
  rw [drain_write stuck some, failed]
  exact if_neg final

theorem drain_interrupted (stuck : IoError) (some : bytes ≠ [])
    (failed : ByteSink.write sink bytes = (.ready (.error error), after)) (interrupted : error.kind = .interrupted) :
    drain stuck sink bytes = drain stuck after bytes := by
  rw [drain_write stuck some, failed]
  exact if_pos interrupted

theorem drain_stalls (stuck : IoError) (some : bytes ≠ []) {reason : Stall}
    (stalled : ByteSink.write sink bytes = (.stalled reason, after)) :
    drain stuck sink bytes = (.stalled reason, bytes, after) := by
  rw [drain_write stuck some, stalled]

theorem drain_takes (stuck : IoError) (some : bytes ≠ [])
    (taken : ByteSink.write sink bytes = (.ready (.ok bytes.length), after)) :
    drain stuck sink bytes = (.ready (.ok ()), [], after) := by
  obtain ⟨byte, rest, rfl⟩ := List.exists_cons_of_ne_nil some
  rw [drain_write stuck some, taken]
  dsimp only [List.length_cons]
  rw [← List.length_cons, List.drop_length, drain]
  rfl

end Write
end SealedTunnel
