import SealedTunnel.Stream.Reader

/-!
Sources as their reader hears them: what interrupts a read is written down, and `Delivers` says that
a source yields certain bytes and nothing else, whatever it does in between.
-/
namespace SealedTunnel

inductive Interruption
  | stalled (reason : Stall)
  | failed (error : IoError)
  deriving DecidableEq, Repr

namespace Interruption

def answer : Interruption → Poll (Except IoError Bytes)
  | stalled reason => .stalled reason
  | failed error => .ready (.error error)

def ofAnswer : Poll (Except IoError Bytes) → List Interruption
  | .stalled reason => [stalled reason]
  | .ready (.error error) => [failed error]
  | .ready (.ok _) => []

end Interruption

structure Heard (ρ : Type) where
  source : ρ
  interruptions : List Interruption

namespace Heard

variable {ρ : Type} [ByteSource ρ]

def read (heard : Heard ρ) (room : Nat) : Poll (Except IoError Bytes) × Heard ρ :=
  let (answer, source) := ByteSource.read heard.source room
  (answer, ⟨source, heard.interruptions ++ Interruption.ofAnswer answer⟩)

instance : ByteSource (Heard ρ) where
  read := read
  supply heard := ByteSource.supply heard.source
  supply_read heard room bytes done := ByteSource.supply_read heard.source room bytes done

theorem read_eq {heard after : Heard ρ} {room : Nat} {answer : Poll (Except IoError Bytes)}
    (done : ByteSource.read heard room = (answer, after)) :
    ByteSource.read heard.source room = (answer, after.source) ∧
      after.interruptions = heard.interruptions ++ Interruption.ofAnswer answer := by
  obtain ⟨rfl, rfl⟩ := Prod.mk.inj done
  exact ⟨rfl, rfl⟩

end Heard

/-- What a source `yields` comes piece by piece, none of it is lost or doubled by an interruption, and
the source does not end before the last of it. -/
structure Delivers {ρ : Type} [ByteSource ρ] (yields : ρ → Bytes → Prop) : Prop where
  piece : ∀ {source next : ρ} {left bytes : Bytes} {room : Nat}, yields source left →
    ByteSource.read source room = (.ready (.ok bytes), next) → ∃ later, left = bytes ++ later ∧ yields next later
  ended : ∀ {source next : ρ} {left : Bytes} {room : Nat}, yields source left → 0 < room →
    ByteSource.read source room = (.ready (.ok []), next) → left = []
  failed : ∀ {source next : ρ} {left : Bytes} {room : Nat} {error : IoError}, yields source left →
    ByteSource.read source room = (.ready (.error error), next) → yields next left
  stalled : ∀ {source next : ρ} {left : Bytes} {room : Nat} {reason : Stall}, yields source left →
    ByteSource.read source room = (.stalled reason, next) → yields next left

/-- A source of these bytes: they come in some pieces, between which it may stall and fail. -/
def Yields {ρ : Type} [ByteSource ρ] (source : ρ) (bytes : Bytes) : Prop :=
  ∃ yields : ρ → Bytes → Prop, Delivers yields ∧ yields source bytes

def Gathered.Reports (left : Bytes) (before after : List Interruption) (length needed : Nat) : Gathered → Prop
  | .enough => needed ≤ length ∧ after = before
  | .ended => length < needed ∧ left = [] ∧ after = before
  | .failed error => after = before ++ [.failed error]
  | .stalled reason => after = before ++ [.stalled reason]

variable {ρ : Type} [ByteSource ρ] {yields : ρ → Bytes → Prop}

theorem gather_reports (delivers : Delivers yields) (heard : Heard ρ) (buffer : Bytes) (needed : Nat) {left : Bytes}
    (has : yields heard.source left) :
    ∃ later, yields (gather heard buffer needed).2.1.source later ∧
      (gather heard buffer needed).2.2 ++ later = buffer ++ left ∧
      (gather heard buffer needed).1.Reports later heard.interruptions
        (gather heard buffer needed).2.1.interruptions (gather heard buffer needed).2.2.length needed := by
  fun_induction gather heard buffer needed generalizing left with
  | case1 heard buffer full => exact ⟨left, has, rfl, full, rfl⟩
  | case2 heard buffer short reason after done =>
      obtain ⟨read, noted⟩ := Heard.read_eq done
      exact ⟨left, delivers.stalled has read, rfl, noted⟩
  | case3 heard buffer short error after done =>
      obtain ⟨read, noted⟩ := Heard.read_eq done
      exact ⟨left, delivers.failed has read, rfl, noted⟩
  | case4 heard buffer short after done =>
      obtain ⟨read, noted⟩ := Heard.read_eq done
      obtain ⟨later, same, still⟩ := delivers.piece has read
      have empty : left = [] := delivers.ended has (by omega) read
      have none : later = [] := (List.nil_append later).symm.trans (same.symm.trans empty)
      exact ⟨later, still, congrArg (buffer ++ ·) same.symm, Nat.lt_of_not_le short, none,
        noted.trans (List.append_nil _)⟩
  | case5 heard buffer short byte rest after done ih =>
      obtain ⟨read, noted⟩ := Heard.read_eq done
      have quiet : after.interruptions = heard.interruptions := noted.trans (List.append_nil _)
      obtain ⟨later, same, still⟩ := delivers.piece has read
      obtain ⟨last, has, moved, reports⟩ := ih still
      refine ⟨last, has, ?_, quiet ▸ reports⟩
      rw [moved, same, List.append_assoc]

end SealedTunnel
