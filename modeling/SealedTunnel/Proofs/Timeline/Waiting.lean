import SealedTunnel.Proofs.Timeline.Course

/-!
A run as a series of tries with waits in between. What goes on during a wait concerns only the connection, so that what
an operation comes to can be told by the calls that are made and by these waits.
-/
namespace SealedTunnel

namespace Poll

variable {α β : Type} {answer : Poll β} {result : β → α}

theorem map_id (answer : Poll α) : answer.map id = answer := by
  cases answer <;> rfl

theorem map_eq_ready {value : α} : answer.map result = .ready value ↔ ∃ found, answer = .ready found ∧ result found = value := by
  cases answer <;> simp [map]

theorem map_eq_stalled {reason : Stall} : answer.map result = .stalled reason ↔ answer = .stalled reason := by
  cases answer <;> simp [map]

end Poll

namespace Timeline

variable {μ ν γ α β ε : Type}

section

variable [Timeline γ]

/-- What goes on at a connection from a stall until it is of use to try again: work in the background, and jumps of the
clock to the next time that somebody waits for. At a limit there is one more try, whatever is waited for. -/
inductive Waits (limit : Option Nat) (reason : Stall) : γ → γ → Prop
  | ripened {line : γ} (quiet : background line = none) (ripe : reason.isOver (now line) (granted line)) :
      Waits limit reason line line
  | background {line next after : γ} (stepped : background line = some next) (rest : Waits limit reason next after) :
      Waits limit reason line after
  | woken {line after : γ} {next : Nat} (quiet : background line = none)
      (stuck : ¬ reason.isOver (now line) (granted line)) (alarmed : nextAlarm reason line = some next)
      (early : ∀ deadline ∈ limit, next < deadline) (rest : Waits limit reason (setClock line next) after) :
      Waits limit reason line after
  | expired {line : γ} {deadline : Nat} (limited : limit = some deadline) (quiet : background line = none)
      (stuck : ¬ reason.isOver (now line) (granted line)) (late : ∀ next ∈ nextAlarm reason line, deadline ≤ next) :
      Waits limit reason line (setClock line deadline)

def Resumes (limit : Option Nat) (reason : Stall) (line after : γ) : Prop :=
  (∀ deadline ∈ limit, now line < deadline) ∧ Waits limit reason line after

end

section

variable (between : Stall → γ → γ → Prop) (poll : μ → γ → Poll α × μ × γ)

inductive Tries : μ → γ → α → μ → γ → Prop
  | ready {state last : μ} {line after : γ} {value : α} (done : poll state line = (.ready value, last, after)) :
      Tries state line value last after
  | stalled {state mid last : μ} {line stopped next after : γ} {reason : Stall} {value : α}
      (tried : poll state line = (.stalled reason, mid, stopped)) (resumed : between reason stopped next)
      (rest : Tries mid next value last after) : Tries state line value last after

def ComesTo (state : μ) (line : γ) (value : α) (after : γ) : Prop := ∃ last, Tries between poll state line value last after

end

inductive Obtains (between : Stall → γ → γ → Prop) (call : γ → Poll α × γ) : γ → α → γ → Prop
  | ready {line after : γ} {value : α} (done : call line = (.ready value, after)) : Obtains between call line value after
  | stalled {line stopped next after : γ} {reason : Stall} {value : α} (tried : call line = (.stalled reason, stopped))
      (resumed : between reason stopped next) (rest : Obtains between call next value after) :
      Obtains between call line value after

section Runs

variable [Timeline γ] {poll : μ → γ → Poll α × μ × γ} {deadline : Nat} {waiting : Option Stall} {state last : μ}
  {line next after : γ} {value : α} {reason : Stall}

theorem Course.tries (course : Course poll waiting state line value last after) :
    waiting.elim (Tries (Resumes none) poll state line value last after) fun reason =>
      ∃ next, Waits none reason line next ∧ Tries (Resumes none) poll state next value last after := by
  induction course with
  | ready done => exact .ready done
  | stalled tried _ ih =>
      obtain ⟨next, waits, rest⟩ := ih
      exact .stalled tried ⟨nofun, waits⟩ rest
  | background stepped _ ih =>
      obtain ⟨next, waits, rest⟩ := ih
      exact ⟨next, .background stepped waits, rest⟩
  | again quiet ripe _ ih => exact ⟨_, .ripened quiet ripe, ih⟩
  | woken quiet stuck alarmed _ ih =>
      obtain ⟨next, waits, rest⟩ := ih
      exact ⟨next, .woken quiet stuck alarmed nofun waits, rest⟩

theorem Waits.course (waits : Waits none reason line next) (rest : Course poll none state next value last after) :
    Course poll (some reason) state line value last after := by
  induction waits with
  | ripened quiet ripe => exact .again quiet ripe rest
  | background stepped _ ih => exact .background stepped (ih rest)
  | woken quiet stuck alarmed _ _ ih => exact .woken quiet stuck alarmed (ih rest)
  | expired limited => cases limited

theorem course_iff_tries :
    Course poll none state line value last after ↔ Tries (Resumes none) poll state line value last after := by
  constructor
  · exact Course.tries
  · intro tries
    induction tries with
    | ready done => exact .ready done
    | stalled tried resumed _ ih => exact .stalled tried (resumed.2.course ih)

theorem Driven.tries {result : Option α} (run : Driven poll deadline waiting state line result last after)
    (finished : result = some value) :
    waiting.elim (Tries (Resumes (some deadline)) poll state line value last after) fun reason =>
      ∃ next, Waits (some deadline) reason line next ∧
        Tries (Resumes (some deadline)) poll state next value last after := by
  induction run with
  | ready done =>
      cases finished
      exact .ready done
  | spent => cases finished
  | stalled tried early _ ih =>
      obtain ⟨next, waits, rest⟩ := ih finished
      exact .stalled tried ⟨by rintro _ ⟨⟩; exact early, waits⟩ rest
  | background stepped _ ih =>
      obtain ⟨next, waits, rest⟩ := ih finished
      exact ⟨next, .background stepped waits, rest⟩
  | again quiet ripe _ ih => exact ⟨_, .ripened quiet ripe, ih finished⟩
  | woken quiet stuck alarmed early _ ih =>
      obtain ⟨next, waits, rest⟩ := ih finished
      exact ⟨next, .woken quiet stuck alarmed (by rintro _ ⟨⟩; exact early) waits, rest⟩
  | expired quiet stuck late _ ih => exact ⟨_, .expired rfl quiet stuck late, ih finished⟩

theorem Waits.driven {result : Option α} (waits : Waits (some deadline) reason line next)
    (rest : Driven poll deadline none state next result last after) :
    Driven poll deadline (some reason) state line result last after := by
  induction waits with
  | ripened quiet ripe => exact .again quiet ripe rest
  | background stepped _ ih => exact .background stepped (ih rest)
  | woken quiet stuck alarmed early _ ih => exact .woken quiet stuck alarmed (early _ rfl) (ih rest)
  | expired limited quiet stuck late =>
      cases limited
      exact .expired quiet stuck late rest

theorem driven_iff_tries : Driven poll deadline none state line (some value) last after ↔
    Tries (Resumes (some deadline)) poll state line value last after := by
  constructor
  · exact fun run => run.tries rfl
  · intro tries
    induction tries with
    | ready done => exact .ready done
    | stalled tried resumed _ ih => exact .stalled tried (resumed.1 _ rfl) (resumed.2.driven ih)

end Runs

section Compound

variable {between : Stall → γ → γ → Prop} {line next after : γ}

theorem Tries.of_eq {poll : μ → γ → Poll α × μ × γ} {state other last : μ} {value : α}
    (same : poll other next = poll state line) (tries : Tries between poll state line value last after) :
    Tries between poll other next value last after := by
  cases tries with
  | ready done => exact .ready (same.trans done)
  | stalled tried resumed rest => exact .stalled (same.trans tried) resumed rest

/-- An operation that does as another, in a state and with a result made of those of the other. -/
theorem comesTo_map {poll : μ → γ → Poll α × μ × γ} {inner : ν → γ → Poll β × ν × γ} {outer : ν → μ} {result : β → α}
    (same : ∀ state line, poll (outer state) line =
      ((inner state line).1.map result, outer (inner state line).2.1, (inner state line).2.2))
    {state : ν} {value : α} : ComesTo between poll (outer state) line value after ↔
      ∃ found, ComesTo between inner state line found after ∧ result found = value := by
  constructor
  · rintro ⟨last, tries⟩
    generalize begun : outer state = start at tries
    induction tries generalizing state with
    | ready done =>
        subst begun
        rw [same] at done
        obtain ⟨answer, left⟩ := Prod.mk.inj done
        obtain ⟨-, rfl⟩ := Prod.mk.inj left
        obtain ⟨found, came, made⟩ := Poll.map_eq_ready.mp answer
        exact ⟨found, ⟨_, .ready (Prod.ext came rfl)⟩, made⟩
    | stalled tried resumed _ ih =>
        subst begun
        rw [same] at tried
        obtain ⟨answer, left⟩ := Prod.mk.inj tried
        obtain ⟨kept, rfl⟩ := Prod.mk.inj left
        have came := Poll.map_eq_stalled.mp answer
        obtain ⟨found, ⟨last, rest⟩, made⟩ := ih kept
        exact ⟨found, ⟨last, .stalled (Prod.ext came rfl) resumed rest⟩, made⟩
  · rintro ⟨found, ⟨last, tries⟩, rfl⟩
    refine ⟨outer last, ?_⟩
    induction tries with
    | ready done =>
        refine .ready ?_
        rw [same, done]
        rfl
    | stalled tried resumed _ ih =>
        refine .stalled ?_ resumed ih
        rw [same, tried]
        rfl

theorem comesTo_ofCall {call : γ → Poll β × γ} {state : Unit} {found : β} :
    ComesTo between (ofCall call) state line found after ↔ Obtains between call line found after := by
  constructor
  · rintro ⟨last, tries⟩
    induction tries with
    | ready done =>
        obtain ⟨answer, same⟩ := Prod.mk.inj done
        exact .ready (Prod.ext answer (Prod.mk.inj same).2)
    | stalled tried resumed _ ih =>
        obtain ⟨answer, same⟩ := Prod.mk.inj tried
        exact .stalled (Prod.ext answer (Prod.mk.inj same).2) resumed ih
  · intro obtains
    refine ⟨(), ?_⟩
    induction obtains with
    | ready done =>
        apply Tries.ready
        rw [ofCall, done]
    | stalled tried resumed _ ih =>
        refine .stalled ?_ resumed ih
        rw [ofCall, tried]

theorem comesTo_call {poll : μ → γ → Poll α × μ × γ} {state : μ} {call : γ → Poll β × γ} {result : β → α}
    (same : ∀ line, poll state line = ((call line).1.map result, state, (call line).2)) {value : α} :
    ComesTo between poll state line value after ↔ ∃ found, Obtains between call line found after ∧ result found = value := by
  have mapped := @comesTo_map μ Unit γ α β between line after poll (ofCall call) (fun _ => state) result (fun _ => same) ()
    value
  simpa only [comesTo_ofCall] using mapped

/-- An operation that begins with another and goes on where that has come to something. -/
def Sequenced (first : ν → γ → Poll (Except ε β) × ν × γ) (inner : ν → μ) (next : β → μ)
    (poll : μ → γ → Poll (Except ε α) × μ × γ) : Prop :=
  ∀ state line, poll (inner state) line =
    match first state line with
    | (.stalled reason, state, line) => (.stalled reason, inner state, line)
    | (.ready (.error error), state, line) => (.ready (.error error), inner state, line)
    | (.ready (.ok value), _, line) => poll (next value) line

inductive Continues (between : Stall → γ → γ → Prop) (poll : μ → γ → Poll (Except ε α) × μ × γ) (next : β → μ)
    (mid : γ) : Except ε β → Except ε α → γ → Prop
  | failed {error : ε} : Continues between poll next mid (.error error) (.error error) mid
  | onward {value : β} {answer : Except ε α} {after : γ} (rest : ComesTo between poll (next value) mid answer after) :
      Continues between poll next mid (.ok value) answer after

variable {first : ν → γ → Poll (Except ε β) × ν × γ} {inner : ν → μ} {goesOn : β → μ}
  {poll : μ → γ → Poll (Except ε α) × μ × γ} {state : ν} {answer : Except ε α}

theorem Sequenced.comesTo_iff (sequenced : Sequenced first inner goesOn poll) :
    ComesTo between poll (inner state) line answer after ↔
      ∃ result mid, ComesTo between first state line result mid ∧ Continues between poll goesOn mid result answer after := by
  constructor
  · rintro ⟨last, tries⟩
    generalize begun : inner state = start at tries
    induction tries generalizing state with
    | @ready _ last line after _ done =>
        subst begun
        rw [sequenced] at done
        cases came : first state line with
        | mk tried rest =>
            rw [came] at done
            match tried with
            | .stalled reason => cases done
            | .ready (.error error) =>
                cases done
                exact ⟨_, _, ⟨_, .ready came⟩, .failed⟩
            | .ready (.ok value) => exact ⟨_, _, ⟨_, .ready came⟩, .onward ⟨last, .ready done⟩⟩
    | @stalled _ _ last line _ _ _ _ _ tried resumed rest ih =>
        subst begun
        rw [sequenced] at tried
        cases came : first state line with
        | mk answer mid =>
            rw [came] at tried
            match answer with
            | .stalled reason =>
                cases tried
                obtain ⟨result, mid, ⟨left, before⟩, behind⟩ := ih rfl
                exact ⟨result, mid, ⟨left, .stalled came resumed before⟩, behind⟩
            | .ready (.error error) => cases tried
            | .ready (.ok value) => exact ⟨_, _, ⟨_, .ready came⟩, .onward ⟨last, .stalled tried resumed rest⟩⟩
  · rintro ⟨result, mid, ⟨left, tries⟩, behind⟩
    induction tries with
    | @ready _ left _ _ _ done =>
        cases behind with
        | failed =>
            refine ⟨inner left, .ready ?_⟩
            rw [sequenced, done]
        | onward rest =>
            obtain ⟨last, rest⟩ := rest
            refine ⟨last, .of_eq ?_ rest⟩
            rw [sequenced, done]
    | stalled tried resumed _ ih =>
        obtain ⟨last, rest⟩ := ih behind
        refine ⟨last, .stalled ?_ resumed rest⟩
        rw [sequenced, tried]

end Compound
end Timeline
end SealedTunnel
