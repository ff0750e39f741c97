import SealedTunnel.Proofs.Connectivity.Routes
import SealedTunnel.Scripted.Probing

namespace SealedTunnel.Scripted.Site

open Connectivity (Access Conduct Cut)
open Timeline (Regular setClock)

variable {γ δ : Type} [Timeline γ] {deadline : Nat}

/-- An attempt that is over, if it is ever, when its time is. -/
inductive Reaches (enter : γ → δ) : Site γ → Except TunnelError δ → Site γ → Prop
  | connected {wait start connects : Nat} {far : γ} :
      Reaches enter ⟨⟨wait, .done⟩, start, connects, far⟩ (.ok (enter (setClock far (start + wait))))
        ⟨⟨wait, .done⟩, start + wait, connects + 1, far⟩
  | failed {wait start connects : Nat} {far : γ} {error : TunnelError} :
      Reaches enter ⟨⟨wait, .failed error⟩, start, connects, far⟩ (.error error)
        ⟨⟨wait, .failed error⟩, start + wait, connects + 1, far⟩

section Connect

variable {enter : γ → δ} {site after : Site γ} {result : Except TunnelError δ}

theorem connect_eq_some : site.connect enter deadline = (some result, after) ↔
    Reaches enter site result after ∧ after.now ≤ deadline := by
  obtain ⟨⟨wait, ending⟩, start, connects, far⟩ := site
  unfold connect Attempt.runUntil
  dsimp only
  constructor
  · intro made
    split at made
    · cases made
    · rename_i inTime
      cases ending with
      | done =>
          cases made
          exact ⟨.connected, Nat.not_lt.mp inTime⟩
      | failed error =>
          cases made
          exact ⟨.failed, Nat.not_lt.mp inTime⟩
      | hanging => cases made
  · rintro ⟨reaches, inTime⟩
    have punctual : ¬ deadline < after.now := Nat.not_lt.mpr inTime
    cases reaches <;> simp only [if_neg punctual, Option.map_some, Except.map]

theorem now_connect_none (late : site.connect enter deadline = (none, after)) : after.now = deadline := by
  unfold connect Attempt.runUntil at late
  dsimp only at late
  split at late
  · cases late
    rfl
  · split at late <;> cases late
    rfl

theorem cut_connect (enter : γ → δ) (site : Site γ) :
    Cut Site.now deadline (.steady (Reaches enter site)) (site.connect enter deadline) where
  ended value after := by rw [connect_eq_some, Conduct.ends_steady]
  late _ made := now_connect_none made

end Connect

def entering (way : Except Fault (γ → δ)) (site : Site γ) : Conduct (Site γ) (Except TunnelError δ) :=
  match way with
  | .error fault => .atOnce (.error (.fault fault)) site
  | .ok enter => .steady (Reaches enter site)

section Punctual

variable [Timeline δ] {access : Access (Site γ) δ}

theorem punctual_refused {fault : Fault}
    (refuses : ∀ deadline site, access.connect deadline site = (some (.error (.fault fault)), site)) :
    access.Punctual (entering (.error fault : Except Fault (γ → δ))) where
  cut deadline site begun := by
    rw [refuses]
    exact Connectivity.cut_atOnce begun
  shows _ _ _ done := by cases done.1
  showsLast _ _ _ _ tried := by cases tried.1

variable [Regular γ]

theorem now_reached {enter : γ → δ} (keeps : ∀ line, Timeline.now (enter line) = Timeline.now line)
    {site after : Site γ} {connection : δ} (reaches : Reaches enter site (.ok connection) after) :
    Timeline.now connection = after.now := by
  cases reaches with
  | connected => exact (keeps _).trans (Regular.now_setClock _ _)

theorem punctual_entered {enter : γ → δ} (keeps : ∀ line, Timeline.now (enter line) = Timeline.now line)
    (clock : access.now = Site.now) (enters : ∀ deadline site, access.connect deadline site = site.connect enter deadline) :
    access.Punctual (entering (.ok enter)) where
  cut deadline site _ := by
    rw [enters, clock]
    exact cut_connect enter site
  shows site connection after reaches := by
    rw [clock]
    exact now_reached keeps reaches
  showsLast _ site connection after reaches := by
    rw [clock]
    exact now_reached keeps reaches

theorem punctual_direct : (direct : Access (Site γ) γ).Punctual (entering (.ok id)) :=
  punctual_entered (fun _ => rfl) rfl fun _ _ => rfl

end Punctual

def dialing (dialer : Dialer) (address : String) : Except Fault (Line → Session) :=
  (Dialer.header address).map fun header line =>
    ⟨dialer.establish header line.source line.sink (Timeline.now line), none⟩

theorem punctual_throughDialer (dialer : Dialer) (address : String) :
    (throughDialer dialer address).Punctual (entering (dialing dialer address)) := by
  unfold dialing
  cases header : Dialer.header address with
  | error fault => exact punctual_refused fun _ _ => by simp only [throughDialer, header]
  | ok bytes => exact punctual_entered (fun _ => rfl) rfl fun _ _ => by simp only [throughDialer, header]

def binding (key : MasterKey) (salts : SaltSource) (address : String) : Except Fault (Mailbox → Bound Mailbox) :=
  (Target.parse address).map fun remote mailbox => ⟨⟨key, salts, mailbox⟩, remote⟩

theorem punctual_throughTunnel (key : MasterKey) (salts : SaltSource) (address : String) :
    (throughTunnel key salts address).Punctual (entering (binding key salts address)) := by
  unfold binding
  cases parsed : Target.parse address with
  | error fault => exact punctual_refused fun _ _ => by simp only [throughTunnel, parsed]
  | ok remote => exact punctual_entered (fun _ => rfl) rfl fun _ _ => by simp only [throughTunnel, parsed]

end SealedTunnel.Scripted.Site

namespace SealedTunnel.Connectivity

open Timeline (Driven)
open Scripted

end SealedTunnel.Connectivity
