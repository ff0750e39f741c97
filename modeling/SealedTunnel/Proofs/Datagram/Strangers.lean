import SealedTunnel.Datagram.Tunnel
import SealedTunnel.Proofs.Datagram.Packing
import SealedTunnel.Scripted.Mailbox

namespace SealedTunnel

section Hearing

variable {κ : Type} [Carrier κ]

/-- The datagrams that a carrier hands over until it fails or has to wait, and which of the two it is. -/
def Carrier.incoming (carrier : κ) : List Bytes × Poll TunnelError :=
  match _came : Carrier.receive carrier Datagram.largest with
  | (.stalled reason, _) => ([], .stalled reason)
  | (.ready (.error error), _) => ([], .ready error)
  | (.ready (.ok packet), next) => (packet :: (incoming next).1, (incoming next).2)
termination_by Carrier.backlog carrier
decreasing_by
  all_goals
    have fewer := Carrier.backlog_receive _ _ packet (congrArg Prod.fst _came)
    rwa [_came] at fewer

def Datagram.hear (key : MasterKey) (remote : Target) (size : Nat) (ending : Poll TunnelError) :
    List Bytes → Poll (Except TunnelError Bytes)
  | [] => ending.map .error
  | packet :: rest =>
    match reveal key packet with
    | .error fault => .ready (.error (.fault fault))
    | .ok (source, payload) =>
      if size < payload.length then .ready (.error (.fault (.shortBuffer payload.length size)))
      else if source = remote then .ready (.ok payload)
      else hear key remote size ending rest

theorem Carrier.incoming_stalled {carrier next : κ} {reason : Stall}
    (came : Carrier.receive carrier Datagram.largest = (.stalled reason, next)) :
    incoming carrier = ([], .stalled reason) := by
  rw [incoming]
  split <;> cases came.symm.trans ‹_›
  rfl

theorem Carrier.incoming_failed {carrier next : κ} {error : TunnelError}
    (came : Carrier.receive carrier Datagram.largest = (.ready (.error error), next)) :
    incoming carrier = ([], .ready error) := by
  rw [incoming]
  split <;> cases came.symm.trans ‹_›
  rfl

theorem Carrier.incoming_packet {carrier next : κ} {packet : Bytes}
    (came : Carrier.receive carrier Datagram.largest = (.ready (.ok packet), next)) :
    incoming carrier = (packet :: (incoming next).1, (incoming next).2) := by
  rw [incoming]
  split <;> cases came.symm.trans ‹_›
  rfl

theorem Datagram.deliver_short {key : MasterKey} {packet payload : Bytes} {source : Target} {buffer : Bytes}
    (revealed : reveal key packet = .ok (source, payload)) (short : buffer.length < payload.length) :
    (deliver key packet buffer).result = .error (.shortBuffer payload.length buffer.length) := by
  rw [deliver, revealed]
  dsimp only
  rw [if_pos short]

theorem Datagram.deliver_fits {key : MasterKey} {packet payload : Bytes} {source : Target} {buffer : Bytes}
    (revealed : reveal key packet = .ok (source, payload)) (fits : ¬ buffer.length < payload.length) :
    deliver key packet buffer = ⟨.ok (payload.length, source), payload ++ buffer.drop payload.length⟩ := by
  rw [deliver, revealed]
  dsimp only
  rw [if_neg fits]

theorem Datagram.length_deliver (key : MasterKey) (packet buffer : Bytes) :
    (deliver key packet buffer).buffer.length = buffer.length := by
  unfold deliver
  split
  · rfl
  · split
    · rw [List.length_take]
      omega
    · rw [List.length_append, List.length_drop]
      omega

namespace Tunnel

variable {tunnel : Tunnel κ} {buffer : Bytes}

theorem receiveFrom_packet {proxy : κ} {packet : Bytes}
    (came : Carrier.receive tunnel.proxy Datagram.largest = (.ready (.ok packet), proxy)) :
    tunnel.receiveFrom buffer =
      (.ready ((Datagram.deliver tunnel.key packet buffer).result.mapError .fault),
        (Datagram.deliver tunnel.key packet buffer).buffer, { tunnel with proxy }) := by
  rw [receiveFrom, came]

theorem receiveFrom_keeps {answer : Poll (Except TunnelError (Nat × Target))} {after : Bytes} {next : Tunnel κ}
    (done : tunnel.receiveFrom buffer = (answer, after, next)) :
    after.length = buffer.length ∧ next.key = tunnel.key := by
  unfold receiveFrom at done
  split at done
  · cases done
    exact ⟨rfl, rfl⟩
  · cases done
    exact ⟨rfl, rfl⟩
  · cases done
    exact ⟨Datagram.length_deliver _ _ _, rfl⟩

end Tunnel

/-- What a receive comes to that goes on with what comes later, as long as it has to wait. -/
def Datagram.hearOn (key : MasterKey) (remote : Target) (size : Nat) (came : List Bytes × Poll TunnelError) :
    (later : List (List Bytes × Poll TunnelError)) → Poll (Except TunnelError Bytes)
  | [] => hear key remote size came.2 came.1
  | next :: later =>
    match hear key remote size came.2 came.1 with
    | .stalled _ => hearOn key remote size next later
    | answer => answer

namespace Bound

def heard (outcome : Poll (Except TunnelError Nat) × Bytes × Bound κ) : Poll (Except TunnelError Bytes) :=
  outcome.1.map fun result => result.map fun length => outcome.2.1.take length

theorem receive_keeps (bound : Bound κ) (buffer : Bytes) :
    (bound.receive buffer).2.1.length = buffer.length ∧ (bound.receive buffer).2.2.remote = bound.remote ∧
      (bound.receive buffer).2.2.tunnel.key = bound.tunnel.key := by
  fun_induction receive bound buffer with
  | case1 bound buffer reason after next came | case2 bound buffer error after next came
  | case3 bound buffer length after next came =>
      obtain ⟨sized, same⟩ := Tunnel.receiveFrom_keeps came
      exact ⟨sized, rfl, same⟩
  | case4 bound buffer length source after next came other ih =>
      obtain ⟨sized, same⟩ := Tunnel.receiveFrom_keeps came
      obtain ⟨later, remote, key⟩ := ih
      exact ⟨later.trans sized, remote, key.trans same⟩

theorem receive_eq (bound : Bound κ) (buffer : Bytes) :
    bound.receive buffer =
      match bound.tunnel.receiveFrom buffer with
      | (.stalled reason, buffer, tunnel) => (.stalled reason, buffer, { bound with tunnel })
      | (.ready (.error error), buffer, tunnel) => (.ready (.error error), buffer, { bound with tunnel })
      | (.ready (.ok (length, source)), buffer, tunnel) =>
        if source = bound.remote then (.ready (.ok length), buffer, { bound with tunnel })
        else receive { bound with tunnel } buffer := by
  rw [receive]
  split <;> simp only [*]

/-- Dropped datagrams leave marks in the buffer, but not in front of the payload that comes after them. -/
theorem heard_receive (bound : Bound κ) (buffer : Bytes) :
    heard (bound.receive buffer) = Datagram.hear bound.tunnel.key bound.remote buffer.length
      (Carrier.incoming bound.tunnel.proxy).2 (Carrier.incoming bound.tunnel.proxy).1 := by
  obtain ⟨⟨key, salts, proxy⟩, remote⟩ := bound
  fun_induction Carrier.incoming proxy generalizing buffer with
  | case1 proxy reason next came | case2 proxy error next came =>
      rw [receive_eq, Tunnel.receiveFrom, came]
      rfl
  | case3 proxy packet next came ih =>
      rw [receive_eq, Tunnel.receiveFrom_packet came]
      dsimp only
      unfold Datagram.hear
      cases revealed : Datagram.reveal key packet with
      | error fault =>
          rw [Datagram.deliver, revealed]
          rfl
      | ok found =>
          obtain ⟨source, payload⟩ := found
          dsimp only
          by_cases short : buffer.length < payload.length
          · rw [Datagram.deliver_short revealed short, if_pos short]
            rfl
          · rw [Datagram.deliver_fits revealed short, if_neg short]
            dsimp only [Except.mapError]
            by_cases own : source = remote
            · rw [if_pos own, if_pos own]
              change Poll.ready (Except.ok ((payload ++ buffer.drop payload.length).take payload.length)) = _
              rw [List.take_left]
            · have sized : (payload ++ buffer.drop payload.length).length = buffer.length := by
                rw [List.length_append, List.length_drop]
                omega
              rw [if_neg own, if_neg own, ← sized]
              exact ih _

/-- A receive that is carried on each time the connection to the proxy has changed. -/
def receives (bound : Bound κ) (buffer : Bytes) : (later : List κ) → Poll (Except TunnelError Bytes)
  | [] => heard (bound.receive buffer)
  | proxy :: later =>
    match bound.receive buffer with
    | (.stalled _, buffer, next) => receives { next with tunnel.proxy := proxy } buffer later
    | outcome => heard outcome

theorem receives_eq (bound : Bound κ) (buffer : Bytes) (later : List κ) :
    bound.receives buffer later = Datagram.hearOn bound.tunnel.key bound.remote buffer.length
      (Carrier.incoming bound.tunnel.proxy) (later.map Carrier.incoming) := by
  induction later generalizing bound buffer with
  | nil => exact heard_receive bound buffer
  | cons proxy later ih =>
      have answer := heard_receive bound buffer
      obtain ⟨sized, remote, key⟩ := receive_keeps bound buffer
      rw [List.map_cons, Datagram.hearOn, receives, ← answer]
      generalize bound.receive buffer = outcome at sized remote key
      obtain ⟨result | reason, after, next⟩ := outcome
      · rfl
      · rw [← sized, ← remote, ← key]
        exact ih _ _

end Bound
end Hearing

namespace Datagram

variable (key : MasterKey) (remote : Target) (size : Nat)

def isFrom (packet : Bytes) : Bool :=
  match reveal key packet with
  | .ok (source, _) => source = remote
  | .error _ => false

/-- What comes in when the strangers have sent nothing. -/
def fromRemote (came : List Bytes × Poll TunnelError) : List Bytes × Poll TunnelError :=
  (came.1.filter (isFrom key remote), came.2)

def Fits (packet : Bytes) : Prop :=
  ∀ source payload, reveal key packet = .ok (source, payload) → payload.length ≤ size

def ahead (packets : List Bytes) : List Bytes := packets.takeWhile fun packet => !isFrom key remote packet

variable {key remote size} {packet payload : Bytes} {source : Target} {ending : Poll TunnelError}
  {packets before after : List Bytes}

theorem isFrom_revealed (revealed : reveal key packet = .ok (source, payload)) :
    isFrom key remote packet = decide (source = remote) := by
  rw [isFrom, revealed]

theorem ahead_append (more : List Bytes) (member : packet ∈ ahead key remote packets) :
    packet ∈ ahead key remote (packets ++ more) := by
  unfold ahead at member ⊢
  rw [List.takeWhile_append]
  split
  · exact List.mem_append_left _ ((List.takeWhile_sublist _).subset member)
  · exact member

theorem hear_stranger (revealed : reveal key packet = .ok (source, payload)) (other : source ≠ remote)
    (fits : payload.length ≤ size) :
    hear key remote size ending (packet :: packets) = hear key remote size ending packets := by
  rw [hear, revealed]
  dsimp only
  rw [if_neg (Nat.not_lt.mpr fits), if_neg other]

theorem hear_own (revealed : reveal key packet = .ok (remote, payload)) :
    hear key remote size ending (packet :: packets) =
      .ready (if size < payload.length then .error (.fault (.shortBuffer payload.length size)) else .ok payload) := by
  rw [hear, revealed]
  dsimp only
  split
  · rfl
  · rw [if_pos rfl]

theorem hear_fromRemote (wellFormed : ∀ packet ∈ packets, ∃ found, reveal key packet = .ok found)
    (fitting : ∀ packet ∈ ahead key remote packets, Fits key size packet) :
    hear key remote size ending (packets.filter (isFrom key remote)) = hear key remote size ending packets := by
  induction packets with
  | nil => rfl
  | cons packet rest ih =>
      obtain ⟨⟨source, payload⟩, revealed⟩ := wellFormed packet List.mem_cons_self
      have named : isFrom key remote packet = decide (source = remote) := isFrom_revealed revealed
      by_cases own : source = remote
      · subst own
        rw [List.filter_cons_of_pos (named.trans (decide_eq_true rfl)), hear_own revealed, hear_own revealed]
      · have stranger := named.trans (decide_eq_false own)
        rw [ahead, List.takeWhile_cons_of_pos (by rw [stranger]; rfl)] at fitting
        obtain ⟨fits, later⟩ := List.forall_mem_cons.mp fitting
        rw [List.filter_cons_of_neg (Bool.eq_false_iff.mp stranger), hear_stranger revealed own (fits _ _ revealed)]
        exact ih (fun other member => wellFormed other (List.mem_cons_of_mem _ member)) later

theorem strangers_of_stalled {reason : Stall} (waits : hear key remote size ending packets = .stalled reason) :
    ∀ packet ∈ packets, isFrom key remote packet = false := by
  induction packets with
  | nil => exact List.forall_mem_nil _
  | cons packet rest ih =>
      unfold hear at waits
      cases revealed : reveal key packet with
      | error fault =>
          rw [revealed] at waits
          cases waits
      | ok found =>
          rw [revealed] at waits
          dsimp only at waits
          split at waits
          · cases waits
          · split at waits
            · cases waits
            · rename_i other
              exact List.forall_mem_cons.mpr ⟨(isFrom_revealed revealed).trans (decide_eq_false other), ih waits⟩

theorem hearOn_fromRemote {came : List Bytes × Poll TunnelError} {later : List (List Bytes × Poll TunnelError)}
    (wellFormed : ∀ packet ∈ (came :: later).flatMap Prod.fst, ∃ found, reveal key packet = .ok found)
    (fitting : ∀ packet ∈ ahead key remote ((came :: later).flatMap Prod.fst), Fits key size packet) :
    hearOn key remote size (fromRemote key remote came) (later.map (fromRemote key remote)) =
      hearOn key remote size came later := by
  induction later generalizing came with
  | nil =>
      rw [List.flatMap_singleton] at wellFormed fitting
      exact hear_fromRemote wellFormed fitting
  | cons next later ih =>
      rw [List.flatMap_cons] at wellFormed fitting
      have formed := fun packet member => wellFormed packet (List.mem_append_left _ member)
      have fits : ∀ packet ∈ ahead key remote came.1, Fits key size packet := by
        exact fun packet member => fitting packet (ahead_append _ member)
      rw [List.map_cons, hearOn, hearOn, fromRemote, hear_fromRemote formed fits]
      cases answer : hear key remote size came.2 came.1 with
      | ready result => rfl
      | stalled reason =>
          refine ih (fun packet member => wellFormed packet (List.mem_append_right _ member)) ?_
          have strange := strangers_of_stalled answer
          rw [ahead, List.takeWhile_append_of_pos (fun packet member => by rw [strange packet member]; rfl)] at fitting
          exact fun packet member => fitting packet (List.mem_append_right _ member)

theorem hear_misfit (revealed : reveal key packet = .ok (source, payload)) (long : size < payload.length)
    (strange : ∀ other ∈ before, ∃ stranger text, reveal key other = .ok (stranger, text) ∧ stranger ≠ remote ∧
      text.length ≤ size) :
    hear key remote size ending (before ++ packet :: after) =
      .ready (.error (.fault (.shortBuffer payload.length size))) := by
  induction before with
  | nil =>
      rw [List.nil_append, hear, revealed]
      exact if_pos long
  | cons other before ih =>
      obtain ⟨⟨stranger, text, found, apart, fits⟩, rest⟩ := List.forall_mem_cons.mp strange
      rw [List.cons_append, hear_stranger found apart fits]
      exact ih rest

end Datagram

/-- A receive of a connection that is bound to one remote, over datagrams that can all be read: if those of strangers
ahead of the first one from the remote fit into the buffer, it answers as it would if strangers had sent nothing. If
one does not fit it fails at that one, although it was to be dropped. -/
theorem Bound.receives_despite_strangers {κ μ : Type} [Carrier κ] [Carrier μ] (key : MasterKey) (salts : SaltSource)
    (remote : Target) (buffer : Bytes) (first : κ) (later : List κ) (cleared : μ) (clearedLater : List μ)
    (wellFormed : ∀ packet ∈ ((first :: later).map Carrier.incoming).flatMap Prod.fst,
      ∃ found, Datagram.reveal key packet = .ok found)
    (removed : (cleared :: clearedLater).map Carrier.incoming =
      ((first :: later).map Carrier.incoming).map (Datagram.fromRemote key remote)) :
    ((∀ packet ∈ Datagram.ahead key remote (((first :: later).map Carrier.incoming).flatMap Prod.fst),
        Datagram.Fits key buffer.length packet) →
      receives ⟨⟨key, salts, first⟩, remote⟩ buffer later =
        receives ⟨⟨key, salts, cleared⟩, remote⟩ buffer clearedLater) ∧
      (∀ before packet after source payload, (Carrier.incoming first).1 = before ++ packet :: after →
        (∀ other ∈ before, ∃ stranger text, Datagram.reveal key other = .ok (stranger, text) ∧ stranger ≠ remote ∧
          text.length ≤ buffer.length) →
        Datagram.reveal key packet = .ok (source, payload) → buffer.length < payload.length →
        receives ⟨⟨key, salts, first⟩, remote⟩ buffer later =
          .ready (.error (.fault (.shortBuffer payload.length buffer.length)))) := by
  constructor
  · intro fitting
    obtain ⟨only, others⟩ := List.cons.inj removed
    rw [receives_eq, receives_eq]
    dsimp only
    rw [only, others]
    exact (Datagram.hearOn_fromRemote wellFormed fitting).symm
  · intro before packet after source payload came strange revealed long
    have misfit := @Datagram.hear_misfit key remote buffer.length packet payload source (Carrier.incoming first).2
      before after revealed long strange
    rw [← came] at misfit
    rw [receives_eq]
    cases later with
    | nil => exact misfit
    | cons next later =>
        rw [List.map_cons, Datagram.hearOn]
        dsimp only
        rw [misfit]

section Script

open Scripted

theorem Scripted.Mailbox.incoming_data (packets : List Bytes) (rest : List Arrival)
    (small : ∀ packet ∈ packets, packet.length ≤ Datagram.largest) :
    Carrier.incoming (ofScript (packets.map (fun packet => ⟨0, .data packet⟩) ++ rest) []) =
      (packets ++ (Carrier.incoming (ofScript rest [])).1, (Carrier.incoming (ofScript rest [])).2) := by
  induction packets with
  | nil => rfl
  | cons packet packets ih =>
      obtain ⟨short, others⟩ := List.forall_mem_cons.mp small
      have came : Carrier.receive
          (ofScript (⟨0, .data packet⟩ :: (packets.map (fun packet => ⟨0, .data packet⟩) ++ rest)) [])
          Datagram.largest = (.ready (.ok (packet.take Datagram.largest)),
            ofScript (packets.map (fun packet => ⟨0, .data packet⟩) ++ rest) []) := rfl
      rw [List.take_of_length_le short] at came
      rw [List.map_cons, List.cons_append, Carrier.incoming_packet came, ih others]
      rfl

theorem Datagram.exists_reveal (key : MasterKey) {plaintext : Bytes} {source : Target} {used : Nat}
    (decoded : Target.decode plaintext = .ok (source, used))
    (short : plaintext.length + Packet.overhead key ≤ largest) :
    ∃ packet : Bytes, packet.length ≤ largest ∧ reveal key packet = .ok (source, plaintext.drop used) := by
  obtain ⟨session, ofSalt⟩ := key.session_ok (Bytes.zeros key.saltSize)
  have drawn : (SaltSource.fixed (Bytes.zeros key.saltSize)).draw 0 key.saltSize = .ok (Bytes.zeros key.saltSize) :=
    if_pos (Bytes.length_zeros _)
  have limited : plaintext.length ≤ session.kind.sealLimit := by
    refine Nat.le_trans (Nat.le_trans (Nat.le_add_right _ _) short) ?_
    cases session.kind <;> decide
  have built := Packet.build_eq_ok.mpr ⟨_, session, drawn, ofSalt, limited, rfl⟩
  refine ⟨_, Nat.le_trans (Nat.le_of_eq (Packet.length_of_build built)) short, ?_⟩
  rw [reveal, Packet.result_unpackInPlace, Packet.reveal_build built]
  change (Target.decode plaintext >>= _) = _
  rw [decoded]
  rfl

def Bound.toLoopback (arrivals : List Arrival) : Bound Mailbox :=
  let key : MasterKey := ⟨⟨"aes-128-gcm", "AEAD_AES_128_GCM", .aes128Gcm⟩, []⟩
  ⟨⟨key, .fixed [], .ofScript arrivals []⟩, .ipv4 ⟨127, 0, 0, 1⟩ 53⟩

theorem Bound.exists_packets : ∃ strange own : Bytes,
    strange.length ≤ Datagram.largest ∧ own.length ≤ Datagram.largest ∧
    Datagram.reveal (toLoopback []).tunnel.key strange = .ok (.ipv4 ⟨10, 0, 0, 1⟩ 53, [1, 2, 3]) ∧
    Datagram.reveal (toLoopback []).tunnel.key own = .ok ((toLoopback []).remote, [4]) := by
  have elsewhere : Target.decode [1, 10, 0, 0, 1, 0, 53, 1, 2, 3] = .ok (.ipv4 ⟨10, 0, 0, 1⟩ 53, 7) := rfl
  have here : Target.decode [1, 127, 0, 0, 1, 0, 53, 4] = .ok ((toLoopback []).remote, 7) := rfl
  obtain ⟨strange, short, theirs⟩ := Datagram.exists_reveal (toLoopback []).tunnel.key elsewhere (by decide)
  obtain ⟨own, small, ours⟩ := Datagram.exists_reveal (toLoopback []).tunnel.key here (by decide)
  exact ⟨strange, own, short, small, theirs, ours⟩

theorem Scripted.Mailbox.incoming_nothing : Carrier.incoming (ofScript [] []) = ([], .ready exhausted) :=
  Carrier.incoming_failed rfl

theorem Scripted.Mailbox.incoming_hanging : Carrier.incoming (ofScript [⟨0, .hanging⟩] []) = ([], .stalled .peer) :=
  Carrier.incoming_stalled rfl

theorem Bound.receives_despite_strangers_script :
    ∃ strange own : Bytes,
      Datagram.reveal (toLoopback []).tunnel.key strange = .ok (.ipv4 ⟨10, 0, 0, 1⟩ 53, [1, 2, 3]) ∧
      Datagram.reveal (toLoopback []).tunnel.key own = .ok ((toLoopback []).remote, [4]) ∧
      receives (toLoopback [⟨0, .data strange⟩, ⟨0, .hanging⟩]) (Bytes.zeros 3) [.ofScript [⟨0, .data own⟩] []] =
        receives (toLoopback [⟨0, .hanging⟩]) (Bytes.zeros 3) [.ofScript [⟨0, .data own⟩] []] := by
  obtain ⟨strange, own, short, small, theirs, ours⟩ := exists_packets
  refine ⟨strange, own, theirs, ours, ?_⟩
  have noise := Mailbox.incoming_data [strange] [⟨0, .hanging⟩] (List.forall_mem_singleton.mpr short)
  have signal := Mailbox.incoming_data [own] [] (List.forall_mem_singleton.mpr small)
  have hanging := Mailbox.incoming_hanging
  rw [hanging] at noise
  rw [Mailbox.incoming_nothing] at signal
  simp only [List.map_cons, List.map_nil, List.singleton_append, List.append_nil] at noise signal
  have stranger : Datagram.isFrom (toLoopback []).tunnel.key (toLoopback []).remote strange = false :=
    Datagram.isFrom_revealed theirs
  have friend : Datagram.isFrom (toLoopback []).tunnel.key (toLoopback []).remote own = true :=
    Datagram.isFrom_revealed ours
  refine (receives_despite_strangers (toLoopback []).tunnel.key (.fixed []) (toLoopback []).remote (Bytes.zeros 3)
    (Mailbox.ofScript [⟨0, .data strange⟩, ⟨0, .hanging⟩] []) [Mailbox.ofScript [⟨0, .data own⟩] []]
    (Mailbox.ofScript [⟨0, .hanging⟩] []) [Mailbox.ofScript [⟨0, .data own⟩] []] ?_ ?_).1 ?_
  · rw [List.map_cons, List.map_cons, noise, signal]
    exact List.forall_mem_cons.mpr ⟨⟨_, theirs⟩, List.forall_mem_singleton.mpr ⟨_, ours⟩⟩
  · simp only [List.map_cons, List.map_nil, noise, signal, hanging, Datagram.fromRemote, List.filter, stranger, friend]
  · rw [List.map_cons, List.map_cons, noise, signal]
    intro packet member source payload revealed
    simp only [Datagram.ahead, List.map_nil, List.flatMap_cons, List.flatMap_nil, List.append_nil,
      List.singleton_append, List.takeWhile, stranger, friend, Bool.not_false, Bool.not_true] at member
    cases List.mem_singleton.mp member
    cases theirs.symm.trans revealed
    exact Nat.le_refl 3

/-- A stranger's datagram of three bytes makes a receive into two bytes fail, ahead of the answer that would fit. -/
theorem Bound.stranger_interferes :
    ∃ strange own : Bytes,
      Datagram.reveal (toLoopback []).tunnel.key strange = .ok (.ipv4 ⟨10, 0, 0, 1⟩ 53, [1, 2, 3]) ∧
      Datagram.reveal (toLoopback []).tunnel.key own = .ok ((toLoopback []).remote, [4]) ∧
      receives (toLoopback [⟨0, .data strange⟩, ⟨0, .data own⟩]) (Bytes.zeros 2) [] =
        .ready (.error (.fault (.shortBuffer 3 2))) ∧
      receives (toLoopback [⟨0, .data own⟩]) (Bytes.zeros 2) [] = .ready (.ok [4]) := by
  obtain ⟨strange, own, short, small, theirs, ours⟩ := exists_packets
  have both := Mailbox.incoming_data [strange, own] []
    (List.forall_mem_cons.mpr ⟨short, List.forall_mem_singleton.mpr small⟩)
  have signal := Mailbox.incoming_data [own] [] (List.forall_mem_singleton.mpr small)
  rw [Mailbox.incoming_nothing] at both signal
  refine ⟨strange, own, theirs, ours, ?_, ?_⟩
  · have misfit := @Datagram.hear_misfit _ (toLoopback []).remote 2 strange [1, 2, 3] _ (.ready Mailbox.exhausted) []
      [own] theirs (by decide) (List.forall_mem_nil _)
    refine (heard_receive _ _).trans (Eq.trans ?_ misfit)
    exact congrArg (fun came : List Bytes × Poll TunnelError => Datagram.hear _ _ 2 came.2 came.1) both
  · have answer := @Datagram.hear_own _ (toLoopback []).remote 2 own [4] (.ready Mailbox.exhausted) [] ours
    refine (heard_receive _ _).trans (Eq.trans ?_ answer)
    exact congrArg (fun came : List Bytes × Poll TunnelError => Datagram.hear _ _ 2 came.2 came.1) signal

end Script
end SealedTunnel
