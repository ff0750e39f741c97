import SealedTunnel.Datagram.Tunnel
import SealedTunnel.Scripted.Attempt

namespace SealedTunnel.Scripted

inductive Content
  | data (bytes : Bytes)
  | nothing
  | hanging
  | failed (error : TunnelError)
  deriving DecidableEq, Repr

structure Arrival where
  wait : Nat
  content : Content
  deriving DecidableEq, Repr

structure Mailbox where
  incoming : List Arrival
  /-- How each send goes; later ones succeed at once. -/
  sends : List Attempt
  now : Nat
  /-- When the wait for the first arrival, and for the first send, is over. -/
  arrivalDue : Option Nat
  sendDue : Option Nat
  /-- What was sent, the latest first. -/
  sent : List Bytes
  deriving DecidableEq, Repr

namespace Mailbox

def ofScript (incoming : List Arrival) (sends : List Attempt) : Mailbox := ⟨incoming, sends, 0, none, none, []⟩

def feed (mailbox : Mailbox) (arrivals : List Arrival) : Mailbox :=
  { mailbox with incoming := mailbox.incoming ++ arrivals }

def exhausted : TunnelError := .network (.note .wouldBlock "no more datagrams")

def receiveNext (mailbox : Mailbox) (room : Nat) : List Arrival → Poll (Except TunnelError Bytes) × Mailbox
  | [] => (.ready (.error exhausted), { mailbox with incoming := [] })
  | ⟨wait, content⟩ :: rest =>
    let due := mailbox.arrivalDue.getD (mailbox.now + wait)
    if mailbox.now < due then
      (.stalled (.clock due), { mailbox with incoming := ⟨wait, content⟩ :: rest, arrivalDue := some due })
    else
      let after := { mailbox with incoming := rest, arrivalDue := none }
      match content with
      | .data bytes => (.ready (.ok (bytes.take room)), after)
      | .failed error => (.ready (.error error), after)
      | .nothing => receiveNext after room rest
      | .hanging => (.stalled .peer, { mailbox with incoming := ⟨wait, content⟩ :: rest, arrivalDue := some due })

def receive (mailbox : Mailbox) (room : Nat) : Poll (Except TunnelError Bytes) × Mailbox :=
  receiveNext mailbox room mailbox.incoming

def send (mailbox : Mailbox) (packet : Bytes) : Poll (Except TunnelError Unit) × Mailbox :=
  match mailbox.sends with
  | [] => (.ready (.ok ()), { mailbox with sent := packet :: mailbox.sent })
  | ⟨wait, ending⟩ :: rest =>
    let due := mailbox.sendDue.getD (mailbox.now + wait)
    if mailbox.now < due then (.stalled (.clock due), { mailbox with sendDue := some due })
    else
      let after := { mailbox with sends := rest, sendDue := none }
      match ending with
      | .done => (.ready (.ok ()), { after with sent := packet :: mailbox.sent })
      | .failed error => (.ready (.error error), after)
      | .hanging => (.stalled .peer, { mailbox with sendDue := some due })

theorem length_receiveNext {mailbox : Mailbox} {room : Nat} {arrivals : List Arrival} {bytes : Bytes}
    (done : (receiveNext mailbox room arrivals).1 = .ready (.ok bytes)) :
    (receiveNext mailbox room arrivals).2.incoming.length < arrivals.length := by
  fun_induction receiveNext mailbox room arrivals with
  | case1 => simp at done
  | case2 => simp at done
  | case3 => exact Nat.lt_succ_self _
  | case4 => simp at done
  | case5 _ _ _ _ _ _ ih => exact Nat.lt_succ_of_lt (ih done)
  | case6 => simp at done

instance : Carrier Mailbox where
  wrap mailbox payload := (.ok payload, mailbox)
  send := send
  receive := receive
  backlog mailbox := mailbox.incoming.length
  backlog_receive _ _ _ done := length_receiveNext done

instance : Timeline Mailbox where
  now := now
  setClock mailbox now := { mailbox with now }
  background _ := none
  alarm _ := none
  granted _ _ := false

/-- Longer than all waits of the script together. -/
def patience (mailbox : Mailbox) : Nat :=
  mailbox.sends.foldr (·.wait + ·) (mailbox.incoming.foldr (·.wait + ·) 1)

end Mailbox
end SealedTunnel.Scripted
