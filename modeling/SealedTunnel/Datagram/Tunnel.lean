import SealedTunnel.Datagram.Carrier
import SealedTunnel.Datagram.Sealed
import SealedTunnel.Timeline

/-!
A tunnel for datagrams reaches any target through its proxy. Bound to one target, it is itself a
connection that carries datagrams: whatever comes from elsewhere is dropped.
-/
namespace SealedTunnel

structure Tunnel (κ : Type) where
  key : MasterKey
  salts : SaltSource
  /-- The connection to the proxy. -/
  proxy : κ

namespace Tunnel

variable {κ : Type}

def wrapTo (tunnel : Tunnel κ) (target : Target) (payload : Bytes) : Except Fault Bytes × Tunnel κ :=
  (Datagram.sealTo tunnel.key tunnel.salts target payload, { tunnel with salts := tunnel.salts.after 1 })

variable [Carrier κ]

def receiveFrom (tunnel : Tunnel κ) (buffer : Bytes) :
    Poll (Except TunnelError (Nat × Target)) × Bytes × Tunnel κ :=
  match Carrier.receive tunnel.proxy Datagram.largest with
  | (.stalled reason, proxy) => (.stalled reason, buffer, { tunnel with proxy })
  | (.ready (.error error), proxy) => (.ready (.error error), buffer, { tunnel with proxy })
  | (.ready (.ok packet), proxy) =>
    let delivery := Datagram.deliver tunnel.key packet buffer
    (.ready (delivery.result.mapError .fault), delivery.buffer, { tunnel with proxy })

theorem backlog_receiveFrom {tunnel next : Tunnel κ} {buffer after : Bytes} {received : Nat × Target}
    (done : tunnel.receiveFrom buffer = (.ready (.ok received), after, next)) :
    Carrier.backlog next.proxy < Carrier.backlog tunnel.proxy := by
  unfold receiveFrom at done
  split at done
  · simp at done
  · simp at done
  · rename_i packet proxy came
    have fewer := Carrier.backlog_receive _ _ packet (congrArg Prod.fst came)
    rw [came] at fewer
    simp only [Prod.mk.injEq] at done
    rw [← done.2.2]
    exact fewer

end Tunnel

structure Bound (κ : Type) where
  tunnel : Tunnel κ
  remote : Target

namespace Bound

variable {κ : Type} [Carrier κ]

/-- Receives the next datagram from the remote. The buffer also bears the marks of those that were dropped. -/
def receive (bound : Bound κ) (buffer : Bytes) : Poll (Except TunnelError Nat) × Bytes × Bound κ :=
  match _came : bound.tunnel.receiveFrom buffer with
  | (.stalled reason, buffer, tunnel) => (.stalled reason, buffer, { bound with tunnel })
  | (.ready (.error error), buffer, tunnel) => (.ready (.error error), buffer, { bound with tunnel })
  | (.ready (.ok (length, source)), buffer, tunnel) =>
    if source = bound.remote then (.ready (.ok length), buffer, { bound with tunnel })
    else receive { bound with tunnel } buffer
termination_by Carrier.backlog bound.tunnel.proxy
decreasing_by exact Tunnel.backlog_receiveFrom _came

theorem backlog_receive {bound : Bound κ} {buffer : Bytes} {length : Nat}
    (done : (bound.receive buffer).1 = .ready (.ok length)) :
    Carrier.backlog (bound.receive buffer).2.2.tunnel.proxy < Carrier.backlog bound.tunnel.proxy := by
  fun_induction receive bound buffer with
  | case1 => simp at done
  | case2 => simp at done
  | case3 _ _ _ _ _ came => exact Tunnel.backlog_receiveFrom came
  | case4 _ _ _ _ _ _ came _ ih => exact Nat.lt_trans (ih done) (Tunnel.backlog_receiveFrom came)

def receiveBytes (bound : Bound κ) (room : Nat) : Poll (Except TunnelError Bytes) × Bound κ :=
  match bound.receive (Bytes.zeros room) with
  | (.stalled reason, _, bound) => (.stalled reason, bound)
  | (.ready (.error error), _, bound) => (.ready (.error error), bound)
  | (.ready (.ok length), buffer, bound) => (.ready (.ok (buffer.take length)), bound)

def wrap (bound : Bound κ) (payload : Bytes) : Except TunnelError Bytes × Bound κ :=
  match bound.tunnel.wrapTo bound.remote payload with
  | (.error fault, tunnel) => (.error (.fault fault), { bound with tunnel })
  | (.ok packet, tunnel) =>
    let (result, proxy) := Carrier.wrap tunnel.proxy packet
    (result, { bound with tunnel := { tunnel with proxy } })

def send (bound : Bound κ) (packet : Bytes) : Poll (Except TunnelError Unit) × Bound κ :=
  let (result, proxy) := Carrier.send bound.tunnel.proxy packet
  (result, { bound with tunnel := { bound.tunnel with proxy } })

instance : Carrier (Bound κ) where
  wrap := wrap
  send := send
  receive := receiveBytes
  backlog bound := Carrier.backlog bound.tunnel.proxy
  backlog_receive bound room bytes done := by
    unfold receiveBytes at done ⊢
    split at done
    · simp at done
    · simp at done
    · rename_i length buffer next received
      have fewer := backlog_receive (congrArg Prod.fst received)
      rw [received] at fewer
      simpa [received] using fewer

end Bound

instance {κ : Type} [Timeline κ] : Timeline (Tunnel κ) where
  now tunnel := Timeline.now tunnel.proxy
  setClock tunnel time := { tunnel with proxy := Timeline.setClock tunnel.proxy time }
  background tunnel := (Timeline.background tunnel.proxy).map fun proxy => { tunnel with proxy }
  alarm tunnel := Timeline.alarm tunnel.proxy
  granted tunnel := Timeline.granted tunnel.proxy

instance {κ : Type} [Timeline κ] : Timeline (Bound κ) where
  now bound := Timeline.now bound.tunnel
  setClock bound time := { bound with tunnel := Timeline.setClock bound.tunnel time }
  background bound := (Timeline.background bound.tunnel).map fun tunnel => { bound with tunnel }
  alarm bound := Timeline.alarm bound.tunnel
  granted bound := Timeline.granted bound.tunnel

end SealedTunnel
