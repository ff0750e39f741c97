import SealedTunnel.Scripted.Mailbox

namespace SealedTunnel.Scripted

inductive Post
  | free (tunnel : Tunnel Mailbox)
  | bound (bound : Bound Mailbox)

inductive MailingStep
  /-- To a target, if it can be read, or to that which the tunnel is bound to. -/
  | send (target : Except Fault (Option Target)) (payload : Bytes)
  | receive (buffer : Bytes)
  | feed (arrivals : List Arrival)

inductive MailingReply
  | sent (length : Nat)
  | received (length : Nat) (source : Option Target) (buffer : Bytes)
  | notReceived (error : TunnelError) (buffer : Bytes)
  | failed (error : TunnelError)
  | done
  | late

structure MailingRecord where
  reply : MailingReply
  sent : List Bytes
  left : Nat

namespace Mailing

def mailbox : Post → Mailbox
  | .free tunnel => tunnel.proxy
  | .bound bound => bound.tunnel.proxy

def setMailbox (mailbox : Mailbox) : Post → Post
  | .free tunnel => .free { tunnel with proxy := mailbox }
  | .bound bound => .bound { bound with tunnel := { bound.tunnel with proxy := mailbox } }

def transmit (mailbox : Mailbox) (packet : Bytes) (length : Nat) : MailingReply × Mailbox :=
  match Timeline.driveCall (fun mailbox => Carrier.send mailbox packet) (mailbox.now + mailbox.patience) mailbox with
  | (some (.ok _), mailbox) => (.sent length, mailbox)
  | (some (.error error), mailbox) => (.failed error, mailbox)
  | (none, mailbox) => (.late, mailbox)

def send (post : Post) (target : Option Target) (payload : Bytes) : MailingReply × Post :=
  let (wrapped, post) := match post, target with
    | .free tunnel, some target =>
      let (wrapped, tunnel) := tunnel.wrapTo target payload
      (wrapped.mapError TunnelError.fault, Post.free tunnel)
    | .free tunnel, none => (.error (.fault (.address .empty)), Post.free tunnel)
    | .bound bound, _ =>
      let (wrapped, bound) := bound.wrap payload
      (wrapped, Post.bound bound)
  match wrapped with
  | .error error => (.failed error, post)
  | .ok packet =>
    let (reply, mailbox) := transmit (mailbox post) packet payload.length
    (reply, setMailbox mailbox post)

def receive (post : Post) (buffer : Bytes) : MailingReply × Post :=
  let deadline := (mailbox post).now + (mailbox post).patience
  match post with
  | .free tunnel =>
    let poll (buffer : Bytes) (tunnel : Tunnel Mailbox) := tunnel.receiveFrom buffer
    let (result, buffer, tunnel) := Timeline.drive poll deadline buffer tunnel
    let reply := match result with
      | some (.ok (length, source)) => .received length (some source) buffer
      | some (.error error) => .notReceived error buffer
      | none => .late
    (reply, .free tunnel)
  | .bound bound =>
    let poll (buffer : Bytes) (bound : Bound Mailbox) := bound.receive buffer
    let (result, buffer, bound) := Timeline.drive poll deadline buffer bound
    let reply := match result with
      | some (.ok length) => .received length none buffer
      | some (.error error) => .notReceived error buffer
      | none => .late
    (reply, .bound bound)

def run (post : Post) : MailingStep → MailingReply × Post
  | .send (.error fault) _ => (.failed (.fault fault), post)
  | .send (.ok target) payload => send post target payload
  | .receive buffer => receive post buffer
  | .feed arrivals => (.done, setMailbox ((mailbox post).feed arrivals) post)

def rehearse : Post → List MailingStep → List MailingRecord
  | _, [] => []
  | post, step :: rest =>
    let (reply, after) := run post step
    let fresh := (mailbox after).sent.length - (mailbox post).sent.length
    let sent := ((mailbox after).sent.take fresh).reverse
    ⟨reply, sent, (mailbox after).incoming.length⟩ :: rehearse after rest

structure Failure where
  error : TunnelError
  connects : Nat

/-- A tunnel, bound if a remote is named; nothing if the connection is never made. -/
def begin? (tunnel : Tunnel Mailbox) (remote : Option String) (opening : Attempt) : Option (Except Failure Post) :=
  match remote.mapM Target.parse with
  | .error fault => some (.error ⟨.fault fault, 0⟩)
  | .ok remote =>
    opening.result?.map fun
      | .error error => .error ⟨error, 1⟩
      | .ok _ =>
        .ok <| match remote with
          | none => .free tunnel
          | some remote => .bound ⟨tunnel, remote⟩

end Mailing
end SealedTunnel.Scripted
