import SealedTunnel.Scripted.Line
import SealedTunnel.Scripted.Attempt
import SealedTunnel.Scripted.Reply

namespace SealedTunnel.Scripted

inductive DialingCall
  /-- One write. -/
  | write (data : Bytes)
  | writeAll (data : Bytes)
  | flush
  | shutdown
  | read (room : Nat)

inductive DialingStep
  /-- A call that is given up after so many milliseconds. -/
  | call (call : DialingCall) (within : Nat)
  | sleep (millis : Nat)
  | drop
  /-- What is known of the connection: nothing. -/
  | info
  | feed (items : List SourceItem)
  | close
  | sink (change : SinkChange)

namespace Dialing

/-- One try of a call; the bytes that it still has to write are its state. -/
def poll (call : DialingCall) (rest : Bytes) (session : Session) : Poll Reply × Bytes × Session :=
  let reply {α : Type} (answer : α → Reply) : Except IoError α → Reply
    | .ok value => answer value
    | .error error => .failed error
  match call with
  | .write data =>
    let (result, session) := ByteSink.write session data
    (result.map (reply .count), rest, session)
  | .writeAll _ =>
    let (result, rest, session) := drain .stuck session rest
    (result.map (reply fun _ => .done), rest, session)
  | .flush =>
    let (result, session) := ByteSink.flush session
    (result.map (reply fun _ => .done), rest, session)
  | .shutdown =>
    let (result, session) := ByteSink.shutdown session
    (result.map (reply fun _ => .done), rest, session)
  | .read room =>
    let (result, session) := ByteSource.read session room
    (result.map (reply .bytes), rest, session)

def unwritten : DialingCall → Bytes
  | .writeAll data => data
  | _ => []

def run (session : Session) : DialingStep → Reply × Session
  | .call call within =>
    let (reply, _, session) := Timeline.drive (poll call) (session.now + within) (unwritten call) session
    (reply.getD .late, session)
  | .sleep millis => (.done, Timeline.sleepUntil (session.now + millis) session)
  | .drop => (.done, { session with dialed := session.dialed.drop })
  | .info => (.ends none none, session)
  | .feed items => (.done, session.changeSource (·.feed items))
  | .close => (.done, session.changeSource (·.close))
  | .sink change =>
    let changed := session.changeSink (change.apply ·)
    (.done, if change.wakes then changed.wake else changed)

structure Failure where
  error : TunnelError
  /-- How often a connection was asked for. -/
  connects : Nat
  elapsed : Nat

def begin? (dialer : Dialer) (address : String) (opening : Attempt) (line : Line) :
    Option (Except Failure Session) :=
  match Dialer.header address with
  | .error fault => some (.error ⟨.fault fault, 0, 0⟩)
  | .ok header =>
    opening.result?.map fun
      | .error error => .error ⟨error, 1, opening.wait⟩
      | .ok _ =>
        let line := line.setClock opening.wait
        .ok ⟨dialer.establish header line.source line.sink opening.wait, none⟩

def rehearse (session : Session) (steps : List DialingStep) : List Record × Session :=
  records (·.sink) run session steps

end Dialing
end SealedTunnel.Scripted
