import SealedTunnel.Dialer
import SealedTunnel.Scripted.Sink
import SealedTunnel.Scripted.Source
import SealedTunnel.Timeline

/-! Connections with a script at the far end: a bare one, and a dialed stream over one. -/
namespace SealedTunnel.Scripted

structure Line where
  source : Source
  sink : Sink

namespace Line

def setClock (line : Line) (now : Nat) : Line := ⟨line.source.setClock now, line.sink.setClock now⟩

instance : Timeline Line where
  now line := line.sink.now
  setClock := setClock
  background _ := none
  alarm _ := none
  granted _ _ := false

instance : ByteSink Line where
  write line bytes := let (result, sink) := ByteSink.write line.sink bytes; (result, { line with sink })
  flush line := let (result, sink) := ByteSink.flush line.sink; (result, { line with sink })
  shutdown line := let (result, sink) := ByteSink.shutdown line.sink; (result, { line with sink })
  interruptions line := ByteSink.interruptions line.sink
  write_le line := ByteSink.write_le line.sink
  interruptions_write line := ByteSink.interruptions_write line.sink

instance : ByteSource Line where
  read line room := let (result, source) := ByteSource.read line.source room; (result, { line with source })
  supply line := ByteSource.supply line.source
  supply_read line := ByteSource.supply_read line.source

end Line

/-- A dialed stream, and what its flush in the background waits for once it has been tried. -/
structure Session where
  dialed : Dialed Source Sink
  rest : Option Stall

namespace Session

def sink (session : Session) : Sink := session.dialed.stream.writer.sink

def source (session : Session) : Source := session.dialed.stream.reader.source

def now (session : Session) : Nat := session.sink.now

def changeSink (session : Session) (change : Sink → Sink) : Session :=
  let stream := session.dialed.stream
  let writer := { stream.writer with sink := change stream.writer.sink }
  { session with dialed := { session.dialed with stream := { stream with writer } } }

def changeSource (session : Session) (change : Source → Source) : Session :=
  let stream := session.dialed.stream
  let reader := { stream.reader with source := change stream.reader.source }
  { session with dialed := { session.dialed with stream := { stream with reader } } }

def setClock (session : Session) (now : Nat) : Session :=
  (session.changeSink (·.setClock now)).changeSource (·.setClock now)

def wake (session : Session) : Session :=
  if session.rest = some .peer then { session with rest := none } else session

def granted (session : Session) (ticket : Ticket) : Bool :=
  session.dialed.stream.writer.lock.holder = some ticket

def isResting (session : Session) : Bool :=
  match session.rest with
  | none => false
  | some reason => !reason.isOver session.now session.granted

def background (session : Session) : Option Session :=
  if session.dialed.deferred = .finished ∨ session.isResting then none
  else
    let (rest, dialed) := session.dialed.pollDeferred session.now
    some ⟨dialed, rest⟩

instance : Timeline Session where
  now := now
  setClock := setClock
  background := background
  alarm session := if session.dialed.deferred = .finished then none else session.rest.bind Stall.alarm
  granted := granted

instance : ByteSink Session where
  write session bytes := let (result, dialed) := session.dialed.pollWrite bytes; (result, { session with dialed })
  flush session := let (result, dialed) := session.dialed.pollFlush; (result, { session with dialed })
  shutdown session := let (result, dialed) := session.dialed.pollShutdown; (result, { session with dialed })
  interruptions session := ByteSink.interruptions session.dialed
  write_le session := ByteSink.write_le session.dialed
  interruptions_write session := ByteSink.interruptions_write session.dialed

instance : ByteSource Session where
  read session room := let (result, dialed) := session.dialed.pollRead room; (result, { session with dialed })
  supply session := ByteSource.supply session.dialed
  supply_read session := ByteSource.supply_read session.dialed

end Session
end SealedTunnel.Scripted
