import SealedTunnel.Scripted.Reply
import SealedTunnel.Stream.Copy

/-! Rehearsals of a writer: operations side by side, each carried on when the script says so. -/
namespace SealedTunnel.Scripted

inductive Task
  | operation (operation : Operation)
  | copy (copy : Copy Source)

structure Writing where
  writer : Writer Sink
  tasks : List (String × Task)

inductive WritingStep
  | enqueue (data : Bytes)
  | start (id : String) (request : Request)
  | copy (id : String) (source : Source)
  | poll (id : String)
  | drop (id : String)
  | feed (id : String) (items : List SourceItem)
  | close (id : String)
  | sink (change : SinkChange)

namespace Writing

def ofWriter (writer : Writer Sink) : Writing := ⟨writer, []⟩

def without (writing : Writing) (id : String) : List (String × Task) := writing.tasks.filter (·.1 ≠ id)

def finished : Request → Unit → Reply
  | .write data, _ => .count data.length
  | _, _ => .done

def advance (writing : Writing) (id : String) (task : Task) : Reply × Writing :=
  let others := writing.without id
  match task with
  | .operation operation =>
    let step := writing.writer.poll operation
    let reply := Reply.ofPoll (finished operation.request) step.result
    let kept := Task.operation { operation with stage := step.stage }
    (reply, ⟨step.writer, if reply = .pending then (id, kept) :: others else others⟩)
  | .copy copy =>
    let (result, writer, copy) := copy.poll writing.writer
    let reply := Reply.ofPoll .count result
    (reply, ⟨writer, if reply = .pending then (id, .copy copy) :: others else others⟩)

def changeSource (writing : Writing) (id : String) (change : Source → Source) : Reply × Writing :=
  match writing.tasks.lookup id with
  | some (.copy copy) =>
    (.done, { writing with tasks := (id, .copy { copy with source := change copy.source }) :: writing.without id })
  | _ => (.unknown, writing)

def cancel (writing : Writing) (id : String) : Reply × Writing :=
  match writing.tasks.lookup id with
  | some (.operation operation) => (.dropped, ⟨writing.writer.cancel operation, writing.without id⟩)
  | some (.copy copy) => (.dropped, ⟨copy.cancel writing.writer, writing.without id⟩)
  | none => (.unknown, writing)

def run (writing : Writing) : WritingStep → Reply × Writing
  | .enqueue data => (.count data.length, { writing with writer := writing.writer.enqueue data })
  | .start id request => writing.advance id (.operation (.ofRequest request))
  | .copy id source => writing.advance id (.copy (.ofSource source))
  | .poll id =>
    match writing.tasks.lookup id with
    | some task => writing.advance id task
    | none => (.unknown, writing)
  | .drop id => writing.cancel id
  | .feed id items => writing.changeSource id (·.feed items)
  | .close id => writing.changeSource id (·.close)
  | .sink change =>
    (.done, { writing with writer := { writing.writer with sink := change.apply writing.writer.sink } })

def rehearse (writer : Writer Sink) (steps : List WritingStep) : List Record × Writing :=
  records (·.writer.sink) run (ofWriter writer) steps

end Writing
end SealedTunnel.Scripted
