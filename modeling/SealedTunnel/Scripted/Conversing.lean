import SealedTunnel.Scripted.Reply
import SealedTunnel.Stream.Duplex

namespace SealedTunnel.Scripted

inductive ReadingStep
  | read (room : Nat)
  | readAll (room : Nat)
  | feed (items : List SourceItem)
  | close

namespace Reading

def run (reader : Reader Source) : ReadingStep → Reply × Reader Source
  | .read room =>
    let (result, reader) := reader.poll room
    (Reply.ofPoll .bytes result, reader)
  | .readAll room =>
    let (pieces, ending, reader) := reader.readAll room
    (.series pieces ending, reader)
  | .feed items => (.done, { reader with source := reader.source.feed items })
  | .close => (.done, { reader with source := reader.source.close })

def rehearse : Reader Source → List ReadingStep → List Reply
  | _, [] => []
  | reader, step :: rest =>
    let (reply, reader) := run reader step
    reply :: rehearse reader rest

end Reading

/-- A connection, and a flush of its writer by somebody else. -/
structure Conversation where
  stream : Duplex Source Sink
  sideFlush : Option Operation

inductive ConversationStep
  | write (data : Bytes)
  | flush
  | shutdown
  | read (room : Nat)
  | enqueue (data : Bytes)
  | sideFlush
  | feed (items : List SourceItem)
  | close
  | sink (change : SinkChange)

def withSource (stream : Duplex Source Sink) (change : Source → Source) : Duplex Source Sink :=
  { stream with reader := { stream.reader with source := change stream.reader.source } }

def withSink (stream : Duplex Source Sink) (change : Sink → Sink) : Duplex Source Sink :=
  { stream with writer := { stream.writer with sink := change stream.writer.sink } }

namespace Conversation

def run (conversation : Conversation) : ConversationStep → Reply × Conversation
  | .write data =>
    let (result, stream) := conversation.stream.pollWrite data
    (Reply.ofPoll .count result, { conversation with stream })
  | .flush =>
    let (result, stream) := conversation.stream.pollFlush
    (Reply.ofPoll (fun _ => .done) result, { conversation with stream })
  | .shutdown =>
    let (result, stream) := conversation.stream.pollShutdown
    (Reply.ofPoll (fun _ => .done) result, { conversation with stream })
  | .read room =>
    let (result, stream) := conversation.stream.pollRead room
    (Reply.ofPoll .bytes result, { conversation with stream })
  | .enqueue data => (.count data.length, { conversation with stream := conversation.stream.enqueue data })
  | .sideFlush =>
    let (result, writer, sideFlush) :=
      Duplex.carry conversation.stream.writer (conversation.sideFlush.getD (.ofRequest .flush))
    (Reply.ofPoll (fun _ => .done) result, ⟨{ conversation.stream with writer }, sideFlush⟩)
  | .feed items => (.done, { conversation with stream := withSource conversation.stream (·.feed items) })
  | .close => (.done, { conversation with stream := withSource conversation.stream (·.close) })
  | .sink change => (.done, { conversation with stream := withSink conversation.stream (change.apply ·) })

def rehearse (stream : Duplex Source Sink) (steps : List ConversationStep) : List Record × Conversation :=
  records (·.stream.writer.sink) run ⟨stream, none⟩ steps

end Conversation
end SealedTunnel.Scripted
