import SealedTunnel.Datagram.Carrier
import SealedTunnel.Stream.Drain

/-!
Messages over a connection: over a stream each behind its length, two bytes with the most significant
first; otherwise one to a datagram.
-/
namespace SealedTunnel.Connectivity

def longestMessage : Nat := 0xffff

def frame (message : Bytes) : Except IoError Bytes :=
  if message.length > longestMessage then .error (.note .invalidInput "DNS message too long")
  else .ok (Bytes.ofNatBE 2 message.length ++ message)

inductive Sending
  | writing (rest : Bytes)
  | flushing

def pollSend {γ : Type} [ByteSink γ] (sending : Sending) (line : γ) : Poll (Except IoError Unit) × Sending × γ :=
  let flush (line : γ) : Poll (Except IoError Unit) × Sending × γ :=
    let (result, line) := ByteSink.flush line
    (result, .flushing, line)
  match sending with
  | .flushing => flush line
  | .writing rest =>
    match drain .stuck line rest with
    | (.stalled reason, rest, line) => (.stalled reason, .writing rest, line)
    | (.ready (.error error), rest, line) => (.ready (.error error), .writing rest, line)
    | (.ready (.ok _), _, line) => flush line

/-- Reads exactly `needed` bytes, or fails with `early` where the source ends before. -/
def pollExactly {γ : Type} [ByteSource γ] (early : IoError) (needed : Nat) (read : Bytes) (line : γ) :
    Poll (Except IoError Bytes) × Bytes × γ :=
  if needed ≤ read.length then (.ready (.ok read), read, line)
  else
    match _read : ByteSource.read line (needed - read.length) with
    | (.stalled reason, line) => (.stalled reason, read, line)
    | (.ready (.error error), line) => (.ready (.error error), read, line)
    | (.ready (.ok []), line) => (.ready (.error early), read, line)
    | (.ready (.ok (byte :: rest)), line) => pollExactly early needed (read ++ byte :: rest) line
termination_by ByteSource.supply line
decreasing_by
  have less := ByteSource.supply_read _ _ (byte :: rest) (congrArg Prod.fst _read)
  rw [_read] at less
  simp only [List.length_cons] at less
  omega

inductive Receiving
  | length (read : Bytes)
  | body (size : Nat) (read : Bytes)

def pollBody {γ : Type} [ByteSource γ] (size : Nat) (read : Bytes) (line : γ) :
    Poll (Except IoError Bytes) × Receiving × γ :=
  let (result, read, line) := pollExactly (.note .unexpectedEof "early eof") size read line
  (result, .body size read, line)

def pollReceive {γ : Type} [ByteSource γ] (receiving : Receiving) (line : γ) :
    Poll (Except IoError Bytes) × Receiving × γ :=
  match receiving with
  | .body size read => pollBody size read line
  | .length read =>
    match pollExactly (.bare .unexpectedEof) 2 read line with
    | (.stalled reason, read, line) => (.stalled reason, .length read, line)
    | (.ready (.error error), read, line) => (.ready (.error error), .length read, line)
    | (.ready (.ok length), _, line) => pollBody length.toNatBE [] line

def datagramRoom : Nat := 4096

def pollReceiveDatagram {κ : Type} [Carrier κ] (carrier : κ) : Poll (Except IoError Bytes) × κ :=
  let (result, carrier) := Carrier.receive carrier datagramRoom
  (result.map (·.mapError TunnelError.toIoError), carrier)

def pollSendDatagram {κ : Type} [Carrier κ] (packet : Bytes) (carrier : κ) : Poll (Except IoError Unit) × κ :=
  let (result, carrier) := Carrier.send carrier packet
  (result.map (·.mapError TunnelError.toIoError), carrier)

end SealedTunnel.Connectivity
