import SealedTunnel.Dns.Name

/-!
Reading messages: a header, questions and records. Names may end in a pointer to an earlier name, and
the data of a record has the format of its type. What is read is checked, and what follows is ignored.
-/
namespace SealedTunnel.Dns

inductive MessageFault
  | endOfInput
  | unknownOperation (code : Nat)
  | pointerNotPrior (index target : Nat)
  | overlap (label other : Nat)
  | labelCode (code : Nat)
  | nameTooLong (label : Nat)
  | dataTooLong (needed remaining : Nat)
  | dataLength (read expected : Nat)
  | optionTooLong
  | unreadableType (type : Nat)
  | secondExtension
  | extensionName (name : Name)
  deriving DecidableEq, Repr

def shownByte (isFirst : Bool) (byte : UInt8) : String :=
  let c := Char.ofNat byte.toNat
  if Name.isAlphanumeric c ∨ c = '_' ∨ (c = '-' ∧ !isFirst) ∨ (c = '*' ∧ isFirst) then c.toString
  else if 0x20 < byte.toNat ∧ byte.toNat < 0x7f then "\\" ++ c.toString
  else "\\" ++ String.ofList (Text.zeroPaddedIn 8 3 byte.toNat)

def shownLabel : Bytes → String
  | [] => ""
  | first :: rest => shownByte true first ++ String.join (rest.map (shownByte false))

def shownName (name : Name) : String :=
  if name.labels.isEmpty then "." else String.join (name.labels.map fun label => shownLabel label ++ ".")

def MessageFault.message : MessageFault → String
  | endOfInput => "unexpected end of input reached"
  | unknownOperation code => s!"unknown OpCode: {code}"
  | pointerNotPrior index target => s!"label points to data not prior to idx: {index} ptr: {target}"
  | overlap label other => s!"overlapping labels name {label} other {other}"
  | labelCode code => "unrecognized label code: " ++ String.ofList (Nat.toDigits 2 code)
  | nameTooLong label => s!"name label data exceed 255: {label}"
  | dataTooLong needed remaining => s!"rdata length too large for remaining bytes, need: {needed} remain: {remaining}"
  | dataLength read expected => s!"incorrect rdata length read: {read} expected: {expected}"
  | optionTooLong => "OPT value length exceeds rdata length"
  | unreadableType type => s!"unknown record type value: {type}"
  | secondExtension => "more than one edns record present"
  | extensionName name => "edns resource record label must be the root label (.): " ++ shownName name

structure Cursor where
  position : Nat
  rest : Bytes

/-- A reader keeps its place also when it fails. -/
abbrev Scan := ExceptT MessageFault (StateM Cursor)

namespace Scan

def place : Scan Nat := return (← get).position

def remaining : Scan Nat := return (← get).rest.length

def skip (count : Nat) : Scan Unit := modify fun cursor => ⟨cursor.position + count, cursor.rest.drop count⟩

def take (count : Nat) : Scan Bytes := do
  let cursor ← get
  if cursor.rest.length < count then throw .endOfInput
  skip count
  return cursor.rest.take count

def number (width : Nat) : Scan Nat := return (← take width).toNatBE

def run : Scan Bytes := do take (← number 1)

def runsUntil (stop : Nat) : (fuel : Nat) → Scan Unit
  | 0 => return
  | fuel + 1 => do
    if (← place) < stop then
      let _ ← run
      runsUntil stop fuel

/-- Extension options until `stop`; none is longer than all of them. -/
def optionsUntil (stop length : Nat) : (fuel : Nat) → Scan Unit
  | 0 => return
  | fuel + 1 => do
    if (← place) < stop then
      let _ ← number 2
      if (← place) < stop then
        let size ← number 2
        if size > length then throw .optionTooLong
        skip (min size (min (stop - (← place)) (← remaining)))
        optionsUntil stop length fuel

end Scan

/-- Labels of a name that began at `start`, behind those before, and the place after them. A name
read through a pointer has to end before the name that holds the pointer. -/
def readLabels (message : Bytes) (start : Nat) (bound : Option Nat) (name : Name) (cursor : Cursor) :
    Except MessageFault Name × Cursor :=
  if let some other := bound.filter (· ≤ cursor.position) then (.error (.overlap start other), cursor)
  else
    match _split : cursor.rest with
    | [] => (.error .endOfInput, cursor)
    | code :: rest =>
      let after : Cursor := ⟨cursor.position + 1, rest⟩
      if code = 0 then (.ok name, after)
      else if code < 64 then
        if rest.length < code.toNat then (.error .endOfInput, after)
        else
          match name.append (rest.take code.toNat) with
          | .error _ => (.error (.nameTooLong code.toNat), ⟨after.position + code.toNat, rest.drop code.toNat⟩)
          | .ok name => readLabels message start bound name ⟨after.position + code.toNat, rest.drop code.toNat⟩
      else if code < 192 then (.error (.labelCode code.toNat), cursor)
      else
        match rest with
        | [] => (.error .endOfInput, cursor)
        | low :: rest =>
          let target := (code.toNat % 64) * 256 + low.toNat
          let after : Cursor := ⟨cursor.position + 2, rest⟩
          if _prior : target < start then
            ((readLabels message target (some start) name ⟨target, message.drop target⟩).1, after)
          else (.error (.pointerNotPrior cursor.position target), after)
termination_by (start, cursor.rest.length)
decreasing_by
  · refine Prod.Lex.right _ ?_
    rw [_split]
    simp only [List.length_drop, List.length_cons]
    omega
  · exact Prod.Lex.left _ _ _prior

def readName (message : Bytes) : Scan Name := fun cursor => readLabels message cursor.position none .root cursor

structure Question where
  name : Name
  type : Nat
  cls : Nat
  deriving DecidableEq, Repr

structure Record where
  name : Name
  type : Nat
  cls : Nat
  lifetime : Nat
  data : Bytes
  deriving DecidableEq, Repr

def readQuestion (message : Bytes) : Scan Question := do
  return ⟨← readName message, ← Scan.number 2, ← Scan.number 2⟩

def extensionType : Nat := 41

inductive Part
  | number (width : Nat)
  | name
  | run
  /-- Runs up to the end of the data. -/
  | runs
  | options
  | rest

/-- What the data of a record of that type consists of; nothing if it cannot be read. -/
def format : (type : Nat) → Option (List Part)
  | 0 => some []
  | 1 => some [.number 1, .number 1, .number 1, .number 1]
  | 2 | 5 | 12 | 65305 => some [.name]
  | 6 => some [.name, .name, .number 4, .number 4, .number 4, .number 4, .number 4]
  | 13 => some [.run, .run]
  | 15 => some [.number 2, .name]
  | 16 => some [.runs]
  | 28 => some (List.replicate 8 (.number 2))
  | 33 => some [.number 2, .number 2, .number 2, .name]
  | 35 => some [.number 2, .number 2, .run, .run, .run, .name]
  | 41 => some [.options]
  | 44 => some [.number 1, .number 1, .rest]
  | 52 => some [.number 1, .number 1, .number 1, .rest]
  | 251 | 252 | 255 => none
  | _ => some [.rest]

def readPart (message : Bytes) (start length : Nat) : Part → Scan Unit
  | .number width => do let _ ← Scan.number width
  | .name => do let _ ← readName message
  | .run => do let _ ← Scan.run
  | .runs => Scan.runsUntil (start + length) length
  | .options => Scan.optionsUntil (start + length) length length
  | .rest => do
    let place ← Scan.place
    let _ ← Scan.take (start + length - place)

/-- Reads data of that length. A wrong length is reported before any other fault in the data. -/
def readData (message : Bytes) (type length : Nat) : Scan Bytes := do
  let cursor ← get
  match format type with
  | none => throw (.unreadableType type)
  | some parts =>
    let result ← (try
        parts.forM (readPart message cursor.position length)
        pure none
      catch fault => pure (some fault))
    let read := (← Scan.place) - cursor.position
    if read ≠ length then throw (.dataLength read length)
    if let some fault := result then throw fault
    return cursor.rest.take length

def readRecord (message : Bytes) : Scan Record := do
  let name ← readName message
  let type ← Scan.number 2
  if type = extensionType ∧ name ≠ .root then throw (.extensionName name)
  let cls ← Scan.number 2
  let lifetime ← Scan.number 4
  let length ← Scan.number 2
  let remaining ← Scan.remaining
  if remaining < length then throw (.dataTooLong length remaining)
  let data ← if length = 0 then pure [] else readData message type length
  return ⟨name, type, cls, lifetime, data⟩

def readMany {α : Type} (read : Scan α) : (count : Nat) → Scan (List α)
  | 0 => return []
  | count + 1 => do
    let first ← read
    let others ← readMany read count
    return first :: others

/-- Additional records, among which extensions are announced once at most. -/
def readAdditional (message : Bytes) : (count : Nat) → (announced : Bool) → Scan (List Record)
  | 0, _ => return []
  | count + 1, announced => do
    let record ← readRecord message
    let announces := record.type = extensionType
    if announced ∧ announces then throw .secondExtension
    let others ← readAdditional message count (announced ∨ announces)
    return record :: others

structure Message where
  id : Nat
  flags : Nat
  questions : List Question
  answers : List Record
  authorities : List Record
  additional : List Record
  deriving DecidableEq, Repr

def operations : List Nat := [0, 2, 4, 5]

def readMessage (message : Bytes) : Scan Message := do
  let id ← Scan.number 2
  let high ← Scan.number 1
  let operation := high / 8 % 16
  if !operations.contains operation then throw (.unknownOperation operation)
  let low ← Scan.number 1
  let questions ← Scan.number 2
  let answers ← Scan.number 2
  let authorities ← Scan.number 2
  let additional ← Scan.number 2
  return ⟨id, high * 256 + low, ← readMany (readQuestion message) questions, ← readMany (readRecord message) answers,
    ← readMany (readRecord message) authorities, ← readAdditional message additional false⟩

def Message.parse (message : Bytes) : Except MessageFault Message := (StateT.run (readMessage message) ⟨0, message⟩).1

end SealedTunnel.Dns
