import SealedTunnel.Toml.Number
import SealedTunnel.Toml.Quoted
import SealedTunnel.Toml.Table

namespace SealedTunnel.Toml

abbrev Key := List String × String

inductive Statement
  | entry (key : Key) (value : Toml)
  | header (key : Key)
  | itemHeader (key : Key)

def isKeyChar (c : Char) : Bool :=
  ('a' ≤ c ∧ c ≤ 'z') ∨ ('A' ≤ c ∧ c ≤ 'Z') ∨ Text.isDigit c ∨ c = '-' ∨ c = '_'

def skipSpace (chars : List Char) : List Char := chars.dropWhile isSpace

def readName (chars : List Char) : Option (String × List Char) :=
  match chars with
  | [] => none
  | c :: _ =>
    if c = '"' ∨ c = '\'' then readQuoted true chars
    else
      match chars.takeWhile isKeyChar with
      | [] => none
      | name => some (String.ofList name, chars.dropWhile isKeyChar)

def readNames : (most : Nat) → List Char → Option (Key × List Char)
  | 0, _ => none
  | most + 1, chars => do
    let (name, rest) ← readName (skipSpace chars)
    match skipSpace rest with
    | '.' :: rest =>
      let ((path, last), rest) ← readNames most rest
      return ((name :: path, last), rest)
    | rest => return (([], name), rest)

def deepest : Nat := 79

def readKey (chars : List Char) : Option (Key × List Char) := readNames deepest chars

def skipComment : List Char → List Char
  | '#' :: rest => rest.dropWhile isPrintable
  | chars => chars

/-- What follows the end of a line, before which a comment may stand. The last line may end with the document. -/
def endLine (chars : List Char) : Option (List Char) :=
  match skipComment (skipSpace chars) with
  | [] => some []
  | rest => newline? rest

def skipGap : (fuel : Nat) → List Char → Option (List Char)
  | 0, _ => none
  | fuel + 1, chars =>
    match skipSpace chars with
    | [] => some []
    | c :: rest =>
      if c = '#' then (endLine (c :: rest)).bind (skipGap fuel)
      else
        match newline? (c :: rest) with
        | some rest => skipGap fuel rest
        | none => some (c :: rest)

def readWord (word : String) (value : Toml) (chars : List Char) : Option (Toml × List Char) :=
  if word.toList.isPrefixOf chars then some (value, chars.drop word.length) else none

def shallower? : (depth : Nat) → Option Nat
  | 0 => none
  | depth + 1 => some depth

mutual

/-- A value that stands inside of no more than `depth` others. -/
def readValue : (fuel depth : Nat) → List Char → Option (Toml × List Char)
  | 0, _, _ => none
  | fuel + 1, depth, chars =>
    match chars with
    | [] => none
    | '[' :: rest => do
      let depth ← shallower? depth
      let (items, rest) ← readItems fuel depth rest
      return (.array items, rest)
    | '\x7b' :: rest => do
      let depth ← shallower? depth
      let (entries, rest) ← readEntries fuel depth rest
      return (← ofEntries? entries, rest)
    | 't' :: _ => readWord "true" (.boolean true) chars
    | 'f' :: _ => readWord "false" (.boolean false) chars
    | c :: _ =>
      if c = '"' ∨ c = '\'' then (readQuoted false chars).map fun (text, rest) => (.string text, rest)
      else readNumber chars

def readItems : (fuel depth : Nat) → List Char → Option (List Toml × List Char)
  | 0, _, _ => none
  | fuel + 1, depth, chars => do
    match ← skipGap (chars.length + 1) chars with
    | ']' :: rest => return ([], rest)
    | chars =>
      let (item, rest) ← readValue fuel depth chars
      match ← skipGap (rest.length + 1) rest with
      | ']' :: rest => return ([item], rest)
      | ',' :: rest =>
        let (items, rest) ← readItems fuel depth rest
        return (item :: items, rest)
      | _ => none

def readEntries : (fuel depth : Nat) → List Char → Option (List (Key × Toml) × List Char)
  | 0, _, _ => none
  | fuel + 1, depth, chars =>
    match skipSpace chars with
    | '\x7d' :: rest => some ([], rest)
    | chars => readMoreEntries fuel depth chars

def readMoreEntries : (fuel depth : Nat) → List Char → Option (List (Key × Toml) × List Char)
  | 0, _, _ => none
  | fuel + 1, depth, chars => do
    let (key, rest) ← readKey chars
    let (value, rest) ← readValue fuel depth (skipSpace (← expect '=' rest))
    match skipSpace rest with
    | '\x7d' :: rest => return ([(key, value)], rest)
    | ',' :: rest =>
      let (entries, rest) ← readMoreEntries fuel depth rest
      return ((key, value) :: entries, rest)
    | _ => none

end

def readStatement (chars : List Char) : Option (Statement × List Char) :=
  match chars with
  | '[' :: '[' :: rest => do
    let (key, rest) ← readKey rest
    return (.itemHeader key, ← endLine (← expect ']' (← expect ']' rest)))
  | '[' :: rest => do
    let (key, rest) ← readKey rest
    return (.header key, ← endLine (← expect ']' rest))
  | _ => do
    let (key, rest) ← readKey chars
    let (value, rest) ← readValue (rest.length + 1) deepest (skipSpace (← expect '=' rest))
    return (.entry key value, ← endLine rest)

def readStatements : (fuel : Nat) → List Char → Option (List Statement)
  | 0, _ => none
  | fuel + 1, chars => do
    match ← skipGap (chars.length + 1) chars with
    | [] => return []
    | chars =>
      let (statement, rest) ← readStatement chars
      let statements ← readStatements fuel rest
      return statement :: statements

/-- The tables so far, and the path of the one that entries belong to. -/
structure Building where
  root : Fields
  here : List String

def Building.add (building : Building) : Statement → Option Building
  | .entry (path, name) value =>
    (atHeader building.here (addEntry path name value) building.root).map ({ building with root := · })
  | .header (path, name) => (atHeader path (giveTable name) building.root).map (⟨·, path ++ [name]⟩)
  | .itemHeader (path, name) => (atHeader path (giveItem name) building.root).map (⟨·, path ++ [name]⟩)

def withoutMark : List Char → List Char
  | '\uFEFF' :: rest => rest
  | chars => chars

def parse? (text : String) : Option Toml := do
  let chars := withoutMark text.toList
  let statements ← readStatements (chars.length + 1) chars
  let building ← statements.foldlM Building.add ⟨[], []⟩
  return .table (fieldValues building.root)

end SealedTunnel.Toml
