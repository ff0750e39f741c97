import SealedTunnel.Text.Number

/-!
Texts in documents of settings: in double quotes, with escapes, or in single quotes, as they are; and
in three quotes of either kind, over several lines.
-/
namespace SealedTunnel.Toml

open Text (isDigitOf numberOf)

/-- Control characters stand in no text, except for the tab. -/
def isPrintable (c : Char) : Bool := c = '\t' ∨ (' ' ≤ c ∧ c ≠ '\x7f')

def isSpace (c : Char) : Bool := c = ' ' ∨ c = '\t'

def readCode (digits : Nat) (chars : List Char) : Option (Char × List Char) :=
  let code := numberOf 16 (chars.take digits)
  if digits ≤ chars.length ∧ (chars.take digits).all (isDigitOf 16) ∧ code.isValidChar then
    some (Char.ofNat code, chars.drop digits)
  else none

def readEscape : List Char → Option (Char × List Char)
  | 'b' :: rest => some ('\x08', rest)
  | 't' :: rest => some ('\t', rest)
  | 'n' :: rest => some ('\n', rest)
  | 'f' :: rest => some ('\x0c', rest)
  | 'r' :: rest => some ('\r', rest)
  | '"' :: rest => some ('"', rest)
  | '\\' :: rest => some ('\\', rest)
  | 'u' :: rest => readCode 4 rest
  | 'U' :: rest => readCode 8 rest
  | _ => none

def newline? : List Char → Option (List Char)
  | '\n' :: rest => some rest
  | '\r' :: '\n' :: rest => some rest
  | _ => none

def skipLines : (fuel : Nat) → List Char → List Char
  | 0, chars => chars
  | fuel + 1, chars =>
    let rest := chars.dropWhile isSpace
    match newline? rest with
    | some rest => skipLines fuel rest
    | none => rest

/-- How many of the quotes at the front belong to the text, if three more of them end it. -/
def closing? (quote : Char) (chars : List Char) : Option Nat :=
  let count := (chars.take 5).takeWhile (· = quote) |>.length
  if count < 3 then none else some (count - 3)

def readLine (quote : Char) : (fuel : Nat) → List Char → Option (List Char × List Char)
  | 0, _ => none
  | fuel + 1, chars => do
    match chars with
    | [] => none
    | c :: rest =>
      if c = quote then some ([], rest)
      else if c = '\\' ∧ quote = '"' then
        let (escaped, rest) ← readEscape rest
        let (text, rest) ← readLine quote fuel rest
        return (escaped :: text, rest)
      else if isPrintable c then
        let (text, rest) ← readLine quote fuel rest
        return (c :: text, rest)
      else none

/-- The rest of a text on several lines. A backslash at the end of a line leaves out the blanks behind it. -/
def readLines (quote : Char) : (fuel : Nat) → List Char → Option (List Char × List Char)
  | 0, _ => none
  | fuel + 1, chars =>
    match closing? quote chars with
    | some more => some (List.replicate more quote, chars.drop (more + 3))
    | none => do
      match newline? chars, chars with
      | some rest, _ =>
        let (text, rest) ← readLines quote fuel rest
        return ('\n' :: text, rest)
      | none, [] => none
      | none, c :: rest =>
        if c = '\\' ∧ quote = '"' then
          match newline? (rest.dropWhile isSpace) with
          | some rest => readLines quote fuel (skipLines rest.length rest)
          | none =>
            let (escaped, rest) ← readEscape rest
            let (text, rest) ← readLines quote fuel rest
            return (escaped :: text, rest)
        else if isPrintable c then
          let (text, rest) ← readLines quote fuel rest
          return (c :: text, rest)
        else none

/-- A text in quotes. The end of a line right behind three quotes does not belong to it. -/
def readQuoted (isKey : Bool) (chars : List Char) : Option (String × List Char) :=
  match chars with
  | [] => none
  | quote :: rest =>
    let read :=
      if !isKey ∧ rest.take 2 = [quote, quote] then
        let body := rest.drop 2
        readLines quote (body.length + 1) ((newline? body).getD body)
      else readLine quote (rest.length + 1) rest
    read.map fun (text, rest) => (String.ofList text, rest)

end SealedTunnel.Toml
