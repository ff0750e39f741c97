import SealedTunnel.Text.Number
import SealedTunnel.Url.Basic

/-! Reading addresses. Blanks around them do not count, nor do tabs and ends of lines within. -/
namespace SealedTunnel.Url

def isAsciiLetter (c : Char) : Bool := ('a' ≤ c ∧ c ≤ 'z') ∨ ('A' ≤ c ∧ c ≤ 'Z')

def isSchemeChar (c : Char) : Bool := isAsciiLetter c ∨ Text.isDigit c ∨ c = '+' ∨ c = '-' ∨ c = '.'

def isSkipped (c : Char) : Bool := c = '\t' ∨ c = '\n' ∨ c = '\r'

def relevant (text : String) : List Char :=
  let trimmed := ((text.toList.dropWhile (· ≤ ' ')).reverse.dropWhile (· ≤ ' ')).reverse
  trimmed.filter (!isSkipped ·)

def splitScheme? (chars : List Char) : Option (String × List Char) :=
  let scheme := chars.takeWhile isSchemeChar
  match scheme, chars.dropWhile isSchemeChar with
  | first :: _, ':' :: rest => if isAsciiLetter first then some (String.ofList (scheme.map Char.toLower), rest) else none
  | _, _ => none

/-- A name and a password; an empty password is none. -/
def readUserInfo (chars : List Char) : String × Option String :=
  match Text.splitFirst? ':' chars with
  | none => (String.ofList chars, none)
  | some (name, []) => (String.ofList name, none)
  | some (name, password) => (String.ofList name, some (String.ofList password))

def splitUserInfo (kind : SchemeKind) (chars : List Char) : Except UrlFault ((String × Option String) × List Char) :=
  let authority := chars.takeWhile (!kind.isEnd ·)
  match Text.splitLast? '@' authority with
  | none => .ok (("", none), chars)
  | some (info, _) =>
    let rest := chars.drop (info.length + 1)
    if info.isEmpty ∧ rest.head?.any kind.isEnd then .error .emptyHost else .ok (readUserInfo info, rest)

/-- The host as it is written; a colon ends it unless it is in brackets. -/
def hostChars (kind : SchemeKind) : (isInside : Bool) → List Char → List Char
  | _, [] => []
  | isInside, c :: rest =>
    if (c = ':' ∧ !isInside) ∨ kind.isEnd c then []
    else c :: hostChars kind (if c = '[' then true else if c = ']' then false else isInside) rest

def readHost (kind : SchemeKind) (hasUserInfo : Bool) (chars rest : List Char) : Except UrlFault (Option Host) :=
  if chars.isEmpty then
    if kind.isWeb ∨ hasUserInfo ∨ rest.head? = some ':' then .error .emptyHost else .ok none
  else (if kind.isWeb then Host.ofRegistered chars else Host.ofOpaque chars).map some

def largestPort : Nat := 0xffff

def isPathStart (c : Char) : Bool := c = '/' ∨ c = '\\' ∨ c = '?' ∨ c = '#'

/-- The port behind a colon; there is none if it is empty or the one of the scheme. -/
def readPort (kind : SchemeKind) (chars : List Char) : Except UrlFault (Option UInt16 × List Char) :=
  let digits := chars.takeWhile Text.isDigit
  let rest := chars.dropWhile Text.isDigit
  let number := Text.numberOf 10 digits
  if number > largestPort ∨ rest.head?.any (!isPathStart ·) then .error .invalidPort
  else
    let port := UInt16.ofNat number
    .ok (if digits.isEmpty ∨ kind.defaultPort? = some port then none else some port, rest)

def queryOf (chars : List Char) : Option String :=
  (Text.splitFirst? '?' (chars.takeWhile (· ≠ '#'))).map fun (_, query) => String.ofList query

def readAuthority (scheme : String) (kind : SchemeKind) (chars : List Char) : Except UrlFault Url := do
  let ((username, password), rest) ← splitUserInfo kind chars
  let written := hostChars kind false rest
  let rest := rest.drop written.length
  let host ← readHost kind (username ≠ "" ∨ password.isSome) written rest
  let (port, rest) ← match rest with
    | ':' :: rest => readPort kind rest
    | _ => .ok (none, rest)
  return ⟨scheme, username, password, host, port, queryOf rest⟩

/-- A letter and a colon, which name a drive and not a host. -/
def isDrive : List Char → Bool
  | [letter, mark] => isAsciiLetter letter ∧ (mark = ':' ∨ mark = '|')
  | _ => false

def readFile (scheme : String) (chars : List Char) : Except UrlFault Url :=
  let isSlash (c : Char) : Bool := c = '/' ∨ c = '\\'
  match chars with
  | first :: second :: rest =>
    let written := rest.takeWhile (!SchemeKind.file.isEnd ·)
    if !(isSlash first ∧ isSlash second) ∨ written.isEmpty ∨ isDrive written then
      .ok ⟨scheme, "", none, none, none, queryOf chars⟩
    else do
      let host ← Host.ofRegistered written
      return ⟨scheme, "", none, if host = .domain "localhost" then none else some host, none,
        queryOf (rest.drop written.length)⟩
  | _ => .ok ⟨scheme, "", none, none, none, queryOf chars⟩

def parse (text : String) : Except UrlFault Url :=
  match splitScheme? (relevant text) with
  | none => .error .relativeWithoutBase
  | some (scheme, rest) =>
    match SchemeKind.ofScheme scheme, rest with
    | .file, rest => readFile scheme rest
    | .web port, rest => readAuthority scheme (.web port) (rest.dropWhile fun c => c = '/' ∨ c = '\\')
    | .other, '/' :: '/' :: rest => readAuthority scheme .other rest
    | .other, rest => .ok ⟨scheme, "", none, none, none, queryOf rest⟩

end SealedTunnel.Url
