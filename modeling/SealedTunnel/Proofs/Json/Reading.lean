import SealedTunnel.Json.Printer
import SealedTunnel.Json.Parser
import SealedTunnel.Proofs.Text.Numerals

/-!
Documents are read as they are written, with everything in them that is nested: words, whole numbers, strings of any
characters, arrays and objects. What follows a document is left as it is, if it is what may follow one.
-/
namespace SealedTunnel.Json

open Text (isDigit isDigitOf)

variable {rest : List Char} {c : Char}

mutual

/-- The document as it is read. Floating-point numbers have no place in it. -/
def written : Json → Written
  | .null => .null
  | .bool value => .bool value
  | .integer value => .number ⟨value < 0, Nat.toDigits 10 value.natAbs, none, none⟩
  | .float _ => .null
  | .string text => .string (text.toList.map .char)
  | .array items => .array (writtenItems items)
  | .object fields => .object (writtenFields fields)

def writtenItems : List Json → List Written
  | [] => []
  | item :: others => item.written :: writtenItems others

def writtenFields : List (String × Json) → List (List Piece × Written)
  | [] => []
  | (name, value) :: others => (name.toList.map .char, value.written) :: writtenFields others

end

mutual

def isExact : Json → Bool
  | .float _ => false
  | .array items => areExact items
  | .object fields => haveExact fields
  | _ => true

def areExact : List Json → Bool
  | [] => true
  | item :: others => item.isExact && areExact others

def haveExact : List (String × Json) → Bool
  | [] => true
  | (_, value) :: others => value.isExact && haveExact others

end

/-- What may follow a value: nothing, or what goes on with the array or the object that it stands in, or ends it. -/
def Ends (rest : List Char) : Prop := ∀ c ∈ rest.head?, c = ',' ∨ c = ']' ∨ c = '\x7d'

theorem exists_fuel {fuel length : Nat} (enough : length < fuel) : ∃ less, fuel = less + 1 ∧ length ≤ less := by
  cases fuel with
  | zero => cases enough
  | succ less => exact ⟨less, rfl, Nat.le_of_lt_succ enough⟩

section Strings

variable {fuel : Nat} {chars : List Char}

theorem readUnit_padded {code : Nat} (small : code < 0x10000) (rest : List Char) :
    readUnit (Text.zeroPaddedIn 16 4 code ++ rest) = some (code, rest) := by
  have length : (Text.zeroPaddedIn 16 4 code).length = 4 := Text.length_zeroPaddedIn (by decide) (by decide) small
  have digits : (Text.zeroPaddedIn 16 4 code).all (isDigitOf 16) :=
    List.all_eq_true.mpr fun c member => Text.isDigitOf_zeroPaddedIn (by decide) (by decide) member
  have same : Text.numberOf 16 (Text.zeroPaddedIn 16 4 code) = code :=
    Text.numberOf_zeroPaddedIn (by decide) (by decide) 4 code
  match written : Text.zeroPaddedIn 16 4 code, length with
  | [a, b, c, d], _ =>
      rw [written] at digits same
      simp only [readUnit, List.cons_append, List.nil_append]
      rw [if_pos digits, same]

theorem readEscape_code {c : Char} (small : c.toNat < 0xd800) (rest : List Char) :
    readEscape ('u' :: (Text.zeroPaddedIn 16 4 c.toNat ++ rest)) = some (.char c, rest) := by
  have lead : isLeadUnit c.toNat = false := by simp [isLeadUnit]; omega
  have trail : isTrailUnit c.toNat = false := by simp [isTrailUnit]; omega
  have unit := readUnit_padded (Nat.lt_trans small (by decide)) rest
  simp [readEscape, readUnitPiece, unit, lead, trail]

theorem readPieces_escape {c : Char} (read : readEscape chars = some (.char c, rest)) :
    readPieces (fuel + 1) ('\\' :: chars) = (readPieces fuel rest).map fun (pieces, rest) => (.char c :: pieces, rest) := by
  simp only [readPieces, read, Option.bind_eq_bind, Option.bind_some]
  cases readPieces fuel rest <;> rfl

theorem readPieces_bare {c : Char} (quote : c ≠ '"') (backslash : c ≠ '\\') (printed : ' ' ≤ c) :
    readPieces (fuel + 1) (c :: rest) = (readPieces fuel rest).map fun (pieces, rest) => (.char c :: pieces, rest) := by
  rw [readPieces, if_neg (Char.not_lt.mpr printed)]
  · cases readPieces fuel rest <;> rfl
  · exact quote
  · exact backslash

theorem readPieces_escapedChar (fuel : Nat) (c : Char) (rest : List Char) :
    readPieces (fuel + 1) (escapedChar c ++ rest) =
      (readPieces fuel rest).map fun (pieces, rest) => (.char c :: pieces, rest) := by
  unfold escapedChar
  split
  · next mark =>
      apply readPieces_escape
      rcases mark with rfl | rfl <;> rfl
  next plain =>
  rw [not_or] at plain
  split
  · next printed => exact readPieces_bare plain.1 plain.2 printed
  next control =>
  split
  · next same => exact same ▸ readPieces_escape rfl
  split
  · next same => exact same ▸ readPieces_escape rfl
  split
  · next same => exact same ▸ readPieces_escape rfl
  split
  · next same => exact same ▸ readPieces_escape rfl
  split
  · next same => exact same ▸ readPieces_escape rfl
  · have small : c.toNat < 32 := Nat.lt_of_not_le control
    exact readPieces_escape (readEscape_code (Nat.lt_trans small (by decide)) rest)

theorem escapedChar_ne_nil (c : Char) : escapedChar c ≠ [] := by
  unfold escapedChar
  repeat' split
  all_goals exact List.cons_ne_nil _ _

theorem readPieces_escaped (text : List Char) (enough : (text.flatMap escapedChar).length < fuel) (rest : List Char) :
    readPieces fuel (text.flatMap escapedChar ++ '"' :: rest) = some (text.map .char, rest) := by
  induction text generalizing fuel with
  | nil =>
      obtain ⟨fuel, rfl, -⟩ := exists_fuel enough
      rfl
  | cons c others ih =>
      obtain ⟨fuel, rfl, -⟩ := exists_fuel enough
      have taken := List.length_pos_iff.mpr (escapedChar_ne_nil c)
      rw [List.flatMap_cons, List.length_append] at enough
      rw [List.flatMap_cons, List.append_assoc, readPieces_escapedChar, ih (by omega)]
      rfl

theorem readString_quoted (text : String) (rest : List Char) :
    readString (quotedChars text ++ rest) = some (text.toList.map .char, rest) := by
  have body : quotedChars text ++ rest = '"' :: (text.toList.flatMap escapedChar ++ '"' :: rest) := by simp [quotedChars]
  rw [body, readString]
  refine readPieces_escaped text.toList ?_ rest
  rw [List.length_append]
  exact Nat.lt_succ_of_le (Nat.le_add_right _ _)

end Strings

section Numbers

theorem Ends.stops (ends : Ends rest) : Text.Stops 10 rest := by
  intro c first
  rcases ends c first with rfl | rfl | rfl <;> decide

theorem readDigits_toDigits (number : Nat) (ends : Ends rest) :
    readDigits (Nat.toDigits 10 number ++ rest) = some (Nat.toDigits 10 number, rest) := by
  have same : isDigit = isDigitOf 10 := funext fun c => Text.isDigitOf_ten.symm
  have digits : ∀ c ∈ Nat.toDigits 10 number, isDigitOf 10 c := fun c =>
    Text.isDigitOf_toDigits (by decide) (by decide)
  obtain ⟨front, behind⟩ := Text.takeWhile_digits digits ends.stops
  rw [readDigits, same, front, behind]
  split
  · next empty => exact absurd empty Nat.toDigits_ne_nil
  · rfl

theorem readNumber_toDigits (negative : Bool) (number : Nat) (ends : Ends rest) :
    readNumber negative (Nat.toDigits 10 number ++ rest) = some (⟨negative, Nat.toDigits 10 number, none, none⟩, rest) := by
  have leading : ¬ ((Nat.toDigits 10 number).length > 1 ∧ (Nat.toDigits 10 number).head? = some '0') := by
    rintro ⟨long, zero⟩
    rcases Nat.eq_zero_or_pos number with rfl | positive
    · exact absurd long (by simp)
    · exact Text.head_toDigits (by decide) positive zero
  have fraction : readFraction rest = some (none, rest) := by
    unfold readFraction
    split
    · exact absurd (ends '.' rfl) (by decide)
    · rfl
  have exponent : readExponent rest = some (none, rest) := by
    unfold readExponent
    split
    · next c after =>
        have other : ¬ (c = 'e' ∨ c = 'E') := by
          rcases ends c rfl with rfl | rfl | rfl <;> decide
        rw [if_neg other]
    · rfl
  simp only [readNumber, readWhole, readDigits_toDigits number ends, if_neg leading, fraction, exponent,
    Option.bind_eq_bind, Option.bind_some]
  rfl

end Numbers

section Values

/-- What the text begins with is neither passed over nor taken for the end of an array or an object. -/
def Begun (chars : List Char) : Prop := ∃ c tail, chars = c :: tail ∧ isBlank c = false ∧ c ≠ ']' ∧ c ≠ '\x7d'

/-- In front of whatever may follow it, the text is read as the value. -/
structure Reads (chars : List Char) (value : Written) : Prop where
  begun : Begun chars
  read : ∀ fuel rest, chars.length < fuel → Ends rest → readValue fuel (chars ++ rest) = some (value, rest)

variable {value : Written} {chars tail : List Char} {fuel : Nat}

theorem skipBlanks_cons {c : Char} (other : isBlank c = false) (rest : List Char) : skipBlanks (c :: rest) = c :: rest :=
  List.dropWhile_cons_of_neg (by simp [other])

theorem Begun.append (begun : Begun chars) (rest : List Char) : Begun (chars ++ rest) := by
  obtain ⟨c, tail, rfl, other⟩ := begun
  exact ⟨c, tail ++ rest, rfl, other⟩

theorem Begun.skipBlanks (begun : Begun chars) : skipBlanks chars = chars := by
  obtain ⟨c, tail, rfl, solid, -⟩ := begun
  exact skipBlanks_cons solid _

theorem Ends.cons {c : Char} (mark : c = ',' ∨ c = ']' ∨ c = '\x7d') (rest : List Char) : Ends (c :: rest) := by
  rintro _ ⟨⟩
  exact mark

section Items

theorem readItems_last (reads : Reads chars value) (enough : chars.length < fuel) (rest : List Char) :
    readItems (fuel + 1) (chars ++ ']' :: rest) = some ([value], rest) := by
  simp only [readItems, reads.read fuel (']' :: rest) enough (.cons (by decide) _), Option.bind_eq_bind, Option.bind_some,
    skipBlanks_cons (show isBlank ']' = false by decide)]
  rfl

theorem readItems_next {values : List Written} (reads : Reads chars value) (enough : chars.length < fuel)
    (bare : skipBlanks tail = tail) (later : readItems fuel tail = some (values, rest)) :
    readItems (fuel + 1) (chars ++ ',' :: tail) = some (value :: values, rest) := by
  simp only [readItems, reads.read fuel (',' :: tail) enough (.cons (by decide) _), Option.bind_eq_bind, Option.bind_some,
    skipBlanks_cons (show isBlank ',' = false by decide), bare, later]
  rfl

theorem begun_joined {item : Json} (reads : Reads item.chars item.written) (others : List Json) :
    Begun (joined (itemChars (item :: others))) := by
  cases others with
  | nil => exact reads.begun
  | cons next others => exact reads.begun.append _

theorem readItems_joined (item : Json) (others : List Json) (reads : ∀ one ∈ item :: others, Reads one.chars one.written)
    (enough : (joined (itemChars (item :: others))).length + 1 < fuel) (rest : List Char) :
    readItems fuel (joined (itemChars (item :: others)) ++ ']' :: rest) = some (writtenItems (item :: others), rest) := by
  induction others generalizing item fuel with
  | nil =>
      obtain ⟨fuel, rfl, fits⟩ := exists_fuel enough
      exact readItems_last (reads item List.mem_cons_self) fits rest
  | cons next others ih =>
      obtain ⟨fuel, rfl, enough⟩ := exists_fuel enough
      obtain ⟨first, later⟩ := List.forall_mem_cons.mp reads
      have length : (joined (itemChars (item :: next :: others))).length =
          item.chars.length + 1 + (joined (itemChars (next :: others))).length := by
        simp [itemChars, joined]
        omega
      have split : joined (itemChars (item :: next :: others)) ++ ']' :: rest =
          item.chars ++ ',' :: (joined (itemChars (next :: others)) ++ ']' :: rest) := by
        simp [itemChars, joined]
      rw [split]
      have bare := ((begun_joined (later next List.mem_cons_self) others).append (']' :: rest)).skipBlanks
      exact readItems_next first (by omega) bare (ih next later (by omega))

end Items

section Fields

theorem readFields_last (name : String) (reads : Reads chars value) (enough : chars.length < fuel) (rest : List Char) :
    readFields (fuel + 1) (quotedChars name ++ ':' :: (chars ++ '\x7d' :: rest)) =
      some ([(name.toList.map .char, value)], rest) := by
  simp only [readFields, readString_quoted, reads.read fuel ('\x7d' :: rest) enough (.cons (by decide) _),
    Option.bind_eq_bind, Option.bind_some, (reads.begun.append _).skipBlanks,
    skipBlanks_cons (show isBlank ':' = false by decide),
    skipBlanks_cons (show isBlank '\x7d' = false by decide)]
  rfl

theorem readFields_next (name : String) {fields : List (List Piece × Written)} (reads : Reads chars value)
    (enough : chars.length < fuel) (bare : skipBlanks tail = tail) (later : readFields fuel tail = some (fields, rest)) :
    readFields (fuel + 1) (quotedChars name ++ ':' :: (chars ++ ',' :: tail)) =
      some ((name.toList.map .char, value) :: fields, rest) := by
  simp only [readFields, readString_quoted, reads.read fuel (',' :: tail) enough (.cons (by decide) _),
    Option.bind_eq_bind, Option.bind_some, (reads.begun.append _).skipBlanks,
    skipBlanks_cons (show isBlank ':' = false by decide),
    skipBlanks_cons (show isBlank ',' = false by decide), bare, later]
  rfl

theorem begun_joinedFields (field : String × Json) (others : List (String × Json)) :
    Begun (joined (fieldChars (field :: others))) := by
  cases others <;> exact ⟨'"', _, rfl, by decide⟩

theorem readFields_joined (field : String × Json) (others : List (String × Json))
    (reads : ∀ one ∈ field :: others, Reads one.2.chars one.2.written)
    (enough : (joined (fieldChars (field :: others))).length + 1 < fuel) (rest : List Char) :
    readFields fuel (joined (fieldChars (field :: others)) ++ '\x7d' :: rest) =
      some (writtenFields (field :: others), rest) := by
  induction others generalizing field fuel with
  | nil =>
      obtain ⟨fuel, rfl, enough⟩ := exists_fuel enough
      have split : joined (fieldChars [field]) ++ '\x7d' :: rest =
          quotedChars field.1 ++ ':' :: (field.2.chars ++ '\x7d' :: rest) := by
        simp [fieldChars, joined]
      rw [split]
      simp [fieldChars, joined] at enough
      exact readFields_last field.1 (reads field List.mem_cons_self) (by omega) rest
  | cons next others ih =>
      obtain ⟨fuel, rfl, enough⟩ := exists_fuel enough
      obtain ⟨first, later⟩ := List.forall_mem_cons.mp reads
      have length : (joined (fieldChars (field :: next :: others))).length =
          (quotedChars field.1).length + 1 + field.2.chars.length + 1 + (joined (fieldChars (next :: others))).length := by
        simp [fieldChars, joined]
        omega
      have split : joined (fieldChars (field :: next :: others)) ++ '\x7d' :: rest =
          quotedChars field.1 ++
            ':' :: (field.2.chars ++ ',' :: (joined (fieldChars (next :: others)) ++ '\x7d' :: rest)) := by
        simp [fieldChars, joined]
      have bare := ((begun_joinedFields next others).append ('\x7d' :: rest)).skipBlanks
      rw [split]
      exact readFields_next field.1 first (by omega) bare (ih next later (by omega))

end Fields

theorem reads_null : Reads null.chars .null := by
  refine ⟨⟨'n', _, rfl, by decide⟩, ?_⟩
  intro fuel rest enough ends
  obtain ⟨fuel, rfl, -⟩ := exists_fuel enough
  rfl

theorem reads_bool (value : Bool) : Reads (bool value).chars (.bool value) := by
  cases value with
  | false =>
      refine ⟨⟨'f', _, rfl, by decide⟩, ?_⟩
      intro fuel rest enough ends
      obtain ⟨fuel, rfl, -⟩ := exists_fuel enough
      rfl
  | true =>
      refine ⟨⟨'t', _, rfl, by decide⟩, ?_⟩
      intro fuel rest enough ends
      obtain ⟨fuel, rfl, -⟩ := exists_fuel enough
      rfl

theorem reads_string (text : String) : Reads (quotedChars text) (.string (text.toList.map .char)) := by
  refine ⟨⟨'"', _, rfl, by decide⟩, ?_⟩
  intro fuel rest enough ends
  obtain ⟨fuel, rfl, -⟩ := exists_fuel enough
  have whole : quotedChars text ++ rest = '"' :: (text.toList.flatMap escapedChar ++ '"' :: rest) := by simp [quotedChars]
  have read := readString_quoted text rest
  rw [whole] at read ⊢
  rw [readValue, read]
  rfl

theorem readValue_digit {digit : Char} (isDigit : isDigit digit = true) (fuel : Nat) (rest : List Char) :
    readValue (fuel + 1) (digit :: rest) =
      (readNumber false (digit :: rest)).map fun (number, rest) => (.number number, rest) := by
  rw [readValue]
  all_goals
    rintro other ⟨⟩
    exact absurd isDigit (by decide)

theorem reads_natural (number : Nat) :
    Reads (Nat.toDigits 10 number) (.number ⟨false, Nat.toDigits 10 number, none, none⟩) := by
  obtain ⟨digit, tail, begun⟩ := List.exists_cons_of_ne_nil (Nat.toDigits_ne_nil (b := 10) (n := number))
  have isDigit : Text.isDigit digit = true := by
    rw [← Text.isDigitOf_ten]
    exact Text.isDigitOf_toDigits (by decide) (by decide) (begun ▸ List.mem_cons_self)
  have other {c : Char} (mark : Text.isDigit c = false) : digit ≠ c := by
    rintro rfl
    exact absurd (isDigit.symm.trans mark) (by decide)
  have solid : isBlank digit = false := by
    simp [isBlank, other (c := ' ') (by decide), other (c := '\n') (by decide), other (c := '\t') (by decide),
      other (c := '\r') (by decide)]
  constructor
  · exact ⟨digit, tail, begun, solid, other (by decide), other (by decide)⟩
  · intro fuel rest enough ends
    obtain ⟨fuel, rfl, -⟩ := exists_fuel enough
    have read := readNumber_toDigits false number ends
    rw [begun, List.cons_append] at read ⊢
    rw [readValue_digit isDigit, read]
    rfl

theorem reads_integer (value : Int) : Reads (integer value).chars (integer value).written := by
  rw [chars, integerChars, written]
  split
  · next negative =>
      refine ⟨⟨'-', _, rfl, by decide⟩, ?_⟩
      intro fuel rest enough ends
      obtain ⟨fuel, rfl, -⟩ := exists_fuel enough
      rw [List.cons_append, readValue, readNumber_toDigits true value.natAbs ends, decide_eq_true negative]
      rfl
  · next whole =>
      rw [decide_eq_false whole]
      exact reads_natural value.natAbs

theorem readValue_items {values : List Written} (begun : Begun tail) (read : readItems fuel tail = some (values, rest)) :
    readValue (fuel + 1) ('[' :: tail) = some (.array values, rest) := by
  have bare := begun.skipBlanks
  obtain ⟨c, behind, rfl, -, open', -⟩ := begun
  rw [readValue, bare]
  split
  · next closed => exact absurd (List.cons.inj closed).1 open'
  · rw [read]
    rfl

theorem readValue_fields {fields : List (List Piece × Written)} (begun : Begun tail)
    (read : readFields fuel tail = some (fields, rest)) :
    readValue (fuel + 1) ('\x7b' :: tail) = some (.object fields, rest) := by
  have bare := begun.skipBlanks
  obtain ⟨c, behind, rfl, -, -, open'⟩ := begun
  rw [readValue, bare]
  split
  · next closed => exact absurd (List.cons.inj closed).1 open'
  · rw [read]
    rfl

theorem reads_array (items : List Json) (reads : ∀ one ∈ items, Reads one.chars one.written) :
    Reads (array items).chars (array items).written := by
  refine ⟨⟨'[', joined (itemChars items) ++ [']'], by simp [Json.chars], by decide⟩, ?_⟩
  intro fuel rest enough ends
  obtain ⟨fuel, rfl, fits⟩ := exists_fuel enough
  cases items with
  | nil => rfl
  | cons item others =>
      have split : (array (item :: others)).chars ++ rest =
          '[' :: (joined (itemChars (item :: others)) ++ ']' :: rest) := by simp [Json.chars]
      have length : (array (item :: others)).chars.length = (joined (itemChars (item :: others))).length + 2 := by
        simp [Json.chars]
      rw [split]
      exact readValue_items ((begun_joined (reads item List.mem_cons_self) others).append _)
        (readItems_joined item others reads (by omega) rest)

theorem reads_object (fields : List (String × Json)) (reads : ∀ one ∈ fields, Reads one.2.chars one.2.written) :
    Reads (object fields).chars (object fields).written := by
  refine ⟨⟨'\x7b', joined (fieldChars fields) ++ ['\x7d'], by simp [Json.chars], by decide⟩, ?_⟩
  intro fuel rest enough ends
  obtain ⟨fuel, rfl, fits⟩ := exists_fuel enough
  cases fields with
  | nil => rfl
  | cons field others =>
      have split : (object (field :: others)).chars ++ rest =
          '\x7b' :: (joined (fieldChars (field :: others)) ++ '\x7d' :: rest) := by simp [Json.chars]
      have length : (object (field :: others)).chars.length = (joined (fieldChars (field :: others))).length + 2 := by
        simp [Json.chars]
      rw [split]
      exact readValue_fields ((begun_joinedFields field others).append _)
        (readFields_joined field others reads (by omega) rest)

mutual

theorem reads_chars : ∀ document : Json, document.isExact = true → Reads document.chars document.written
  | .null, _ => reads_null
  | .bool value, _ => reads_bool value
  | .integer value, _ => reads_integer value
  | .string text, _ => reads_string text
  | .array items, exact => reads_array items (reads_items items exact)
  | .object fields, exact => reads_object fields (reads_fields fields exact)

theorem reads_items : ∀ items : List Json, areExact items = true → ∀ one ∈ items, Reads one.chars one.written
  | [], _ => fun _ member => absurd member List.not_mem_nil
  | item :: others, exact =>
      have ⟨first, later⟩ := Bool.and_eq_true_iff.mp exact
      List.forall_mem_cons.mpr ⟨reads_chars item first, reads_items others later⟩

theorem reads_fields : ∀ fields : List (String × Json), haveExact fields = true →
    ∀ one ∈ fields, Reads one.2.chars one.2.written
  | [], _ => fun _ member => absurd member List.not_mem_nil
  | (_, value) :: others, exact =>
      have ⟨first, later⟩ := Bool.and_eq_true_iff.mp exact
      List.forall_mem_cons.mpr ⟨reads_chars value first, reads_fields others later⟩

end

end Values

/-- A document without floating-point numbers is read back out of its own text. -/
theorem parse?_text (document : Json) (exact : document.isExact = true) :
    Written.parse? document.text = some document.written := by
  have reads := reads_chars document exact
  have bare : skipBlanks document.text.toList = document.chars := by
    rw [text, String.toList_ofList]
    exact reads.begun.skipBlanks
  have read := reads.read (document.chars.length + 1) [] (Nat.lt_succ_self _) (by simp [Ends])
  rw [List.append_nil] at read
  simp only [Written.parse?, bare, read]
  rfl

theorem piecesText?_char (text : String) : piecesText? (text.toList.map .char) = some text := by
  have each : (text.toList.map Piece.char).mapM Piece.char? = some text.toList := by
    rw [List.mapM_map]
    exact (List.mapM_pure (m := Option) (f := id)).trans (congrArg some (List.map_id _))
  rw [piecesText?, each]
  exact congrArg some String.ofList_toList

end SealedTunnel.Json
