import SealedTunnel.Proofs.Address.Reading
import SealedTunnel.Proofs.Text.Numerals

/-!
The texts of an address. Those of the fourth version have one text only. Those of the sixth have many: their groups have up
to four digits in either case, with or without zeros in front, zeros between the groups may be left out, and the last two
groups may stand there as an address of the fourth version. These texts are read, and no others.
-/
namespace SealedTunnel

open Text (Stops isDigitOf numberOf)

variable {chars rest : List Char} {c : Char} {number : Nat}

section Marks

@[simp] theorem expectChar_cons (c : Char) (rest : List Char) : expectChar c (c :: rest) = some rest := by simp [expectChar]

theorem expectChar_eq_some : expectChar c chars = some rest ↔ chars = c :: rest := by
  cases chars with
  | nil => simp [expectChar]
  | cons head tail => simp [expectChar]

theorem expectChar_other (other : chars.head? ≠ some c) : expectChar c chars = none := by
  cases chars with
  | nil => rfl
  | cons head tail => simpa [expectChar] using other

end Marks

namespace Ipv4

variable {ip : Ipv4}

theorem toList_text (ip : Ipv4) : ip.text.toList =
    Nat.toDigits 10 ip.a.toNat ++ '.' :: (Nat.toDigits 10 ip.b.toNat ++ '.' :: (Nat.toDigits 10 ip.c.toNat ++
      '.' :: Nat.toDigits 10 ip.d.toNat)) := by
  simp [text]

theorem mem_text (member : c ∈ ip.text.toList) : Text.isDigit c ∨ c = '.' := by
  simp only [toList_text, List.mem_append, List.mem_cons] at member
  grind [Text.isDigit_toDigits]

theorem colon_not_mem_text (ip : Ipv4) : ':' ∉ ip.text.toList := by
  intro member
  rcases mem_text member with digit | dot
  · exact absurd digit (by decide)
  · exact absurd dot (by decide)

theorem read_octet : octetForm.read chars = some (number, rest) ↔
    chars = Nat.toDigits 10 number ++ rest ∧ number ≤ 255 ∧ Stops 10 rest := by
  constructor
  · intro read
    obtain ⟨digits, rfl, digital, stops, allowed, rfl⟩ := Text.NumberForm.read_eq_some.mp read
    have decimal : ∀ c ∈ digits, Text.isDigit c := fun c member => Text.isDigitOf_ten ▸ digital c member
    have leading := allowed.leading.resolve_left (by decide)
    have same : Nat.toDigits 10 (Text.numberOf octetForm.base digits) = digits :=
      Text.toDigits_numberOf allowed.nonempty decimal leading
    exact ⟨by rw [same], allowed.largest, stops⟩
  · rintro ⟨rfl, small, stops⟩
    exact Text.NumberForm.read_toDigits octetForm (by decide) (by decide) small
      (Or.inr (Nat.lt_of_le_of_lt small (by decide))) stops

/-- An address is read exactly from its own text, with nothing behind it that goes on with its last part. -/
theorem read_eq_some : read chars = some (ip, rest) ↔ chars = ip.text.toList ++ rest ∧ Stops 10 rest := by
  have dot : isDigitOf 10 '.' = false := by decide
  simp only [read, Option.bind_eq_bind, Option.bind_eq_some_iff, Option.pure_def, expectChar_eq_some, toList_text]
  constructor
  · rintro ⟨⟨a, _⟩, first, _, rfl, ⟨b, _⟩, second, _, rfl, ⟨c, _⟩, third, _, rfl, ⟨d, _⟩, fourth, made⟩
    obtain ⟨rfl, smallA, -⟩ := read_octet.mp first
    obtain ⟨rfl, smallB, -⟩ := read_octet.mp second
    obtain ⟨rfl, smallC, -⟩ := read_octet.mp third
    obtain ⟨rfl, smallD, stops⟩ := read_octet.mp fourth
    cases made
    have octet (number : Nat) (small : number ≤ 255) : (UInt8.ofNat number).toNat = number :=
      UInt8.toNat_ofNat_of_lt' (Nat.lt_succ_of_le small)
    rw [octet a smallA, octet b smallB, octet c smallC, octet d smallD]
    exact ⟨by simp, stops⟩
  · rintro ⟨rfl, stops⟩
    have octet (part : UInt8) (rest : List Char) (stops : Stops 10 rest) :
        octetForm.read (Nat.toDigits 10 part.toNat ++ rest) = some (part.toNat, rest) :=
      read_octet.mpr ⟨rfl, Nat.le_of_lt_succ part.toNat_lt, stops⟩
    simp only [List.append_assoc, List.cons_append]
    exact ⟨_, octet ip.a _ (.cons dot _), _, rfl, _, octet ip.b _ (.cons dot _), _, rfl, _, octet ip.c _ (.cons dot _), _,
      rfl, _, octet ip.d _ stops, by simp⟩

theorem read_stops (stops : Stops 10 chars) : read chars = none := by
  have first : octetForm.read chars = none := Text.NumberForm.read_stops stops
  rw [read, first]
  rfl

end Ipv4

namespace Ipv6

def between (first : Bool) : List Char := if first then [] else [':']

def embeddedGroups (ip : Ipv4) : List UInt16 :=
  [UInt16.ofNat (ip.a.toNat * 256 + ip.b.toNat), UInt16.ofNat (ip.c.toNat * 256 + ip.d.toNat)]

/-- A group as it may stand in a text, with digits in either case and any zeros in front. -/
structure IsGroup (digits : List Char) : Prop where
  digital : ∀ c ∈ digits, isDigitOf 16 c
  nonempty : digits ≠ []
  short : digits.length ≤ 4

/-- Groups as they may stand in a text, with colons between them and, unless they come first, in front. The last two may be
`embedded` as an address of the fourth version. -/
inductive Spells : (first embedded : Bool) → List Char → List UInt16 → Prop
  | nothing (first : Bool) : Spells first false [] []
  | group (first : Bool) {embedded : Bool} {digits chars : List Char} {groups : List UInt16} (digital : IsGroup digits)
      (others : Spells false embedded chars groups) :
      Spells first embedded (between first ++ (digits ++ chars)) (UInt16.ofNat (numberOf 16 digits) :: groups)
  | embedded (first : Bool) (ip : Ipv4) : Spells first true (between first ++ ip.text.toList) (embeddedGroups ip)

/-- A text of an address: all its groups, or two colons in place of some that are zero. -/
inductive IsText : List Char → Ipv6 → Prop
  | whole {embedded : Bool} {chars : List Char} {groups : List UInt16} (spells : Spells true embedded chars groups)
      (eight : groups.length = 8) : IsText chars (ofParts groups [])
  | shortened {embedded : Bool} {before behind : List Char} {front back : List UInt16}
      (left : Spells true false before front) (right : Spells true embedded behind back)
      (fits : front.length + back.length ≤ 7) :
      IsText (before ++ ':' :: ':' :: behind) (ofParts front back)

/-- What ends the groups of an address: nothing that goes on with the last of them, nor another one behind a colon. -/
structure Closes (rest : List Char) : Prop where
  digit : Stops 16 rest
  dot : rest.head? ≠ some '.'
  colon : ∀ after, rest = ':' :: after → Stops 16 after

variable {first embedded : Bool} {groups front back : List UInt16} {digits : List Char} {ip : Ipv6}

theorem separator_eq_some : separator first chars = some rest ↔ chars = between first ++ rest := by
  cases first with
  | true => simp [separator, between]
  | false => simp [separator, between, expectChar_eq_some]

section Ends

theorem Closes.colons (tail : List Char) : Closes (':' :: ':' :: tail) :=
  ⟨.cons (by decide) _, by simp, fun _ same => (List.cons.inj same).2 ▸ .cons (by decide) _⟩

theorem Closes.foreign (other : ∀ c ∈ rest.head?, isAddressChar c = false) : Closes rest := by
  have marks (c : Char) (first : rest.head? = some c) : isDigitOf 16 c = false ∧ c ≠ ':' ∧ c ≠ '.' := by
    simpa [isAddressChar] using other c first
  refine ⟨fun c first => (marks c first).1, fun first => (marks '.' first).2.2 rfl, ?_⟩
  rintro after rfl
  exact absurd rfl (marks ':' rfl).2.1

theorem Closes.nothing : Closes [] := .foreign (by simp)

theorem Closes.behind (closes : Closes rest) (others : Spells false embedded chars groups) :
    Stops 16 (chars ++ rest) ∧ (chars ++ rest).head? ≠ some '.' := by
  cases others with
  | nothing => exact ⟨closes.digit, closes.dot⟩
  | group => exact ⟨.cons (by decide) _, by simp [between]⟩
  | embedded => exact ⟨.cons (by decide) _, by simp [between]⟩

end Ends

section Groups

theorem IsGroup.allowed (group : IsGroup digits) : groupForm.Allows digits := by
  refine ⟨group.nonempty, Or.inr group.short, Or.inl rfl, ?_⟩
  have bound := Text.numberOf_lt group.digital
  have most : 16 ^ digits.length ≤ 16 ^ 4 := Nat.pow_le_pow_right (by decide) group.short
  exact Nat.le_of_lt_succ (Nat.lt_of_lt_of_le bound most)

theorem groupForm_read : groupForm.read chars = some (number, rest) ↔
    ∃ digits, chars = digits ++ rest ∧ IsGroup digits ∧ Stops 16 rest ∧ numberOf 16 digits = number := by
  rw [Text.NumberForm.read_eq_some]
  constructor
  · rintro ⟨digits, rfl, digital, stops, allowed, rfl⟩
    exact ⟨digits, rfl, ⟨digital, allowed.nonempty, allowed.places.resolve_left (by decide)⟩, stops, rfl⟩
  · rintro ⟨digits, rfl, group, stops, rfl⟩
    exact ⟨digits, rfl, group.digital, stops, group.allowed, rfl⟩

theorem readIpv4_group (digital : ∀ c ∈ digits, isDigitOf 16 c) (stops : Stops 16 rest) (dot : rest.head? ≠ some '.') :
    Ipv4.read (digits ++ rest) = none := by
  cases read : Ipv4.read (digits ++ rest) with
  | none => rfl
  | some found =>
      obtain ⟨same, -⟩ := Ipv4.read_eq_some.mp read
      rw [Ipv4.toList_text, List.append_assoc, List.cons_append] at same
      have part : ∀ c ∈ Nat.toDigits 10 found.1.a.toNat, isDigitOf 16 c := fun c member =>
        Text.isDigitOf_mono (by decide) (Text.isDigitOf_toDigits (by decide) (by decide) member)
      -- What is behind the digits of the group is what is behind those of the first part.
      have behind := congrArg (List.dropWhile (isDigitOf 16)) same
      rw [(Text.takeWhile_digits digital stops).2, (Text.takeWhile_digits part (.cons (by decide) _)).2] at behind
      exact absurd (congrArg List.head? behind) dot

theorem readGroups_closed (closes : Closes rest) (limit : Nat) (first : Bool) :
    readGroups limit first rest = ([], false, rest) := by
  have stopped (after : List Char) (separated : separator first rest = some after) : Stops 16 after := by
    rw [separator_eq_some] at separated
    cases first with
    | true =>
        cases separated
        exact closes.digit
    | false => exact closes.colon after separated
  have unread {α : Type} {read : List Char → Option α} (stops : ∀ after, Stops 16 after → read after = none) :
      (separator first rest).bind read = none :=
    Option.bind_eq_none_iff.mpr fun after separated => stops after (stopped after separated)
  cases limit with
  | zero => rfl
  | succ limit =>
      have embedded : (separator first rest).bind Ipv4.read = none :=
        unread fun after stops => Ipv4.read_stops (stops.mono (by decide))
      have group : (separator first rest).bind groupForm.read = none :=
        unread fun after stops => Text.NumberForm.read_stops stops
      simp only [readGroups, embedded, group, ite_self]

theorem readGroups_spelled (closes : Closes rest) (spells : Spells first embedded chars groups) {limit : Nat}
    (fits : groups.length ≤ limit) : readGroups limit first (chars ++ rest) = (groups, embedded, rest) := by
  induction spells generalizing limit with
  | nothing first => exact readGroups_closed closes limit first
  | @group first embedded digits chars groups digital others ih =>
      obtain ⟨limit, rfl⟩ := Nat.exists_eq_add_of_lt (Nat.lt_of_lt_of_le (Nat.succ_pos _) fits)
      rw [List.length_cons] at fits
      obtain ⟨stops, dot⟩ := closes.behind others
      have read : groupForm.read (digits ++ (chars ++ rest)) = some (numberOf 16 digits, chars ++ rest) :=
        groupForm_read.mpr ⟨digits, rfl, digital, stops, rfl⟩
      have fits : groups.length ≤ limit := by omega
      simp only [Nat.zero_add, readGroups, List.append_assoc, separator_eq_some.mpr rfl, Option.bind_some,
        readIpv4_group digital.digital stops dot, ite_self, read, ih fits]
  | embedded first ip =>
      obtain ⟨limit, rfl⟩ := Nat.exists_eq_add_of_le' fits
      have read : Ipv4.read (ip.text.toList ++ rest) = some (ip, rest) :=
        Ipv4.read_eq_some.mpr ⟨rfl, closes.digit.mono (by decide)⟩
      rw [embeddedGroups, List.length_cons, List.length_singleton, readGroups, List.append_assoc,
        separator_eq_some.mpr rfl, if_neg (Nat.succ_ne_zero limit), Option.bind_some, read]

theorem spells_readGroups (limit : Nat) (first : Bool) (chars : List Char) :
    (readGroups limit first chars).1.length ≤ limit ∧
      ∃ taken, chars = taken ++ (readGroups limit first chars).2.2 ∧
        Spells first (readGroups limit first chars).2.1 taken (readGroups limit first chars).1 := by
  induction limit generalizing first chars with
  | zero => exact ⟨Nat.le_refl 0, [], rfl, .nothing first⟩
  | succ limit ih =>
      rw [readGroups]
      split
      · next ip rest embedded =>
          split at embedded
          · cases embedded
          next more =>
          obtain ⟨mid, separated, read⟩ := Option.bind_eq_some_iff.mp embedded
          rw [separator_eq_some.mp separated, (Ipv4.read_eq_some.mp read).1, ← List.append_assoc]
          exact ⟨by simp; omega, _, rfl, .embedded first ip⟩
      · split
        · next group rest read =>
            obtain ⟨mid, separated, read⟩ := Option.bind_eq_some_iff.mp read
            obtain ⟨digits, rfl, digital, -, rfl⟩ := groupForm_read.mp read
            obtain ⟨fits, taken, same, others⟩ := ih false rest
            refine ⟨Nat.succ_le_succ fits, between first ++ (digits ++ taken), ?_, .group first digital others⟩
            rw [separator_eq_some.mp separated, List.append_assoc, List.append_assoc, ← same]
        · exact ⟨Nat.zero_le _, [], rfl, .nothing first⟩

end Groups

section Whole

theorem IsText.read (written : IsText chars ip) (closes : Closes rest) : Ipv6.read (chars ++ rest) = some (ip, rest) := by
  cases written with
  | whole spells eight =>
      simp only [Ipv6.read, readGroups_spelled closes spells (Nat.le_of_eq eight), eight, if_true]
  | @shortened _ before behind front back left right fits =>
      have missing : front.length ≠ 8 := by omega
      have most : front.length ≤ 8 := by omega
      have front := readGroups_spelled (Closes.colons (behind ++ rest)) left most
      have back := readGroups_spelled closes right (Nat.le_sub_of_add_le' fits)
      simp [Ipv6.read, front, missing, back]

theorem Spells.colon_mem (spells : Spells first embedded chars groups) (long : 2 < groups.length) : ':' ∈ chars := by
  cases spells with
  | nothing => cases long
  | group _ _ others =>
      cases others with
      | nothing => simp at long
      | group => simp [between]
      | embedded => simp [between]
  | embedded => simp [embeddedGroups] at long

theorem IsText.colon_mem (written : IsText chars ip) : ':' ∈ chars := by
  cases written with
  | whole spells eight => exact spells.colon_mem (by omega)
  | shortened => simp

theorem read_eq_some (read : Ipv6.read chars = some (ip, rest)) : ∃ taken, chars = taken ++ rest ∧ IsText taken ip := by
  obtain ⟨most, taken, same, spells⟩ := spells_readGroups 8 true chars
  unfold Ipv6.read at read
  dsimp only at read
  split at read
  · next eight =>
      cases read
      exact ⟨taken, same, .whole spells eight⟩
  next missing =>
  split at read
  · cases read
  next plain =>
  simp only [Option.bind_eq_bind, Option.bind_eq_some_iff, Option.pure_def, expectChar_eq_some] at read
  obtain ⟨_, marks, behind, rfl, made⟩ := read
  obtain ⟨fits, others, also, right⟩ := spells_readGroups (7 - (readGroups 8 true chars).1.length) true behind
  cases made
  rw [Bool.not_eq_true] at plain
  rw [plain] at spells
  refine ⟨taken ++ ':' :: ':' :: others, ?_, .shortened spells right (by omega)⟩
  rw [List.append_assoc, List.cons_append, List.cons_append, ← also, ← marks]
  exact same

theorem readWhole?_eq_some : IpAddress.readWhole? Ipv6.read chars = some ip ↔ IsText chars ip := by
  rw [IpAddress.readWhole?_eq_some]
  constructor
  · intro read
    obtain ⟨taken, same, written⟩ := read_eq_some read
    rwa [same, List.append_nil]
  · intro written
    have read := written.read Closes.nothing
    rwa [List.append_nil] at read

end Whole

end Ipv6

namespace IpAddress

inductive IsText : String → IpAddress → Prop
  | v4 (ip : Ipv4) : IsText ip.text (v4 ip)
  | v6 {text : String} {ip : Ipv6} (written : Ipv6.IsText text.toList ip) : IsText text (v6 ip)

variable {text : String} {ip : IpAddress}

/-- A text is read as an address exactly if it is one of its texts. -/
theorem parse?_eq_some : parse? text = some ip ↔ IsText text ip := by
  have four (ip : Ipv4) : readWhole? Ipv4.read text.toList = some ip ↔ text = ip.text := by
    rw [readWhole?_eq_some, Ipv4.read_eq_some, List.append_nil, String.toList_inj]
    exact and_iff_left .nil
  rw [parse?, Option.orElse_eq_or, Option.or_eq_some_iff]
  simp only [Option.map_eq_some_iff, Option.map_eq_none_iff, four, Ipv6.readWhole?_eq_some]
  constructor
  · rintro (⟨ip, rfl, rfl⟩ | ⟨-, ip, written, rfl⟩)
    · exact .v4 ip
    · exact .v6 written
  · intro written
    cases written with
    | v4 ip => exact Or.inl ⟨ip, rfl, rfl⟩
    | @v6 _ ip written =>
        refine Or.inr ⟨?_, ip, written, rfl⟩
        apply Option.eq_none_iff_forall_ne_some.mpr
        intro other same
        rw [(four other).mp same] at written
        exact other.colon_not_mem_text written.colon_mem

theorem parse?_unmarked (absent : ':' ∉ text.toList) (ip : Ipv6) : parse? text ≠ some (.v6 ip) := by
  intro read
  cases parse?_eq_some.mp read with
  | v6 written => exact absent written.colon_mem

end IpAddress
end SealedTunnel
