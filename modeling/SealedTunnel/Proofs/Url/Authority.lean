import SealedTunnel.Proofs.Address.Reading
import SealedTunnel.Proofs.Text.Numerals
import SealedTunnel.Proofs.Text.Percent
import SealedTunnel.Proofs.Text.Separators
import SealedTunnel.Url.Parser

/-!
Addresses that name a server. A host with a port is read back as it is written, whatever user info stands in front of
it, as long as nothing in that ends the authority.
-/
namespace SealedTunnel.Url

open Text (isVisible)

/-- How a host may be written: a name that holds none of the marks of an address, or an address in brackets. -/
inductive HostText : List Char → Host → Prop
  | name {chars : List Char} (nonempty : chars ≠ []) (unmarked : ∀ c ∈ chars, Host.isForbiddenOpaque c = false) :
      HostText chars (.domain (String.ofList (Text.Percent.encode Host.isPlain (Bytes.ofText (String.ofList chars)))))
  | address {chars : List Char} {ip : Ipv6} (read : IpAddress.readWhole? Ipv6.read chars = some ip) :
      HostText ('[' :: chars ++ [']']) (.ipv6 ip)

theorem HostText.ofAny {chars : List Char} (nonempty : chars ≠ []) (unmarked : chars.any Host.isForbiddenOpaque = false) :
    HostText chars (.domain (String.ofList (Text.Percent.encode Host.isPlain (Bytes.ofText (String.ofList chars))))) := by
  apply HostText.name nonempty
  simpa using unmarked

structure Server where
  chars : List Char
  host : Host
  isHost : HostText chars host
  port : UInt16

def Server.text (server : Server) : List Char := server.chars ++ ':' :: Nat.toDigits 10 server.port.toNat

def isInner (c : Char) : Bool := !SchemeKind.other.isEnd c ∧ c ≠ '@' ∧ !isSkipped c

variable {chars tail info body : List Char} {host : Host} {server : Server} {c : Char}

theorem isInner_iff : isInner c ↔
    c ≠ '/' ∧ c ≠ '?' ∧ c ≠ '#' ∧ c ≠ '@' ∧ c ≠ '\t' ∧ c ≠ '\n' ∧ c ≠ '\r' := by
  simp [isInner, SchemeKind.isEnd, isSkipped, and_assoc]

section Hosts

theorem isInner_unmarked (unmarked : Host.isForbiddenOpaque c = false) : isInner c ∧ c ≠ ':' ∧ c ≠ '[' ∧ c ≠ ']' := by
  simp only [Host.isForbiddenOpaque, List.contains_eq_mem, List.mem_cons, List.not_mem_nil, or_false,
    decide_eq_false_iff_not, not_or] at unmarked
  simp [isInner_iff, unmarked]

theorem isInner_addressChar (digit : isAddressChar c) : isInner c ∧ c ≠ '[' ∧ c ≠ ']' := by
  have other : ∀ mark, isAddressChar mark = false → c ≠ mark := by
    rintro mark foreign rfl
    rw [digit] at foreign
    cases foreign
  rw [isInner_iff]
  refine ⟨⟨?_, ?_, ?_, ?_, ?_, ?_, ?_⟩, ?_, ?_⟩ <;> exact other _ (by decide)

theorem HostText.isInner (written : HostText chars host) : ∀ c ∈ chars, isInner c := by
  cases written with
  | name nonempty unmarked => exact fun c member => (isInner_unmarked (unmarked c member)).1
  | address read =>
      intro c member
      simp only [List.cons_append, List.mem_cons, List.mem_append, List.not_mem_nil, or_false] at member
      rcases member with rfl | member | rfl
      · decide
      · exact (isInner_addressChar (Ipv6.isAddressChar_of_read read c member)).1
      · decide

theorem HostText.ne_nil (written : HostText chars host) : chars ≠ [] := by
  cases written with
  | name nonempty => exact nonempty
  | address => exact List.cons_ne_nil _ _

theorem HostText.ofOpaque (written : HostText chars host) : Host.ofOpaque chars = .ok host := by
  cases written with
  | @name chars nonempty unmarked =>
      have bare : chars.head? ≠ some '[' := by
        intro bracket
        exact (isInner_unmarked (unmarked _ (List.mem_of_head? bracket))).2.2.1 rfl
      have allowed : ¬ chars.any Host.isForbiddenOpaque := by
        rw [List.any_eq_true]
        rintro ⟨c, member, marked⟩
        rw [unmarked c member] at marked
        cases marked
      rw [Host.ofOpaque, if_neg bare, if_neg allowed]
  | @address chars ip read =>
      have closed : ('[' :: chars ++ [']']).getLast? = some ']' := List.getLast?_concat ..
      simp only [List.cons_append] at closed
      simp [Host.ofOpaque, Host.ofBracketed, closed, read]

theorem HostText.not_isEmpty (written : HostText chars host) : host.isEmpty = false := by
  cases written with
  | @name chars nonempty unmarked =>
      have kept : Text.Percent.encode Host.isPlain (Bytes.ofText (String.ofList chars)) ≠ [] := by
        rw [ne_eq, Text.Percent.encode_eq_nil, Bytes.ofText_eq_nil]
        simpa using nonempty
      simpa [Host.isEmpty] using kept
  | address => rfl

theorem HostText.readHost (written : HostText chars host) (hasUserInfo : Bool) (rest : List Char) :
    readHost .other hasUserInfo chars rest = .ok (some host) := by
  have full : ¬ chars.isEmpty := by simpa using written.ne_nil
  rw [Url.readHost, if_neg full]
  simp [SchemeKind.isWeb, written.ofOpaque, Except.map]

theorem hostChars_append (inside : Bool)
    (unmarked : ∀ c ∈ chars, isInner c ∧ (c = ':' → inside) ∧ c ≠ '[' ∧ c ≠ ']') (tail : List Char) :
    hostChars .other inside (chars ++ tail) = chars ++ hostChars .other inside tail := by
  induction chars with
  | nil => rfl
  | cons c rest ih =>
      obtain ⟨inner, colon, left, right⟩ := unmarked c List.mem_cons_self
      have later := ih fun c member => unmarked c (List.mem_cons_of_mem _ member)
      have goes : ¬ ((c = ':' ∧ !inside) ∨ SchemeKind.other.isEnd c) := by
        simp [SchemeKind.isEnd, isInner_iff.mp inner]
        exact colon
      rw [List.cons_append, hostChars, if_neg goes, if_neg left, if_neg right, later, List.cons_append]

theorem HostText.hostChars (written : HostText chars host) (tail : List Char) :
    hostChars .other false (chars ++ ':' :: tail) = chars := by
  cases written with
  | name nonempty unmarked =>
      rw [hostChars_append false]
      · simp [Url.hostChars]
      · intro c member
        obtain ⟨inner, colon, brackets⟩ := isInner_unmarked (unmarked c member)
        exact ⟨inner, fun same => absurd same colon, brackets⟩
  | @address chars ip read =>
      have body : Url.hostChars .other true (chars ++ ']' :: ':' :: tail) = chars ++ [']'] := by
        rw [hostChars_append true]
        · simp [Url.hostChars, SchemeKind.isEnd]
        · intro c member
          obtain ⟨inner, brackets⟩ := isInner_addressChar (Ipv6.isAddressChar_of_read read c member)
          exact ⟨inner, fun _ => rfl, brackets⟩
      simp [Url.hostChars, SchemeKind.isEnd, body]

end Hosts

def Ended (tail : List Char) : Prop := ∀ c ∈ tail.head?, SchemeKind.other.isEnd c

section UserInfo

variable {name password : List Char}

theorem readUserInfo_name (absent : ':' ∉ name) : readUserInfo name = (String.ofList name, none) := by
  rw [readUserInfo, Text.splitFirst?_absent absent]

theorem readUserInfo_pair (absent : ':' ∉ name) (nonempty : password ≠ []) :
    readUserInfo (name ++ ':' :: password) = (String.ofList name, some (String.ofList password)) := by
  rw [readUserInfo, Text.splitFirst?_append absent]
  cases password with
  | nil => exact absurd rfl nonempty
  | cons => rfl

end UserInfo

section Servers

theorem isInner_digit (digit : Text.isDigit c) : isInner c := by
  have other : ∀ mark, Text.isDigit mark = false → c ≠ mark := by
    rintro mark foreign rfl
    rw [digit] at foreign
    cases foreign
  rw [isInner_iff]
  refine ⟨?_, ?_, ?_, ?_, ?_, ?_, ?_⟩ <;> exact other _ (by decide)

theorem Server.isInner (server : Server) : ∀ c ∈ server.text, isInner c := by
  intro c member
  rcases List.mem_append.mp member with member | member
  · exact server.isHost.isInner c member
  · rcases List.mem_cons.mp member with rfl | member
    · decide
    · exact isInner_digit (Text.isDigit_toDigits member)

theorem Server.text_ne_nil (server : Server) : server.text ≠ [] := by
  simp [Server.text]

theorem Ended.nil : Ended [] := by simp [Ended]

theorem Ended.eq (ended : Ended tail) : tail = [] ∨ ∃ c rest, tail = c :: rest ∧ (c = '/' ∨ c = '?' ∨ c = '#') := by
  cases tail with
  | nil => exact Or.inl rfl
  | cons c rest =>
      have ends := ended c rfl
      refine Or.inr ⟨c, rest, rfl, ?_⟩
      simpa [SchemeKind.isEnd] using ends

theorem readPort_digits (port : UInt16) (ended : Ended tail) :
    readPort .other (Nat.toDigits 10 port.toNat ++ tail) = .ok (some port, tail) := by
  have digits : ∀ c ∈ Nat.toDigits 10 port.toNat, Text.isDigit c := fun c member => Text.isDigit_toDigits member
  have stops : tail.takeWhile Text.isDigit = [] ∧ tail.dropWhile Text.isDigit = tail ∧
      tail.head?.any (!isPathStart ·) = false := by
    rcases ended.eq with rfl | ⟨c, rest, rfl, rfl | rfl | rfl⟩
    · exact ⟨rfl, rfl, rfl⟩
    all_goals refine ⟨rfl, rfl, by simp [isPathStart]⟩
  obtain ⟨front, behind, follows⟩ := stops
  have small : ¬ port.toNat > largestPort := Nat.not_lt.mpr (Nat.le_of_lt_succ port.toNat_lt)
  rw [readPort, List.takeWhile_append_of_pos digits, List.dropWhile_append_of_pos digits, front, behind, List.append_nil,
    Text.numberOf_toDigits (by decide) (by decide), follows]
  simp [small, SchemeKind.defaultPort?]

theorem readAuthority_server (scheme : String) {username : String} {password : Option String} (ended : Ended tail)
    (split : splitUserInfo .other chars = .ok ((username, password), server.text ++ tail)) :
    readAuthority scheme .other chars =
      .ok ⟨scheme, username, password, some server.host, some server.port, queryOf tail⟩ := by
  have written : hostChars .other false (server.text ++ tail) = server.chars := by
    rw [Server.text, List.append_assoc, List.cons_append]
    exact server.isHost.hostChars _
  have behind : (server.text ++ tail).drop server.chars.length = ':' :: (Nat.toDigits 10 server.port.toNat ++ tail) := by
    rw [Server.text, List.append_assoc, List.drop_left, List.cons_append]
  rw [readAuthority, split]
  change readHost .other _ (hostChars .other false (server.text ++ tail)) _ >>= _ = _
  rw [written, server.isHost.readHost]
  simp only [behind, readPort_digits server.port ended]
  rfl

theorem takeWhile_authority {authority : List Char} (inside : ∀ c ∈ authority, SchemeKind.other.isEnd c = false)
    (ended : Ended tail) : (authority ++ tail).takeWhile (!SchemeKind.other.isEnd ·) = authority := by
  have stops : tail.takeWhile (!SchemeKind.other.isEnd ·) = [] := by
    rcases ended.eq with rfl | ⟨c, rest, rfl, rfl | rfl | rfl⟩ <;> rfl
  rw [List.takeWhile_append_of_pos fun c member => by simp [inside c member], stops, List.append_nil]

theorem isInner_end (inner : isInner c) : SchemeKind.other.isEnd c = false := by
  simp [SchemeKind.isEnd, isInner_iff.mp inner]

theorem at_not_mem (inner : ∀ c ∈ chars, isInner c) : '@' ∉ chars := by
  intro member
  exact absurd (inner '@' member) (by decide)

theorem splitUserInfo_named (inside : ∀ c ∈ info, SchemeKind.other.isEnd c = false) (server : Server)
    (ended : Ended tail) :
    splitUserInfo .other (info ++ '@' :: (server.text ++ tail)) = .ok (readUserInfo info, server.text ++ tail) := by
  have authority : (info ++ '@' :: (server.text ++ tail)).takeWhile (!SchemeKind.other.isEnd ·) =
      info ++ '@' :: server.text := by
    have within : ∀ c ∈ info ++ '@' :: server.text, SchemeKind.other.isEnd c = false := by
      intro c member
      rcases List.mem_append.mp member with member | member
      · exact inside c member
      · rcases List.mem_cons.mp member with rfl | member
        · rfl
        · exact isInner_end (server.isInner c member)
    simpa using takeWhile_authority within ended
  have full : ¬ (info.isEmpty ∧ ((info ++ '@' :: (server.text ++ tail)).drop (info.length + 1)).head?.any
      SchemeKind.other.isEnd) := by
    obtain ⟨c, others, whole⟩ := List.exists_cons_of_ne_nil server.text_ne_nil
    have first : c ∈ server.text := whole ▸ List.mem_cons_self
    simp [whole, isInner_end (server.isInner c first)]
  rw [splitUserInfo, authority, Text.splitLast?_append info (at_not_mem server.isInner)]
  simp only [if_neg full]
  simp

theorem splitUserInfo_unnamed {authority : List Char} (inside : ∀ c ∈ authority, isInner c) (ended : Ended tail) :
    splitUserInfo .other (authority ++ tail) = .ok (("", none), authority ++ tail) := by
  rw [splitUserInfo, takeWhile_authority (fun c member => isInner_end (inside c member)) ended,
    Text.splitLast?_absent (at_not_mem inside)]

/-- An authority without marks is a host that has neither user info nor a port. -/
theorem readAuthority_bare (scheme : String) {authority : List Char}
    (unmarked : ∀ c ∈ authority, Host.isForbiddenOpaque c = false) (ended : Ended tail) :
    ∃ host, readAuthority scheme .other (authority ++ tail) = .ok ⟨scheme, "", none, host, none, queryOf tail⟩ := by
  have split := splitUserInfo_unnamed (fun c member => (isInner_unmarked (unmarked c member)).1) ended
  have stops : hostChars .other false tail = [] ∧ tail.head? ≠ some ':' := by
    rcases ended.eq with rfl | ⟨c, rest, rfl, rfl | rfl | rfl⟩ <;> exact ⟨rfl, by simp⟩
  have written : hostChars .other false (authority ++ tail) = authority := by
    rw [hostChars_append false, stops.1, List.append_nil]
    intro c member
    obtain ⟨inner, colon, brackets⟩ := isInner_unmarked (unmarked c member)
    exact ⟨inner, fun same => absurd same colon, brackets⟩
  obtain ⟨host, read⟩ : ∃ host, readHost .other false authority tail = .ok host := by
    by_cases empty : authority = []
    · exact ⟨none, by simp [readHost, empty, SchemeKind.isWeb, stops.2]⟩
    · exact ⟨_, (HostText.name empty unmarked).readHost false tail⟩
  refine ⟨host, ?_⟩
  rw [readAuthority, split]
  change readHost .other false (hostChars .other false (authority ++ tail)) _ >>= _ = _
  rw [written, List.drop_left, read]
  rcases ended.eq with rfl | ⟨c, rest, rfl, rfl | rfl | rfl⟩ <;> rfl

end Servers

def opening : List Char := ['s', 's', ':', '/', '/']

theorem toList_opening : "ss://".toList = opening := by decide

def schemed (body : List Char) : String := String.ofList (opening ++ body)

/-- Nothing of the body is passed over, and nothing trimmed from its end. -/
structure Kept (body : List Char) : Prop where
  within : ∀ c ∈ body, isSkipped c = false
  ending : ∀ c ∈ body.getLast?, isVisible c

namespace Kept

theorem visible (seen : ∀ c ∈ body, isVisible c) : Kept body := by
  have unskipped : ∀ code < 0x7f, 0x21 ≤ code → isSkipped (Char.ofNat code) = false := by decide +kernel
  constructor
  · intro c member
    have bounds := seen c member
    simp only [isVisible, decide_eq_true_eq] at bounds
    simpa using unskipped c.toNat bounds.2 bounds.1
  · intro c ending
    exact seen c (List.mem_of_getLast? ending)

theorem append (kept : Kept body) (nonempty : body ≠ []) (within : ∀ c ∈ chars, isSkipped c = false) :
    Kept (chars ++ body) := by
  constructor
  · intro c member
    rcases List.mem_append.mp member with member | member
    · exact within c member
    · exact kept.within c member
  · rw [List.getLast?_append, Option.or_of_isSome (by simpa using nonempty)]
    exact kept.ending

end Kept

theorem Server.kept (server : Server) : Kept server.text := by
  have digits : Kept (Nat.toDigits 10 server.port.toNat) := by
    apply Kept.visible
    intro c member
    have digit := Text.isDigit_toDigits member
    simp only [Text.isDigit, decide_eq_true_eq] at digit
    simp only [isVisible, decide_eq_true_eq]
    exact ⟨Nat.le_trans (by decide) digit.1, Nat.lt_of_le_of_lt digit.2 (by decide)⟩
  have colon : Kept ([':'] ++ Nat.toDigits 10 server.port.toNat) :=
    digits.append Nat.toDigits_ne_nil (by simp [isSkipped])
  apply colon.append (List.cons_ne_nil _ _)
  intro c member
  simp [isSkipped, isInner_iff.mp (server.isHost.isInner c member)]

theorem head_schemed (body : List Char) : (schemed body).toList.head? = some 's' := by
  rw [schemed, String.toList_ofList]
  rfl

theorem Kept.last (kept : Kept body) : ∃ last, (schemed body).toList.getLast? = some last ∧ isVisible last := by
  rw [schemed, String.toList_ofList, List.getLast?_append]
  cases ending : body.getLast? with
  | none => exact ⟨'/', rfl, by decide⟩
  | some last => exact ⟨last, rfl, kept.ending last ending⟩

theorem trim_schemed (kept : Kept body) : Text.trim (schemed body) = schemed body := by
  obtain ⟨last, ending, visible⟩ := kept.last
  exact Text.trim_eq (head_schemed body) ending (by decide) visible

theorem relevant_schemed (kept : Kept body) : relevant (schemed body) = opening ++ body := by
  obtain ⟨last, ending, visible⟩ := kept.last
  have late : decide (last ≤ ' ') = false := by
    simp only [isVisible, decide_eq_true_eq] at visible
    exact decide_eq_false fun early => absurd (Nat.le_trans visible.1 early) (by decide)
  rw [relevant, Text.strip_eq (head_schemed body) ending (by decide) late, schemed, String.toList_ofList,
    List.filter_eq_self]
  intro c member
  have unskipped : ∀ c ∈ opening, (!isSkipped c) = true := by simp [opening, isSkipped]
  rcases List.mem_append.mp member with member | member
  · exact unskipped c member
  · simp [kept.within c member]

theorem parse_schemed (kept : Kept body) : parse (schemed body) = readAuthority "ss" .other body := by
  have scheme : splitScheme? (opening ++ body) = some ("ss", '/' :: '/' :: body) := rfl
  rw [parse, relevant_schemed kept, scheme]
  rfl

end SealedTunnel.Url
