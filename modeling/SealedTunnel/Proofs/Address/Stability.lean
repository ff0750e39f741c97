import SealedTunnel.Proofs.Address.Printing
import SealedTunnel.Proofs.Text.Separators

namespace SealedTunnel

namespace Target

variable {target : Target} {text name : String} {chars digits : List Char} {number : Nat} {ip : Ipv4} {port : UInt16}

section Ports

theorem portForm_read : portForm.read chars = some (number, []) ↔
    (∀ c ∈ chars, Text.isDigit c) ∧ chars ≠ [] ∧ Text.numberOf 10 chars = number ∧ number ≤ 0xffff := by
  rw [Text.NumberForm.read_eq_some]
  constructor
  · rintro ⟨digits, rfl, digital, -, allowed, rfl⟩
    rw [List.append_nil]
    exact ⟨fun c member => Text.isDigitOf_ten ▸ digital c member, allowed.nonempty, rfl, allowed.largest⟩
  · rintro ⟨digital, nonempty, rfl, fits⟩
    refine ⟨chars, (List.append_nil chars).symm, ?_, .nil, ⟨nonempty, Or.inl rfl, Or.inl rfl, fits⟩, rfl⟩
    exact fun c member => Text.isDigitOf_ten.trans (digital c member)

theorem decimal?_port : Text.decimal? 0xffff chars = some number ↔
    ∃ digits, (chars = digits ∨ chars = '+' :: digits) ∧ portForm.read digits = some (number, []) := by
  simp only [Text.decimal?_eq_some, portForm_read]

theorem portForm_toDigits (port : UInt16) : portForm.read (Nat.toDigits 10 port.toNat) = some (port.toNat, []) := by
  rw [portForm_read]
  exact ⟨fun c => Text.isDigit_toDigits, Nat.toDigits_ne_nil, Text.numberOf_toDigits (by decide) (by decide) _,
    Nat.le_of_lt_succ port.toNat_lt⟩

theorem not_mem_port {c : Char} (read : portForm.read chars = some (number, [])) (mark : Text.isDigit c = false) :
    c ∉ chars := by
  intro member
  have digit := (portForm_read.mp read).1 c member
  rw [mark] at digit
  cases digit

end Ports

section Texts

def zone (scope : UInt32) : List Char := if scope = 0 then [] else '%' :: Nat.toDigits 10 scope.toNat

theorem toList_text_ipv4 (ip : Ipv4) (port : UInt16) :
    (ipv4 ip port).text.toList = ip.text.toList ++ ':' :: Nat.toDigits 10 port.toNat := by
  simp [Target.text]

theorem toList_text_ipv6 (ip : Ipv6) (port : UInt16) (flow scope : UInt32) :
    (ipv6 ip port flow scope).text.toList =
      '[' :: (ip.text.toList ++ (zone scope ++ ']' :: ':' :: Nat.toDigits 10 port.toNat)) := by
  by_cases unscoped : scope = 0 <;> simp [Target.text, zone, unscoped]

theorem toList_text_domain (name : String) (port : UInt16) :
    (domain name port).text.toList = name.toList ++ ':' :: Nat.toDigits 10 port.toNat := by
  simp [Target.text]

end Texts

section Addresses

theorem readPort_eq_some : readPort chars = some (number, []) ↔
    ∃ digits, chars = ':' :: digits ∧ portForm.read digits = some (number, []) := by
  simp only [readPort, Option.bind_eq_bind, Option.bind_eq_some_iff, expectChar_eq_some]

theorem numeric?_unbracketed (bare : text.toList.head? ≠ some '[') : numeric? text = some target ↔
    ∃ ip digits number, text.toList = ip.text.toList ++ ':' :: digits ∧ portForm.read digits = some (number, []) ∧
      target = ipv4 ip (UInt16.ofNat number) := by
  have other : readIpv6 text.toList = none := by
    rw [readIpv6, expectChar_other bare]
    rfl
  have last : IpAddress.readWhole? readIpv6 text.toList = none := by rw [IpAddress.readWhole?, other]
  rw [numeric?, last, Option.orElse_eq_or, Option.or_none, IpAddress.readWhole?_eq_some]
  simp only [readIpv4, Option.bind_eq_bind, Option.bind_eq_some_iff, Option.pure_def]
  constructor
  · rintro ⟨⟨ip, rest⟩, read, ⟨number, _⟩, port, made⟩
    cases made
    obtain ⟨digits, rfl, port⟩ := readPort_eq_some.mp port
    exact ⟨ip, digits, number, (Ipv4.read_eq_some.mp read).1, port, rfl⟩
  · rintro ⟨ip, digits, number, same, port, rfl⟩
    exact ⟨_, Ipv4.read_eq_some.mpr ⟨same, .cons (by decide) _⟩, _, readPort_eq_some.mpr ⟨digits, rfl, port⟩, rfl⟩

theorem bare_ipv4 (same : text.toList = ip.text.toList ++ ':' :: chars) : text.toList.head? ≠ some '[' := by
  intro bracket
  obtain ⟨tail, whole⟩ := List.head?_eq_some_iff.mp bracket
  have read : Ipv4.read text.toList = some (ip, ':' :: chars) := Ipv4.read_eq_some.mpr ⟨same, .cons (by decide) _⟩
  rw [whole, Ipv4.read_stops (.cons (by decide) tail)] at read
  cases read

theorem numeric?_ipv4 (ip : Ipv4) (port : UInt16) : numeric? (ipv4 ip port).text = some (ipv4 ip port) := by
  have same := toList_text_ipv4 ip port
  rw [numeric?_unbracketed (bare_ipv4 same)]
  exact ⟨ip, _, _, same, portForm_toDigits port, by rw [UInt16.ofNat_toNat]⟩

theorem readScope_zone (scope : UInt32) (rest : List Char) :
    readScope (zone scope ++ ']' :: rest) = (scope.toNat, ']' :: rest) := by
  by_cases unscoped : scope = 0
  · subst unscoped
    rfl
  · have read : scopeForm.read (Nat.toDigits 10 scope.toNat ++ ']' :: rest) = some (scope.toNat, ']' :: rest) :=
      Text.NumberForm.read_toDigits scopeForm (by decide) (by decide) (Nat.le_of_lt_succ scope.toNat_lt) (Or.inl rfl)
        (.cons (by decide) _)
    simp [readScope, zone, unscoped, read]

theorem numeric?_ipv6 (ip : Ipv6) (port : UInt16) (flow scope : UInt32) :
    numeric? (ipv6 ip port flow scope).text = some (ipv6 ip port 0 scope) := by
  have first (tail : List Char) : readIpv4 ('[' :: tail) = none := by
    rw [readIpv4, Ipv4.read_stops (.cons (by decide) tail)]
    rfl
  have foreign : ∀ c ∈ (zone scope ++ ']' :: ':' :: Nat.toDigits 10 port.toNat).head?, isAddressChar c = false := by
    intro c head
    by_cases unscoped : scope = 0
    · simp [zone, unscoped] at head
      subst head
      decide
    · simp [zone, unscoped] at head
      subst head
      decide
  have digits := readPort_eq_some.mpr ⟨_, rfl, portForm_toDigits port⟩
  have read : readIpv6 (ipv6 ip port flow scope).text.toList = some (ipv6 ip port 0 scope, []) := by
    rw [toList_text_ipv6, readIpv6]
    simp [Ipv6.read_text ip foreign, readScope_zone, digits]
  rw [numeric?, Option.orElse_eq_or, IpAddress.readWhole?_eq_some.mpr read, toList_text_ipv6, IpAddress.readWhole?, first,
    Option.none_or]

end Addresses

section Names

/-- What may stand in front of a port as a name. -/
structure IsName (name : String) : Prop where
  sized : 0 < name.utf8ByteSize ∧ name.utf8ByteSize ≤ longestDomain
  unmarked : ':' ∉ name.toList
  bare : name.toList.head? ≠ some '['

theorem IsName.bare_append (written : IsName name) (chars : List Char) : (name.toList ++ chars).head? ≠ some '[' := by
  have full : name.toList ≠ [] := by
    intro empty
    have sized := written.sized.1
    rw [String.toList_eq_nil_iff.mp empty] at sized
    exact absurd sized (by decide)
  rw [List.head?_append, Option.or_of_isSome (by simpa using full)]
  exact written.bare

theorem parse_eq_domain : parse text = .ok (domain name port) ↔
    numeric? text = none ∧ IsName name ∧
      ∃ chars, text.toList = name.toList ++ ':' :: chars ∧ Text.decimal? 0xffff chars = some port.toNat := by
  constructor
  · intro parsed
    have numeric : numeric? text = none := by
      cases numeric : numeric? text with
      | none => rfl
      | some target =>
          rw [parse, numeric] at parsed
          cases parsed
          rcases numeric?_eq_some numeric with ⟨_, _, same⟩ | ⟨_, _, _, same⟩ <;> cases same
    rw [parse, numeric] at parsed
    dsimp only at parsed
    split at parsed
    · cases parsed
    rename_i host chars cut
    split at parsed
    · cases parsed
    rename_i number read
    split at parsed
    · cases parsed
    rename_i sized
    split at parsed
    · cases parsed
    rename_i unmarked
    cases parsed
    obtain ⟨same, -⟩ := Text.splitLast?_eq_some.mp cut
    obtain ⟨-, -, -, -, -, fits⟩ := Text.decimal?_eq_some.mp read
    rw [UInt16.toNat_ofNat_of_lt' (Nat.lt_succ_of_le fits)]
    refine ⟨numeric, ⟨by omega, ?_, ?_⟩, chars, ?_, read⟩
    · simpa using fun colon => unmarked (Or.inl (by simpa using colon))
    · simpa using fun bracket => unmarked (Or.inr bracket)
    · simpa using same
  · rintro ⟨numeric, ⟨sized, unmarked, bare⟩, chars, same, read⟩
    have absent : ':' ∉ chars := by
      obtain ⟨digits, rfl | rfl, digital⟩ := decimal?_port.mp read
      · exact not_mem_port digital (by decide)
      · exact List.not_mem_cons_of_ne_of_not_mem (by decide) (not_mem_port digital (by decide))
    rw [parse, numeric]
    simp only [Text.splitLast?_eq_some.mpr ⟨same, absent⟩, read, String.ofList_toList]
    rw [if_neg (by omega), if_neg (by simp [unmarked, bare]), UInt16.ofNat_toNat]

end Names

/-- The port behind an address has a plus sign. -/
def HasSignedPort (text : String) : Prop :=
  ∃ (ip : Ipv4) (digits : List Char), text.toList = ip.text.toList ++ ':' :: '+' :: digits

theorem HasSignedPort.not_numeric (signed : HasSignedPort text) : numeric? text = none := by
  obtain ⟨ip, digits, same⟩ := signed
  cases numeric : numeric? text with
  | none => rfl
  | some target =>
      obtain ⟨other, chars, number, also, read, -⟩ := (numeric?_unbracketed (bare_ipv4 same)).mp numeric
      obtain ⟨-, rfl⟩ := Text.cut_unique ip.colon_not_mem_text other.colon_not_mem_text (same.symm.trans also)
      exact absurd List.mem_cons_self (not_mem_port read (by decide))

/-- A name that is shown with its port is no address, unless it was read from an address whose port has a sign. -/
theorem numeric?_domain (parsed : parse text = .ok (domain name port)) (unsigned : ¬ HasSignedPort text) :
    numeric? (domain name port).text = none := by
  obtain ⟨numeric, written, chars, same, read⟩ := parse_eq_domain.mp parsed
  have bare : (domain name port).text.toList.head? ≠ some '[' := by
    rw [toList_text_domain]
    exact written.bare_append _
  cases shown : numeric? (domain name port).text with
  | none => rfl
  | some target =>
      obtain ⟨ip, behind, _, also, -⟩ := (numeric?_unbracketed bare).mp shown
      rw [toList_text_domain] at also
      obtain ⟨address, -⟩ := Text.cut_unique written.unmarked ip.colon_not_mem_text also
      rw [address] at same
      obtain ⟨digits, rfl | rfl, digital⟩ := decimal?_port.mp read
      · have known := (numeric?_unbracketed (bare_ipv4 same)).mpr ⟨ip, _, _, same, digital, rfl⟩
        rw [numeric] at known
        cases known
      · exact absurd ⟨ip, digits, same⟩ unsigned

theorem parse_unsigned (parsed : parse text = .ok target) (unsigned : ¬ HasSignedPort text) :
    parse target.text = .ok target := by
  rcases parse_eq_ok parsed with numeric | ⟨name, port, rfl, -⟩
  · rcases numeric?_eq_some numeric with ⟨ip, port, rfl⟩ | ⟨ip, port, scope, rfl⟩
    · rw [parse, numeric?_ipv4]
    · rw [parse, numeric?_ipv6]
  · obtain ⟨-, written, -⟩ := parse_eq_domain.mp parsed
    exact parse_eq_domain.mpr ⟨numeric?_domain parsed unsigned, written, _, toList_text_domain name port,
      Text.decimal?_toDigits (Nat.le_of_lt_succ port.toNat_lt)⟩

theorem parse_signed (parsed : parse text = .ok target) (signed : HasSignedPort text) :
    ∃ (ip : Ipv4) (port : UInt16), target = domain ip.text port ∧ parse target.text = .ok (ipv4 ip port) := by
  rcases parse_eq_ok parsed with numeric | ⟨name, port, rfl, -⟩
  · rw [signed.not_numeric] at numeric
    cases numeric
  · obtain ⟨ip, digits, same⟩ := signed
    obtain ⟨-, written, chars, also, -⟩ := parse_eq_domain.mp parsed
    obtain ⟨address, -⟩ := Text.cut_unique ip.colon_not_mem_text written.unmarked (same.symm.trans also)
    have shown : (domain name port).text = (ipv4 ip port).text := by
      rw [← String.toList_inj, toList_text_domain, toList_text_ipv4, address]
    refine ⟨ip, port, by rw [String.toList_inj.mp address], ?_⟩
    rw [shown, parse, numeric?_ipv4]

theorem encode_domain_ne (name : String) (ip : Ipv4) (port other : UInt16) :
    (domain name port).encode ≠ (ipv4 ip other).encode := by
  intro same
  unfold encode at same
  dsimp only at same
  split at same
  · simp at same
  · cases same

/-- A text is read as a target that is read again from the text it is shown as, and no other such target is shown alike;
a name is not shown as an address. The only texts of which this does not hold are IPv4 addresses with a plus sign in front
of the port. Such an address is read as a name, which is shown as the address and has another encoding. -/
theorem parse_text_stable (parsed : parse text = .ok target) :
    (¬ HasSignedPort text →
      parse target.text = .ok target ∧ (∀ name port, target = domain name port → numeric? target.text = none) ∧
      ∀ other same, ¬ HasSignedPort other → parse other = .ok same → same.text = target.text → same = target) ∧
    (HasSignedPort text →
      ∃ (ip : Ipv4) (port : UInt16), target = domain ip.text port ∧ parse target.text = .ok (ipv4 ip port) ∧
        target.encode ≠ (ipv4 ip port).encode) := by
  constructor
  · intro unsigned
    have again := parse_unsigned parsed unsigned
    refine ⟨again, ?name, ?alike⟩
    case name =>
      rintro name port rfl
      exact numeric?_domain parsed unsigned
    case alike =>
      intro other same also read shown
      have twice := parse_unsigned read also
      rw [shown, again] at twice
      exact (Except.ok.inj twice).symm
  · intro signed
    obtain ⟨ip, port, rfl, address⟩ := parse_signed parsed signed
    exact ⟨ip, port, rfl, address, encode_domain_ne ip.text ip port port⟩

theorem parse_text_stable_signs :
    (parse "example.com:+443" = .ok (domain "example.com" 443) ∧
      parse (domain "example.com" 443).text = .ok (domain "example.com" 443)) ∧
    parse "1.2.3.4:+80" = .ok (domain "1.2.3.4" 80) ∧
      ∃ (ip : Ipv4) (port : UInt16), domain "1.2.3.4" 80 = domain ip.text port ∧
        parse (domain "1.2.3.4" 80).text = .ok (ipv4 ip port) ∧
        (domain "1.2.3.4" 80).encode ≠ (ipv4 ip port).encode := by
  have named : ¬ HasSignedPort "example.com:+443" := by
    rintro ⟨ip, digits, same⟩
    have cut : "example.com".toList ++ ':' :: "+443".toList = ip.text.toList ++ ':' :: '+' :: digits := same
    obtain ⟨address, -⟩ := Text.cut_unique (by decide) ip.colon_not_mem_text cut
    have letter : 'e' ∈ ip.text.toList := address ▸ (by decide)
    exact absurd (Ipv4.mem_text letter) (by decide)
  have name : parse "example.com:+443" = .ok (domain "example.com" 443) := rfl
  have address : parse "1.2.3.4:+80" = .ok (domain "1.2.3.4" 80) := rfl
  have signed : HasSignedPort "1.2.3.4:+80" := ⟨⟨1, 2, 3, 4⟩, ['8', '0'], rfl⟩
  exact ⟨⟨name, ((parse_text_stable name).1 named).1⟩, address, (parse_text_stable address).2 signed⟩

/-- Not every target is read again from the text it is shown as. -/
theorem parse_text_unstable :
    ¬ ∀ text target, parse text = .ok target → parse target.text = .ok target := by
  intro stable
  have again := stable "1.2.3.4:+80" (domain "1.2.3.4" 80) rfl
  have address : parse (domain "1.2.3.4" 80).text = .ok (ipv4 ⟨1, 2, 3, 4⟩ 80) := rfl
  rw [address] at again
  cases again

end Target
end SealedTunnel
