import SealedTunnel.Proofs.Address.Stability

namespace SealedTunnel

namespace IpAddress

variable {text : String} {ip : IpAddress}

theorem isText_text (ip : IpAddress) : IsText ip.text ip := by
  cases ip with
  | v4 ip => exact .v4 ip
  | v6 ip => exact .v6 ip.isText_text

theorem parse?_eq_none : parse? text = none ↔ ∀ ip, ¬ IsText text ip := by
  simp only [Option.eq_none_iff_forall_ne_some, ne_eq, parse?_eq_some]

end IpAddress

namespace Target

variable {text name : String} {ip : IpAddress}

def ofAddress : IpAddress → UInt16 → Target
  | .v4 ip, port => ipv4 ip port
  | .v6 ip, port => ipv6 ip port 0 0

theorem joinHostPort_address (written : IpAddress.IsText text ip) (port : UInt16) :
    joinHostPort text port = (ofAddress ip port).text := by
  rw [joinHostPort, IpAddress.parse?_eq_some.mpr written]
  cases written with
  | v4 ip => rfl
  | v6 written => simp [ofAddress, Target.text]

theorem joinHostPort_unmarked (absent : ':' ∉ text.toList) (port : UInt16) :
    joinHostPort text port = (domain text port).text := by
  unfold joinHostPort
  split
  · next ip read => exact absurd read (IpAddress.parse?_unmarked absent ip)
  · rfl

theorem joinHostPort_name (unwritten : ∀ ip, ¬ IpAddress.IsText name ip) (port : UInt16) :
    joinHostPort name port = (domain name port).text := by
  rw [joinHostPort, IpAddress.parse?_eq_none.mpr unwritten]
  rfl

theorem numeric?_ofAddress (ip : IpAddress) (port : UInt16) :
    numeric? (ofAddress ip port).text = some (ofAddress ip port) := by
  cases ip with
  | v4 ip => exact numeric?_ipv4 ip port
  | v6 ip => exact numeric?_ipv6 ip port 0 0

theorem numeric?_name (named : IsName name) (unwritten : ∀ ip, ¬ IpAddress.IsText name ip) (port : UInt16) :
    numeric? (domain name port).text = none := by
  have same := toList_text_domain name port
  have bare : (domain name port).text.toList.head? ≠ some '[' := by
    rw [same]
    exact named.bare_append _
  cases shown : numeric? (domain name port).text with
  | none => rfl
  | some target =>
      obtain ⟨ip, digits, _, also, -⟩ := (numeric?_unbracketed bare).mp shown
      obtain ⟨address, -⟩ := Text.cut_unique named.unmarked ip.colon_not_mem_text (same.symm.trans also)
      rw [String.toList_inj] at address
      exact absurd (address ▸ .v4 ip) (unwritten (.v4 ip))

/-- An address and a port are joined to a text that is read as the two, from whichever text of the address. So are a name
and a port, if the name is no address and may stand in front of a port. -/
theorem parse_joinHostPort (port : UInt16) :
    (∀ ip : IpAddress, parse (joinHostPort ip.text port) = .ok (ofAddress ip port)) ∧
    (∀ text ip, IpAddress.IsText text ip → parse (joinHostPort text port) = .ok (ofAddress ip port)) ∧
    ∀ name, IsName name → (∀ ip, ¬ IpAddress.IsText name ip) →
      parse (joinHostPort name port) = .ok (domain name port) := by
  have address (text : String) (ip : IpAddress) (written : IpAddress.IsText text ip) :
      parse (joinHostPort text port) = .ok (ofAddress ip port) := by
    rw [joinHostPort_address written, parse, numeric?_ofAddress]
  refine ⟨fun ip => address _ ip ip.isText_text, address, ?_⟩
  intro name named unwritten
  rw [joinHostPort_name unwritten]
  exact parse_eq_domain.mpr ⟨numeric?_name named unwritten port, named, _, toList_text_domain name port,
    Text.decimal?_toDigits (Nat.le_of_lt_succ port.toNat_lt)⟩

theorem parse_joinHostPort_forms :
    (IpAddress.IsText "0064:FF9b::192.0.2.33" (.v6 (Ipv6.ofParts [0x64, 0xff9b] [0xc000, 0x221])) ∧
      parse (joinHostPort "0064:FF9b::192.0.2.33" 443) = .ok (ipv6 (Ipv6.ofParts [0x64, 0xff9b] [0xc000, 0x221]) 443 0 0)) ∧
    parse (joinHostPort "example.com" 443) = .ok (domain "example.com" 443) := by
  have written : IpAddress.IsText "0064:FF9b::192.0.2.33" (.v6 (Ipv6.ofParts [0x64, 0xff9b] [0xc000, 0x221])) :=
    IpAddress.parse?_eq_some.mp rfl
  have unwritten : ∀ ip, ¬ IpAddress.IsText "example.com" ip := IpAddress.parse?_eq_none.mp rfl
  have named : IsName "example.com" := ⟨by decide, by decide, by decide⟩
  obtain ⟨-, addresses, names⟩ := parse_joinHostPort 443
  exact ⟨⟨written, addresses _ _ written⟩, names _ named unwritten⟩

end Target
end SealedTunnel
