import SealedTunnel.Proofs.Address.Joining
import SealedTunnel.Proofs.Text.Utf8
import SealedTunnel.Proofs.Url.Authority

/-!
The host of a server, as a text of its own. Whatever was read as a host of an address with the scheme of access keys can
be joined with a port, and the two are read as that host and that port again: a name is escaped already and has no colon,
and an address gets its brackets back.
-/
namespace SealedTunnel.Url

variable {chars body : List Char} {host : Host} {url : Url} {text : String}

section Reading

theorem HostText.of_ofOpaque (nonempty : chars ≠ []) (read : Host.ofOpaque chars = .ok host) : HostText chars host := by
  unfold Host.ofOpaque at read
  split at read
  · next bracket =>
      unfold Host.ofBracketed at read
      split at read
      · cases read
      next closed =>
      split at read
      · next ip whole =>
          cases read
          obtain ⟨tail, rfl⟩ := List.head?_eq_some_iff.mp bracket
          obtain ⟨front, ending⟩ := List.getLast?_eq_some_iff.mp (not_not.mp closed)
          cases front with
          | nil => cases ending
          | cons first inside =>
              rw [List.cons_append] at ending
              obtain ⟨rfl, rfl⟩ := List.cons.inj ending
              rw [List.tail_cons, List.dropLast_concat] at whole
              exact .address whole
      · cases read
  split at read
  · cases read
  next unmarked =>
  cases read
  exact .ofAny nonempty (Bool.eq_false_iff.mpr unmarked)

theorem readHost_eq_some {hasUserInfo : Bool} {rest : List Char}
    (read : readHost .other hasUserInfo chars rest = .ok (some host)) : HostText chars host := by
  unfold readHost at read
  split at read
  · split at read <;> cases read
  next full =>
  have nonempty : chars ≠ [] := by simpa using full
  change (Host.ofOpaque chars).map some = _ at read
  cases opaque' : Host.ofOpaque chars with
  | error fault =>
      rw [opaque'] at read
      cases read
  | ok found =>
      rw [opaque'] at read
      cases read
      exact .of_ofOpaque nonempty opaque'

theorem readAuthority_eq_ok {scheme : String} {kind : SchemeKind} (read : readAuthority scheme kind chars = .ok url) :
    url.scheme = scheme ∧ ∃ hasUserInfo written rest, readHost kind hasUserInfo written rest = .ok url.host := by
  simp only [readAuthority, bind_eq_ok] at read
  obtain ⟨⟨⟨username, password⟩, rest⟩, -, host, hosted, ported⟩ := read
  have made : url.scheme = scheme ∧ url.host = host := by
    split at ported
    all_goals
      obtain ⟨⟨port, tail⟩, -, made⟩ := bind_eq_ok.mp ported
      cases made
      exact ⟨rfl, rfl⟩
  exact ⟨made.1, _, _, _, made.2 ▸ hosted⟩

theorem readFile_scheme {scheme : String} (read : readFile scheme chars = .ok url) : url.scheme = scheme := by
  unfold readFile at read
  dsimp only at read
  split at read
  · split at read
    · cases read
      rfl
    · obtain ⟨host, -, made⟩ := bind_eq_ok.mp read
      cases made
      rfl
  · cases read
    rfl

theorem parse_host (parsed : parse text = .ok url) (scheme : url.scheme = "ss") (found : url.host = some host) :
    ∃ written, HostText written host := by
  unfold parse at parsed
  split at parsed
  · cases parsed
  next scheme' rest split' =>
  split at parsed
  case h_1 file =>
    rw [← readFile_scheme parsed, scheme] at file
    cases file
  case h_2 web =>
    rw [← (readAuthority_eq_ok parsed).1, scheme] at web
    cases web
  case h_3 =>
    obtain ⟨-, hasUserInfo, written, behind, read⟩ := readAuthority_eq_ok parsed
    exact ⟨written, readHost_eq_some (found ▸ read)⟩
  case h_4 =>
    cases parsed
    cases found

theorem parse_opening (parsed : parse (schemed body) = .ok url) : url.scheme = "ss" := by
  have bare : (opening ++ body).dropWhile (· ≤ ' ') = opening ++ body := rfl
  obtain ⟨kept, ending⟩ : ∃ kept, ((opening ++ body).reverse.dropWhile (· ≤ ' ')).reverse = opening ++ kept := by
    rw [List.reverse_append, List.dropWhile_append]
    split
    · exact ⟨[], rfl⟩
    · exact ⟨_, by rw [List.reverse_append, List.reverse_reverse]⟩
  have relevant : relevant (schemed body) = opening ++ kept.filter (!isSkipped ·) := by
    rw [Url.relevant, schemed, String.toList_ofList, bare, ending, List.filter_append]
    rfl
  have scheme (chars : List Char) : splitScheme? (opening ++ chars) = some ("ss", '/' :: '/' :: chars) := rfl
  rw [parse, relevant, scheme] at parsed
  exact (readAuthority_eq_ok parsed).1

end Reading

section Joining

theorem isForbiddenOpaque_encoded (unmarked : ∀ c ∈ chars, Host.isForbiddenOpaque c = false) :
    ∀ c ∈ Text.Percent.encode Host.isPlain (Bytes.ofText (String.ofList chars)),
      Host.isForbiddenOpaque c = false ∧ c.toNat < 0x80 ∧ Host.isPlain (UInt8.ofNat c.toNat) := by
  have plain : ∀ code < 0x80, Host.isPlain (UInt8.ofNat code) →
      (Char.ofNat code).toNat < 0x80 ∧ Host.isPlain (UInt8.ofNat (Char.ofNat code).toNat) := by
    decide +kernel
  apply Text.Percent.forall_mem_encode
  · decide
  · decide
  · intro byte member kept
    have ascii : byte.toNat < 0x80 := by
      simp only [Host.isPlain, decide_eq_true_eq, UInt8.le_iff_toNat_le] at kept
      exact Nat.lt_of_le_of_lt kept.2 (by decide)
    have known := plain byte.toNat ascii
    rw [UInt8.ofNat_toNat] at known
    exact ⟨unmarked _ (Text.mem_ofText_ascii member ascii), known kept⟩

/-- A name is escaped when it is read, and not once more when it is read again. -/
theorem HostText.escaped (nonempty : chars ≠ []) (unmarked : ∀ c ∈ chars, Host.isForbiddenOpaque c = false) :
    HostText (Text.Percent.encode Host.isPlain (Bytes.ofText (String.ofList chars)))
      (.domain (String.ofList (Text.Percent.encode Host.isPlain (Bytes.ofText (String.ofList chars))))) := by
  have encoded := isForbiddenOpaque_encoded unmarked
  have same := Text.Percent.encode_plain (fun c member => (encoded c member).2.1) (fun c member => (encoded c member).2.2)
  have filled : Text.Percent.encode Host.isPlain (Bytes.ofText (String.ofList chars)) ≠ [] := by
    rw [ne_eq, Text.Percent.encode_eq_nil, Bytes.ofText_eq_nil]
    simpa using nonempty
  have again := HostText.name filled fun c member => (encoded c member).1
  rwa [same] at again

theorem HostText.joined (written : HostText chars host) (port : UInt16) :
    ∃ server : Server, server.host = host ∧ server.port = port ∧ (joinHostPort host.text port).toList = server.text := by
  cases written with
  | @name chars nonempty unmarked =>
      have encoded := isForbiddenOpaque_encoded unmarked
      have absent : ':' ∉ (Host.domain (String.ofList
          (Text.Percent.encode Host.isPlain (Bytes.ofText (String.ofList chars))))).text.toList := by
        rw [Host.text, String.toList_ofList]
        exact fun colon => absurd (encoded ':' colon).1 (by decide)
      refine ⟨⟨_, _, .escaped nonempty unmarked, port⟩, rfl, rfl, ?_⟩
      rw [Target.joinHostPort_unmarked absent, Target.toList_text_domain, Host.text, String.toList_ofList]
      rfl
  | @address chars ip read =>
      have whole : IpAddress.readWhole? Ipv6.read ip.text.toList = some ip := Ipv6.readWhole?_eq_some.mpr ip.isText_text
      refine ⟨⟨_, _, .address whole, port⟩, rfl, rfl, ?_⟩
      rw [Host.text, Target.joinHostPort_address (.v6 ip.isText_text), Target.ofAddress, Target.toList_text_ipv6]
      simp [Server.text, Target.zone]

end Joining

end SealedTunnel.Url
