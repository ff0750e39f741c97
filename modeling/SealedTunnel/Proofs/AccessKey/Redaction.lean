import SealedTunnel.Proofs.AccessKey.Forms
import SealedTunnel.Proofs.Url.Hosts
import SealedTunnel.Proofs.Url.Query

namespace SealedTunnel

theorem readLead_leadText (lead : Bytes) : readLead (leadText lead).toList = .ok lead := by
  have each : ∀ code < 256, (Char.ofNat code).toNat = code := by decide +kernel
  rw [leadText, String.toList_ofList, readLead]
  induction lead with
  | nil => rfl
  | cons byte rest ih =>
      rw [List.map_cons, List.mapM_cons, ih, each _ byte.toNat_lt, if_pos byte.toNat_lt, UInt8.ofNat_toNat]
      rfl

namespace AccessKey

open Url (Server schemed Kept)

variable {info : List Char} {master : MasterKey} {key : AccessKey} {lead : Bytes} {server : Server} {text : String}

section Tail

/-- What stands behind the server: the query that holds what salts begin with, if that is anything. -/
def leadQuery (lead : Bytes) : List Char :=
  if lead.isEmpty then [] else '?' :: (Url.writePair leadField (leadText lead)).toList

theorem ended_leadQuery (lead : Bytes) : Url.Ended (leadQuery lead) := by
  unfold leadQuery
  split
  · exact Url.Ended.nil
  · rintro _ ⟨⟩
    rfl

theorem leadOf_leadQuery {url : Url} (query : url.query = Url.queryOf (leadQuery lead)) : leadOf url = .ok lead := by
  by_cases empty : lead.isEmpty
  · rw [leadOf, query, leadQuery, if_pos empty, List.isEmpty_iff.mp empty]
    rfl
  · rw [leadOf, query, leadQuery, if_neg empty, Url.queryOf_writePair, Option.getD_some, Url.queryPairs_writePair]
    exact readLead_leadText lead

theorem kept_leadQuery (server : Server) (lead : Bytes) : Kept (server.text ++ leadQuery lead) := by
  unfold leadQuery
  split
  · rw [List.append_nil]
    exact server.kept
  · have seen : ∀ c ∈ '?' :: (Url.writePair leadField (leadText lead)).toList, Text.isVisible c := by
      intro c member
      rcases List.mem_cons.mp member with rfl | member
      · decide
      · exact (Url.mem_writePair member).1
    exact (Kept.visible seen).append (List.cons_ne_nil _ _) server.kept.within

end Tail

section Info

theorem parse_eq_ok (parsed : parse text = .ok key) :
    parseUsual (Text.trim text) = .ok key ∨ parseLegacy (Text.trim text) = .ok key := by
  cases usual : parseUsual (Text.trim text) with
  | ok other =>
      rw [parse_of_usual usual] at parsed
      exact Or.inl parsed
  | error fault =>
      cases legacy : parseLegacy (Text.trim text) with
      | ok other =>
          rw [parse_of_legacy usual legacy] at parsed
          exact Or.inr parsed
      | error other =>
          rw [parse_of_neither usual legacy] at parsed
          cases parsed

theorem parseUsual_eq_ok (parsed : parseUsual text = .ok key) : ∃ url cipherInfo, Url.parse text = .ok url ∧
    url.scheme = scheme ∧ url.username ≠ "" ∧ cipherInfoOf url = .ok cipherInfo ∧ ofServer url cipherInfo = .ok key := by
  simp only [parseUsual, bind_eq_ok, mapError_eq_ok] at parsed
  obtain ⟨url, read, parsed⟩ := parsed
  split at parsed
  · cases parsed
  next known =>
  split at parsed
  · cases parsed
  next named =>
  obtain ⟨cipherInfo, meant, made⟩ := bind_eq_ok.mp parsed
  exact ⟨url, cipherInfo, read, not_not.mp known, by simpa using named, meant, made⟩

theorem ofServer_eq_ok {url : Url} {cipherInfo : String} (made : ofServer url cipherInfo = .ok key) :
    (∃ host, url.host = some host ∧ key.host = host.text) ∧ ∃ cipher secret,
      Text.splitFirst? ':' cipherInfo.toList = some (cipher, secret) ∧
      MasterKey.ofSecret (String.ofList cipher) (String.ofList secret) = .ok key.key := by
  simp only [ofServer, bind_eq_ok, elim_eq_ok] at made
  obtain ⟨name, named, port, -, ⟨cipher, secret⟩, cut, master, ofSecret, lead, -, same⟩ := made
  cases same
  unfold hostOf at named
  split at named
  · cases named
  next host found =>
  split at named <;> cases named
  exact ⟨⟨host, found, rfl⟩, cipher, secret, cut, ofSecret⟩

theorem cipherInfoOf_congr {url other : Url} (same : (url.username, url.password) = (other.username, other.password)) :
    cipherInfoOf url = cipherInfoOf other := by
  obtain ⟨name, password⟩ := Prod.mk.inj same
  rw [cipherInfoOf, cipherInfoOf, name, password]

/-- In front of a server nothing else is accepted as user info that does not end there. -/
theorem parse_usual_iff (within : ∀ c ∈ info, Url.SchemeKind.other.isEnd c = false ∧ Url.isSkipped c = false)
    (server : Server) : (∃ key, parse (usualText info server) = .ok key ∧ key.key = master) ↔ IsUserInfo info master := by
  constructor
  · rintro ⟨key, parsed, rfl⟩
    have kept : Kept (info ++ '@' :: server.text) := kept_usual fun c member => (within c member).2
    have url := parse_named (fun c member => (within c member).1) ((List.append_nil server.text).symm ▸ kept) Url.Ended.nil
    rw [List.append_nil] at url
    have trimmed : Text.trim (usualText info server) = usualText info server := Url.trim_schemed kept
    rcases parse_eq_ok parsed with usual | legacy
    · rw [trimmed] at usual
      obtain ⟨other, cipherInfo, read, -, named, meant, made⟩ := parseUsual_eq_ok usual
      obtain rfl := Except.ok.inj (read.symm.trans url)
      obtain ⟨-, cipher, secret, cut, ofSecret⟩ := ofServer_eq_ok made
      refine ⟨within, named, cipherInfo, cipher, secret, ?_, cut, ofSecret⟩
      intro url same
      rw [← meant]
      exact cipherInfoOf_congr same
    · have unmarked : '#' ∉ info := fun member => absurd (within '#' member).1 (by decide)
      rw [trimmed, parseLegacy_usual unmarked server] at legacy
      cases legacy
  · exact fun valid => ⟨_, parse_usual valid server, rfl⟩

end Info

section Hosts

theorem parse_server (parsed : parse text = .ok key) :
    ∃ written host, Url.HostText written host ∧ key.host = host.text := by
  have hosted {url : Url} {text cipherInfo : String} (read : Url.parse text = .ok url) (known : url.scheme = scheme)
      (made : ofServer url cipherInfo = .ok key) : ∃ written host, Url.HostText written host ∧ key.host = host.text := by
    obtain ⟨⟨host, found, named⟩, -⟩ := ofServer_eq_ok made
    obtain ⟨written, isHost⟩ := Url.parse_host read known found
    exact ⟨written, host, isHost, named⟩
  rcases parse_eq_ok parsed with usual | legacy
  · obtain ⟨url, cipherInfo, read, known, -, -, made⟩ := parseUsual_eq_ok usual
    exact hosted read known made
  · simp only [parseLegacy, bind_eq_ok, mapError_eq_ok] at legacy
    obtain ⟨body, -, decoded, -, ⟨cipherInfo, server⟩, -, url, read, made⟩ := legacy
    rw [List.append_assoc, Url.toList_opening] at read
    exact hosted read (Url.parse_opening read) made

end Hosts

theorem redacted_eq (key : AccessKey) :
    key.redacted = "ss://REDACTED" ++ String.ofList ('@' :: (key.serverAddress.toList ++ leadQuery key.lead)) := by
  rw [← String.toList_inj]
  unfold redacted leadQuery
  split <;> simp

/-- A key without its secret still tells the server and what salts begin with: with the user info of any key in place of
what stands for the secret, the text is that key at this server. -/
theorem redacted_identifies (parsed : parse text = .ok key) :
    ∃ rest, key.redacted = "ss://REDACTED" ++ rest ∧ ∀ (info : String) (master : MasterKey),
      IsUserInfo info.toList master → parse ("ss://" ++ info ++ rest) = .ok { key with key := master } := by
  obtain ⟨written, host, isHost, named⟩ := parse_server parsed
  obtain ⟨server, rfl, ported, joined⟩ := isHost.joined key.port
  refine ⟨_, redacted_eq key, ?_⟩
  intro info master valid
  have whole : "ss://" ++ info ++ String.ofList ('@' :: (key.serverAddress.toList ++ leadQuery key.lead)) =
      schemed (info.toList ++ '@' :: (server.text ++ leadQuery key.lead)) := by
    rw [serverAddress, named, joined, ← String.toList_inj]
    simp [schemed, Url.opening]
  rw [whole, parse_info valid (ended_leadQuery key.lead) (kept_leadQuery server key.lead) fun _ => leadOf_leadQuery, ported,
    named]

theorem redacted_identifies_escapes :
    let spec : CipherSpec := ⟨"aes-128-gcm", "AEAD_AES_128_GCM", .aes128Gcm⟩
    let secret (text : String) : MasterKey := ⟨spec, KeyDerivation.stretch (Bytes.ofText text) spec.keySize⟩
    let key : AccessKey := ⟨"2001:db8::1", 443, secret "s", [0x26, 0x23, 0x2b, 0x25, 0x00, 0x80, 0xff]⟩
    parse "ss://aes-128-gcm:s@[2001:DB8:0::1]:443?prefix=%26%23%2B%25%00%C2%80%C3%BF" = .ok key ∧
      key.redacted = "ss://REDACTED@[2001:db8::1]:443?prefix=%26%23%2B%25%00%C2%80%C3%BF" ∧
      parse "ss://Aes-128-GCM:%3A@[2001:db8::1]:443?prefix=%26%23%2B%25%00%C2%80%C3%BF" =
        .ok { key with key := secret ":" } := by
  intro spec secret key
  let server : Server := ⟨'[' :: "2001:DB8:0::1".toList ++ [']'], .ipv6 (.ofParts [0x2001, 0xdb8] [1]), .address rfl, 443⟩
  have registered : spec ∈ CipherSpec.registry := by decide
  have valid : IsUserInfo (plainInfo "aes-128-gcm" "s") (secret "s") := isUserInfo_plain registered (by decide) (by decide)
  have other : IsUserInfo "Aes-128-GCM:%3A".toList (secret ":") := by
    have plain : IsUserInfo (plainInfo "Aes-128-GCM" ":") (secret ":") :=
      isUserInfo_plain registered (by decide) (by decide)
    have same : plainInfo "Aes-128-GCM" ":" = "Aes-128-GCM:%3A".toList := by decide +kernel
    rwa [same] at plain
  have parsed := parse_info valid (ended_leadQuery key.lead) (kept_leadQuery server key.lead) fun _ => leadOf_leadQuery
  have written : schemed (plainInfo "aes-128-gcm" "s" ++ '@' :: (server.text ++ leadQuery key.lead)) =
      "ss://aes-128-gcm:s@[2001:DB8:0::1]:443?prefix=%26%23%2B%25%00%C2%80%C3%BF" := by decide +kernel
  have host : server.host.text = "2001:db8::1" := by decide +kernel
  rw [written, host] at parsed
  have redacted : key.redacted = "ss://REDACTED@[2001:db8::1]:443?prefix=%26%23%2B%25%00%C2%80%C3%BF" := by
    decide +kernel
  obtain ⟨rest, behind, refilled⟩ := redacted_identifies parsed
  have tail : rest = "@[2001:db8::1]:443?prefix=%26%23%2B%25%00%C2%80%C3%BF" := by
    have cut : "ss://REDACTED@[2001:db8::1]:443?prefix=%26%23%2B%25%00%C2%80%C3%BF" =
        "ss://REDACTED" ++ "@[2001:db8::1]:443?prefix=%26%23%2B%25%00%C2%80%C3%BF" := by decide +kernel
    have same := behind.symm.trans (redacted.trans cut)
    rwa [String.append_right_inj] at same
  have again := refilled "Aes-128-GCM:%3A" _ other
  rw [tail] at again
  exact ⟨parsed, redacted, again⟩

end AccessKey
end SealedTunnel
