import SealedTunnel.AccessKey
import SealedTunnel.Proofs.Text.Base64
import SealedTunnel.Proofs.Url.Authority

namespace SealedTunnel

namespace CipherSpec

variable {spec : CipherSpec} {name : String}

theorem find?_registered : ∀ spec ∈ registry,
    ∀ lowered ∈ [spec.name.toList.map Char.toLower, spec.ietfName.toList.map Char.toLower],
      registry.find? (fun other => other.name.toList.map Char.toLower == lowered ||
        other.ietfName.toList.map Char.toLower == lowered) = some spec ∧ ':' ∉ lowered ∧ lowered ≠ [] := by
  decide +kernel

theorem lowered_called (called : spec.isCalled name) :
    name.toList.map Char.toLower ∈ [spec.name.toList.map Char.toLower, spec.ietfName.toList.map Char.toLower] := by
  simp only [isCalled, sameIgnoringCase, Bool.or_eq_true, beq_iff_eq] at called
  rcases called with called | called <;> simp [called]

theorem lookup_called (registered : spec ∈ registry) (called : spec.isCalled name) : lookup name = .ok spec := by
  have found := (find?_registered spec registered _ (lowered_called called)).1
  simp only [lookup, isCalled, sameIgnoringCase]
  rw [found]

theorem colon_not_mem (registered : spec ∈ registry) (called : spec.isCalled name) : ':' ∉ name.toList := by
  intro member
  exact (find?_registered spec registered _ (lowered_called called)).2.1 (List.mem_map_of_mem member)

theorem called_ne_empty (registered : spec ∈ registry) (called : spec.isCalled name) : name ≠ "" := by
  rintro rfl
  exact (find?_registered spec registered _ (lowered_called called)).2.2 rfl

end CipherSpec

theorem MasterKey.ofSecret_called {spec : CipherSpec} {name : String} (registered : spec ∈ CipherSpec.registry)
    (called : spec.isCalled name) (secret : String) :
    ofSecret name secret = .ok ⟨spec, KeyDerivation.stretch (Bytes.ofText secret) spec.keySize⟩ := by
  rw [ofSecret, CipherSpec.lookup_called registered called]
  rfl

namespace AccessKey

open Url (Server schemed Kept)
open Base64 (Variant)
open Text (Percent.encode)

def isPlainInfo (byte : UInt8) : Bool :=
  let c := Char.ofNat byte.toNat
  Url.isAsciiLetter c ∨ Text.isDigit c ∨ c = '-' ∨ c = '.' ∨ c = '_'

def base64Info (variant : Variant) (cipher secret : String) : List Char :=
  variant.encode (Bytes.ofText (cipher ++ ":" ++ secret))

def plainInfo (cipher secret : String) : List Char :=
  Percent.encode isPlainInfo (Bytes.ofText cipher) ++ ':' :: Percent.encode isPlainInfo (Bytes.ofText secret)

/-- User info that holds the cipher and the secret of a key, in whichever way it may. -/
structure IsUserInfo (info : List Char) (master : MasterKey) : Prop where
  within : ∀ c ∈ info, Url.SchemeKind.other.isEnd c = false ∧ Url.isSkipped c = false
  named : (Url.readUserInfo info).1 ≠ ""
  meant : ∃ cipherInfo cipher secret,
    (∀ url : Url, (url.username, url.password) = Url.readUserInfo info → cipherInfoOf url = .ok cipherInfo) ∧
    Text.splitFirst? ':' cipherInfo.toList = some (cipher, secret) ∧
    MasterKey.ofSecret (String.ofList cipher) (String.ofList secret) = .ok master

def usualText (info : List Char) (server : Server) : String := schemed (info ++ '@' :: server.text)

def legacyText (variant : Variant) (cipher secret : String) (server : Server) : String :=
  schemed (variant.encode (Bytes.ofText (cipher ++ ":" ++ secret ++ "@" ++ String.ofList server.text)))

/-- The key that all forms stand for. -/
def of (spec : CipherSpec) (secret : String) (server : Server) : AccessKey :=
  ⟨server.host.text, server.port, ⟨spec, KeyDerivation.stretch (Bytes.ofText secret) spec.keySize⟩, []⟩

variable {spec : CipherSpec} {cipher secret : String} {variant : Variant} {server : Server} {info : List Char}
  {master : MasterKey} {url : Url}

theorem ofServer_parts {cipherInfo : String} {front behind : List Char} {key : MasterKey} {lead : Bytes}
    (host : url.host = some server.host) (port : url.port = some server.port)
    (cut : Text.splitFirst? ':' cipherInfo.toList = some (front, behind))
    (made : MasterKey.ofSecret (String.ofList front) (String.ofList behind) = .ok key) (led : leadOf url = .ok lead) :
    ofServer url cipherInfo = .ok ⟨server.host.text, server.port, key, lead⟩ := by
  have named : hostOf url = .ok server.host.text := by
    rw [hostOf, host]
    simp [server.isHost.not_isEmpty]
  simp only [ofServer, named, port, cut, Option.elim_some, bind, Except.bind, made, led]
  rfl

theorem split_cipherInfo (registered : spec ∈ CipherSpec.registry) (called : spec.isCalled cipher) :
    Text.splitFirst? ':' (cipher ++ ":" ++ secret).toList = some (cipher.toList, secret.toList) := by
  have absent := CipherSpec.colon_not_mem registered called
  have whole : (cipher ++ ":" ++ secret).toList = cipher.toList ++ ':' :: secret.toList := by simp
  rw [whole, Text.splitFirst?_append absent]

theorem leadOf_none (query : url.query = none) : leadOf url = .ok [] := by
  rw [leadOf, query]
  rfl

theorem ofServer_eq (registered : spec ∈ CipherSpec.registry) (called : spec.isCalled cipher)
    (host : url.host = some server.host) (port : url.port = some server.port) (query : url.query = none) :
    ofServer url (cipher ++ ":" ++ secret) = .ok (of spec secret server) := by
  apply ofServer_parts host port (split_cipherInfo registered called) _ (leadOf_none query)
  rw [String.ofList_toList, String.ofList_toList]
  exact MasterKey.ofSecret_called registered called secret

section Parse

variable {text : String} {key : AccessKey} {fault other : Fault}

-- Its own equation would first evaluate the reading of the text, so `parse` is opened as it stands.
theorem parse_of_usual (usual : parseUsual (Text.trim text) = .ok key) : parse text = .ok key := by
  delta parse
  simp only [usual]

theorem parse_of_legacy (usual : parseUsual (Text.trim text) = .error fault)
    (legacy : parseLegacy (Text.trim text) = .ok key) : parse text = .ok key := by
  delta parse
  simp only [usual, legacy]
  rfl

theorem parse_of_neither (usual : parseUsual (Text.trim text) = .error fault)
    (legacy : parseLegacy (Text.trim text) = .error other) : parse text = .error fault := by
  delta parse
  simp only [usual, legacy]
  rfl

end Parse

theorem parseUsual_named {text cipherInfo : String} (parsed : Url.parse text = .ok url) (known : url.scheme = scheme)
    (named : url.username ≠ "") (meant : cipherInfoOf url = .ok cipherInfo) :
    parseUsual text = ofServer url cipherInfo := by
  have filled : ¬ url.username.isEmpty := by simpa using named
  simp only [parseUsual, parsed, mapError_ok, bind, Except.bind]
  rw [if_neg (not_not_intro known), if_neg filled, meant]

theorem kept_info {tail : List Char} (within : ∀ c ∈ info, Url.isSkipped c = false) (kept : Kept (server.text ++ tail)) :
    Kept (info ++ '@' :: (server.text ++ tail)) := by
  have nonempty : server.text ++ tail ≠ [] := List.append_ne_nil_of_left_ne_nil server.text_ne_nil tail
  have marked : Kept (['@'] ++ (server.text ++ tail)) := kept.append nonempty (by simp [Url.isSkipped])
  exact marked.append (List.cons_ne_nil _ _) within

theorem kept_usual (within : ∀ c ∈ info, Url.isSkipped c = false) : Kept (info ++ '@' :: server.text) := by
  have kept := kept_info within ((List.append_nil server.text).symm ▸ server.kept)
  rwa [List.append_nil] at kept

theorem parse_named {tail : List Char} (inside : ∀ c ∈ info, Url.SchemeKind.other.isEnd c = false)
    (kept : Kept (info ++ '@' :: (server.text ++ tail))) (ended : Url.Ended tail) :
    Url.parse (schemed (info ++ '@' :: (server.text ++ tail))) =
      .ok ⟨scheme, (Url.readUserInfo info).1, (Url.readUserInfo info).2, some server.host, some server.port,
        Url.queryOf tail⟩ :=
  (Url.parse_schemed kept).trans (Url.readAuthority_server scheme ended (Url.splitUserInfo_named inside server ended))

theorem parse_info {tail : List Char} {lead : Bytes} (valid : IsUserInfo info master) (ended : Url.Ended tail)
    (kept : Kept (server.text ++ tail)) (led : ∀ url : Url, url.query = Url.queryOf tail → leadOf url = .ok lead) :
    parse (schemed (info ++ '@' :: (server.text ++ tail))) = .ok ⟨server.host.text, server.port, master, lead⟩ := by
  obtain ⟨cipherInfo, cipher, secret, meant, cut, made⟩ := valid.meant
  have kept := kept_info (fun c member => (valid.within c member).2) kept
  have url := parse_named (fun c member => (valid.within c member).1) kept ended
  apply parse_of_usual
  rw [Url.trim_schemed kept, parseUsual_named url rfl valid.named (meant _ rfl)]
  exact ofServer_parts rfl rfl cut made (led _ rfl)

theorem parse_usual (valid : IsUserInfo info master) (server : Server) :
    parse (usualText info server) = .ok ⟨server.host.text, server.port, master, []⟩ := by
  have kept : Kept (server.text ++ []) := (List.append_nil server.text).symm ▸ server.kept
  have parsed := parse_info valid Url.Ended.nil kept fun _ query => leadOf_none query
  rwa [List.append_nil] at parsed

theorem IsUserInfo.of_called (registered : spec ∈ CipherSpec.registry) (called : spec.isCalled cipher)
    {name : String} {password : Option String} (within : ∀ c ∈ info, Url.isInner c)
    (read : Url.readUserInfo info = (name, password)) (named : name ≠ "")
    (meant : ∀ url : Url, url.username = name → url.password = password →
      cipherInfoOf url = .ok (cipher ++ ":" ++ secret)) :
    IsUserInfo info ⟨spec, KeyDerivation.stretch (Bytes.ofText secret) spec.keySize⟩ := by
  refine ⟨?within, by rwa [read], cipher ++ ":" ++ secret, cipher.toList, secret.toList, ?meant,
    split_cipherInfo registered called, ?made⟩
  case within =>
    intro c member
    exact ⟨Url.isInner_end (within c member), by simp [Url.isSkipped, Url.isInner_iff.mp (within c member)]⟩
  case meant =>
    intro url same
    rw [read, Prod.mk.injEq] at same
    exact meant url same.1 same.2
  case made =>
    rw [String.ofList_toList, String.ofList_toList]
    exact MasterKey.ofSecret_called registered called secret

theorem parseUsual_bare {authority tail : List Char} (unmarked : ∀ c ∈ authority, Url.Host.isForbiddenOpaque c = false)
    (ended : Url.Ended tail) (kept : Kept (authority ++ tail)) :
    parseUsual (schemed (authority ++ tail)) = .error (.config .missingCipherInfo) := by
  obtain ⟨host, read⟩ := Url.readAuthority_bare scheme unmarked ended
  have parsed := (Url.parse_schemed kept).trans read
  simp only [parseUsual, parsed, mapError_ok, bind, Except.bind]
  rfl

section Base64

variable (known : variant ∈ Variant.all)
include known

theorem base64_ne_nil {text : String} (nonempty : text ≠ "") : variant.encode (Bytes.ofText text) ≠ [] := by
  intro empty
  have decoded := Base64.decodeText?_encode known text
  rw [empty] at decoded
  cases decoded
  exact nonempty rfl

theorem cipherInfoOf_base64 (username : url.username = String.ofList (base64Info variant cipher secret))
    (password : url.password = none) : cipherInfoOf url = .ok (cipher ++ ":" ++ secret) := by
  have unescaped : '%' ∉ base64Info variant cipher secret := Base64.encode_foreign known (by decide) _
  have name : readUserText url.username = .ok (String.ofList (base64Info variant cipher secret)) := by
    rw [readUserText, username, String.toList_ofList, Text.Percent.decodeText?_unescaped unescaped]
    rfl
  have decoded : Base64.decodeText? (base64Info variant cipher secret) = some (cipher ++ ":" ++ secret) :=
    Base64.decodeText?_encode known _
  simp only [cipherInfoOf, name, password, bind, Except.bind, String.toList_ofList, decoded, Option.getD_some]
  rfl

theorem isInner_base64 (bytes : Bytes) (unbroken : '/' ∉ variant.encode bytes) :
    ∀ c ∈ variant.encode bytes, Url.isInner c := by
  intro c member
  have other : ∀ mark, Base64.IsForeign mark → c ≠ mark := by
    rintro mark foreign rfl
    exact Base64.encode_foreign known foreign bytes member
  rw [Url.isInner_iff]
  refine ⟨?_, other _ (by decide), other _ (by decide), other _ (by decide), other _ (by decide), other _ (by decide),
    other _ (by decide)⟩
  rintro rfl
  exact unbroken member

theorem isUserInfo_base64 (registered : spec ∈ CipherSpec.registry) (called : spec.isCalled cipher)
    (unbroken : '/' ∉ base64Info variant cipher secret) :
    IsUserInfo (base64Info variant cipher secret) ⟨spec, KeyDerivation.stretch (Bytes.ofText secret) spec.keySize⟩ := by
  have colon : ':' ∉ base64Info variant cipher secret := Base64.encode_foreign known (by decide) _
  apply IsUserInfo.of_called registered called (isInner_base64 known _ unbroken) (Url.readUserInfo_name colon)
  · simpa [base64Info] using base64_ne_nil known (by simp)
  · exact fun url username password => cipherInfoOf_base64 known username password

theorem parse_base64 (registered : spec ∈ CipherSpec.registry) (called : spec.isCalled cipher)
    (unbroken : '/' ∉ base64Info variant cipher secret) :
    parse (usualText (base64Info variant cipher secret) server) = .ok (of spec secret server) :=
  parse_usual (isUserInfo_base64 known registered called unbroken) server

end Base64

section Plain

theorem isPlain_info : Text.Percent.IsPlain isPlainInfo := by
  have all : ∀ value < 256, isPlainInfo (UInt8.ofNat value) → value < 0x80 ∧ UInt8.ofNat value ≠ 0x25 := by
    decide +kernel
  intro byte plain
  have known := all byte.toNat byte.toNat_lt
  rw [UInt8.ofNat_toNat] at known
  exact known plain

theorem isInner_plain (bytes : Bytes) : ∀ c ∈ Percent.encode isPlainInfo bytes, Url.isInner c ∧ c ≠ ':' := by
  have plain : ∀ value < 256, isPlainInfo (UInt8.ofNat value) →
      Url.isInner (Char.ofNat value) ∧ Char.ofNat value ≠ ':' := by
    decide +kernel
  apply Text.Percent.forall_mem_encode
  · decide
  · decide
  · intro byte _ kept
    have known := plain byte.toNat byte.toNat_lt
    rw [UInt8.ofNat_toNat] at known
    exact known kept

theorem readUserText_plain (text : String) :
    readUserText (String.ofList (Percent.encode isPlainInfo (Bytes.ofText text))) = .ok text := by
  rw [readUserText, String.toList_ofList, Text.Percent.decodeText?_encode isPlain_info]
  rfl

theorem cipherInfoOf_plain (username : url.username = String.ofList (Percent.encode isPlainInfo (Bytes.ofText cipher)))
    (password : url.password = some (String.ofList (Percent.encode isPlainInfo (Bytes.ofText secret)))) :
    cipherInfoOf url = .ok (cipher ++ ":" ++ secret) := by
  have colon : ':' ∈ (cipher ++ ":" ++ secret).toList := by simp
  have unread : Base64.decodeText? (cipher ++ ":" ++ secret).toList = none :=
    Base64.decodeText?_foreign (by decide) colon
  simp only [cipherInfoOf, username, password, readUserText_plain, bind, Except.bind, Except.map, unread,
    Option.getD_none]
  rfl

theorem isUserInfo_plain (registered : spec ∈ CipherSpec.registry) (called : spec.isCalled cipher)
    (nonempty : secret ≠ "") :
    IsUserInfo (plainInfo cipher secret) ⟨spec, KeyDerivation.stretch (Bytes.ofText secret) spec.keySize⟩ := by
  have cipherChars := isInner_plain (Bytes.ofText cipher)
  have secretChars := isInner_plain (Bytes.ofText secret)
  have within : ∀ c ∈ plainInfo cipher secret, Url.isInner c := by
    intro c member
    rcases List.mem_append.mp member with member | member
    · exact (cipherChars c member).1
    · rcases List.mem_cons.mp member with rfl | member
      · decide
      · exact (secretChars c member).1
  have colon : ':' ∉ Percent.encode isPlainInfo (Bytes.ofText cipher) := fun member => (cipherChars _ member).2 rfl
  have filled : Percent.encode isPlainInfo (Bytes.ofText secret) ≠ [] := by
    rw [ne_eq, Text.Percent.encode_eq_nil, Bytes.ofText_eq_nil]
    exact nonempty
  apply IsUserInfo.of_called registered called within (Url.readUserInfo_pair colon filled)
  · have named := CipherSpec.called_ne_empty registered called
    simpa [Text.Percent.encode_eq_nil, Bytes.ofText_eq_nil] using named
  · exact fun url username password => cipherInfoOf_plain username password

theorem parse_plain (registered : spec ∈ CipherSpec.registry) (called : spec.isCalled cipher) (nonempty : secret ≠ "") :
    parse (usualText (plainInfo cipher secret) server) = .ok (of spec secret server) :=
  parse_usual (isUserInfo_plain registered called nonempty) server

end Plain

section Legacy

theorem forbidden_foreign {c : Char} (forbidden : Url.Host.isForbiddenOpaque c) : c = '/' ∨ Base64.IsForeign c := by
  rw [Url.Host.isForbiddenOpaque, List.contains_iff_mem] at forbidden
  have every := List.all_eq_true (p := fun c => decide (c = '/' ∨ Base64.IsForeign c)).mp (by decide) c forbidden
  exact of_decide_eq_true every

theorem ended_dropWhile {chars rest : List Char} (ended : '/' ∉ chars → Url.Ended rest) :
    Url.Ended (chars.dropWhile (· ≠ '/') ++ rest) := by
  have stopped := List.head?_dropWhile_not (· ≠ '/') chars
  cases behind : chars.dropWhile (· ≠ '/') with
  | nil =>
      apply ended
      intro member
      have whole := List.takeWhile_append_dropWhile (p := (· ≠ '/')) (l := chars)
      rw [behind, List.append_nil] at whole
      rw [← whole] at member
      cases List.all_eq_true.mp List.all_takeWhile '/' member
  | cons c _ =>
      rw [behind] at stopped
      have slash : c = '/' := by simpa using stopped
      rw [slash]
      rintro _ ⟨⟩
      rfl

theorem legacyBody?_schemed (body : List Char) : legacyBody? (schemed body).toList = some body := by
  have lowered : ((Url.opening ++ body).take 5).map Char.toLower = "ss://".toList := by
    rw [Url.toList_opening]
    rfl
  rw [legacyBody?, schemed, String.toList_ofList, if_pos lowered]
  rfl

theorem parseLegacy_undecodable {body : List Char} (unmarked : '#' ∉ body)
    (undecodable : Base64.decodeText? body = none) :
    parseLegacy (schemed body) = .error (.config .undecodableLegacyKey) := by
  simp only [parseLegacy, legacyBody?_schemed, Text.splitFirst?_absent unmarked, undecodable, Option.elim_some,
    Option.elim_none, bind, Except.bind]

variable (known : variant ∈ Variant.all)
include known

theorem kept_base64 (bytes : Bytes) : Kept (variant.encode bytes) := .visible (Base64.encode_visible known bytes)

/-- Base64 is no user info if a slash ends it first: up to there it would be the host, and nothing names the cipher. -/
theorem parseUsual_base64 (bytes : Bytes) {rest : List Char} (ended : '/' ∉ variant.encode bytes → Url.Ended rest)
    (kept : Kept (variant.encode bytes ++ rest)) :
    parseUsual (schemed (variant.encode bytes ++ rest)) = .error (.config .missingCipherInfo) := by
  have unmarked : ∀ c ∈ (variant.encode bytes).takeWhile (· ≠ '/'), Url.Host.isForbiddenOpaque c = false := by
    intro c member
    have other : c ≠ '/' := by simpa using List.all_eq_true.mp List.all_takeWhile c member
    rw [Bool.eq_false_iff]
    intro forbidden
    rcases forbidden_foreign forbidden with slash | foreign
    · exact other slash
    · exact Base64.encode_foreign known foreign bytes (List.takeWhile_subset _ member)
  have split : variant.encode bytes ++ rest = (variant.encode bytes).takeWhile (· ≠ '/') ++
      ((variant.encode bytes).dropWhile (· ≠ '/') ++ rest) := by
    rw [← List.append_assoc, List.takeWhile_append_dropWhile]
  rw [split] at kept ⊢
  exact parseUsual_bare unmarked (ended_dropWhile ended) kept

theorem parseLegacy_base64 (registered : spec ∈ CipherSpec.registry) (called : spec.isCalled cipher) :
    parseLegacy (legacyText variant cipher secret server) = .ok (of spec secret server) := by
  have unmarked : '#' ∉ variant.encode (Bytes.ofText (cipher ++ ":" ++ secret ++ "@" ++ String.ofList server.text)) :=
    Base64.encode_foreign known (by decide) _
  have decoded := Base64.decodeText?_encode known (cipher ++ ":" ++ secret ++ "@" ++ String.ofList server.text)
  have split : Text.splitLast? '@' (cipher ++ ":" ++ secret ++ "@" ++ String.ofList server.text).toList =
      some ((cipher ++ ":" ++ secret).toList, server.text) := by
    have whole : (cipher ++ ":" ++ secret ++ "@" ++ String.ofList server.text).toList =
        (cipher ++ ":" ++ secret).toList ++ '@' :: server.text := by simp
    rw [whole, Text.splitLast?_append _ (Url.at_not_mem server.isInner)]
  have url := Url.readAuthority_server scheme Url.Ended.nil
    (Url.splitUserInfo_unnamed server.isInner Url.Ended.nil)
  rw [List.append_nil] at url
  have parsed : Url.parse (String.ofList ("ss://".toList ++ server.text ++ [])) =
      .ok ⟨scheme, "", none, some server.host, some server.port, Url.queryOf []⟩ := by
    rw [List.append_nil, Url.toList_opening]
    exact (Url.parse_schemed server.kept).trans url
  simp only [parseLegacy, legacyText, legacyBody?_schemed, Text.splitFirst?_absent unmarked, decoded, split, parsed,
    Option.elim_some, mapError_ok, bind, Except.bind, String.ofList_toList]
  exact ofServer_eq registered called rfl rfl rfl

theorem parse_legacy (registered : spec ∈ CipherSpec.registry) (called : spec.isCalled cipher) :
    parse (legacyText variant cipher secret server) = .ok (of spec secret server) := by
  have trimmed : Text.trim (legacyText variant cipher secret server) = legacyText variant cipher secret server :=
    Url.trim_schemed (kept_base64 known _)
  have kept := kept_base64 known (Bytes.ofText (cipher ++ ":" ++ secret ++ "@" ++ String.ofList server.text))
  rw [← List.append_nil (variant.encode _)] at kept
  have usual := parseUsual_base64 known _ (fun _ => Url.Ended.nil) kept
  rw [List.append_nil] at usual
  change parseUsual (legacyText variant cipher secret server) = _ at usual
  rw [← trimmed] at usual
  apply parse_of_legacy usual
  rw [trimmed]
  exact parseLegacy_base64 known registered called

end Legacy

section Broken

theorem parseLegacy_usual (unmarked : '#' ∉ info) (server : Server) :
    parseLegacy (usualText info server) = .error (.config .undecodableLegacyKey) := by
  apply parseLegacy_undecodable
  · intro member
    rcases List.mem_append.mp member with member | member
    · exact unmarked member
    · rcases List.mem_cons.mp member with mark | member
      · cases mark
      · exact absurd (server.isInner '#' member) (by decide)
  · exact Base64.decodeText?_foreign (by decide) (List.mem_append_right _ List.mem_cons_self)

theorem parse_broken (known : variant ∈ Variant.all) (broken : '/' ∈ base64Info variant cipher secret) :
    parse (usualText (base64Info variant cipher secret) server) = .error (.config .missingCipherInfo) := by
  have kept : Kept (base64Info variant cipher secret ++ '@' :: server.text) :=
    kept_usual (kept_base64 known _).within
  have usual : parseUsual (usualText (base64Info variant cipher secret) server) = .error (.config .missingCipherInfo) :=
    parseUsual_base64 known _ (fun unbroken => absurd broken unbroken) kept
  have trimmed : Text.trim (usualText (base64Info variant cipher secret) server) =
      usualText (base64Info variant cipher secret) server := Url.trim_schemed kept
  rw [← trimmed] at usual
  apply parse_of_neither usual
  rw [trimmed]
  exact parseLegacy_usual (Base64.encode_foreign known (by decide) _) server

/-- Base64 in front of a server is accepted unless it holds a slash, and only the standard digits hold one. -/
theorem base64_unless_slash (known : variant ∈ Variant.all) (registered : spec ∈ CipherSpec.registry)
    (called : spec.isCalled cipher) (secret : String) (server : Server) :
    (∀ padded, variant = .urlSafe padded → '/' ∉ base64Info variant cipher secret) ∧
    parse (usualText (base64Info variant cipher secret) server) =
      if '/' ∈ base64Info variant cipher secret then .error (.config .missingCipherInfo)
      else .ok (of spec secret server) := by
  constructor
  · rintro padded rfl
    exact Base64.slash_urlSafe padded _
  · split
    · next broken => exact parse_broken known broken
    · next unbroken => exact parse_base64 known registered called unbroken

/-- A secret that only the digits safe in an address can carry. -/
theorem base64_unless_slash_safe :
    let spec : CipherSpec := ⟨"aes-128-gcm", "AEAD_AES_128_GCM", .aes128Gcm⟩
    let server : Server := ⟨"example.com".toList, .domain "example.com", .ofAny (by decide) (by decide), 1234⟩
    usualText (base64Info (.urlSafe false) "aes-128-gcm" "???") server =
      "ss://YWVzLTEyOC1nY206Pz8_@example.com:1234" ∧
    parse "ss://YWVzLTEyOC1nY206Pz8_@example.com:1234" = .ok (of spec "???" server) := by
  intro spec server
  have written : usualText (base64Info (.urlSafe false) "aes-128-gcm" "???") server =
      "ss://YWVzLTEyOC1nY206Pz8_@example.com:1234" := by decide +kernel
  have registered : spec ∈ CipherSpec.registry := by decide
  have called : spec.isCalled "aes-128-gcm" := by decide
  have known : Variant.urlSafe false ∈ Variant.all := by decide
  obtain ⟨unbroken, read⟩ := base64_unless_slash known registered called "???" server
  rw [if_neg (unbroken false rfl), written] at read
  exact ⟨written, read⟩

/-- The same secret in standard digits. -/
theorem slash_refused :
    ∃ variant ∈ Variant.all, ∃ server : Server,
      usualText (base64Info variant "aes-128-gcm" "???") server = "ss://YWVzLTEyOC1nY206Pz8/@example.com:1234" ∧
      parse "ss://YWVzLTEyOC1nY206Pz8/@example.com:1234" = .error (.config .missingCipherInfo) := by
  have known : Variant.standard false ∈ Variant.all := by decide
  have broken : '/' ∈ base64Info (.standard false) "aes-128-gcm" "???" := by decide +kernel
  let server : Server := ⟨"example.com".toList, .domain "example.com", .ofAny (by decide) (by decide), 1234⟩
  have written : usualText (base64Info (.standard false) "aes-128-gcm" "???") server =
      "ss://YWVzLTEyOC1nY206Pz8/@example.com:1234" := by decide +kernel
  refine ⟨_, known, server, written, ?_⟩
  rw [← written]
  exact parse_broken known broken

end Broken

section Agreement

/-- In all forms it is the same key. Only the digits that are safe in an address are sure not to end the user info. -/
theorem forms_agree (registered : spec ∈ CipherSpec.registry) (called : spec.isCalled cipher) (nonempty : secret ≠ "")
    (known : variant ∈ Variant.all) (server : Server) :
    parse (usualText (base64Info (.urlSafe false) cipher secret) server) = .ok (of spec secret server) ∧
    parse (usualText (plainInfo cipher secret) server) = .ok (of spec secret server) ∧
    parse (legacyText variant cipher secret server) = .ok (of spec secret server) := by
  refine ⟨?_, parse_plain registered called nonempty, parse_legacy known registered called⟩
  exact parse_base64 (by decide) registered called (Base64.slash_urlSafe false _)

/-- All that separates the parts of a key, in its secret. -/
theorem forms_agree_separators :
    let spec : CipherSpec := ⟨"aes-128-gcm", "AEAD_AES_128_GCM", .aes128Gcm⟩
    let server : Server := ⟨'[' :: [':', ':', '1'] ++ [']'], .ipv6 (.ofParts [] [1]), .address rfl, 8388⟩
    usualText (base64Info (.urlSafe false) "Aes-128-GCM" "é:@ %/") server =
      "ss://QWVzLTEyOC1HQ006w6k6QCAlLw@[::1]:8388" ∧
    parse "ss://QWVzLTEyOC1HQ006w6k6QCAlLw@[::1]:8388" = .ok (of spec "é:@ %/" server) ∧
    usualText (plainInfo "Aes-128-GCM" "é:@ %/") server = "ss://Aes-128-GCM:%C3%A9%3A%40%20%25%2F@[::1]:8388" ∧
    parse "ss://Aes-128-GCM:%C3%A9%3A%40%20%25%2F@[::1]:8388" = .ok (of spec "é:@ %/" server) ∧
    legacyText (.standard true) "Aes-128-GCM" "é:@ %/" server = "ss://QWVzLTEyOC1HQ006w6k6QCAlL0BbOjoxXTo4Mzg4" ∧
    parse "ss://QWVzLTEyOC1HQ006w6k6QCAlL0BbOjoxXTo4Mzg4" = .ok (of spec "é:@ %/" server) := by
  intro spec server
  have safe : usualText (base64Info (.urlSafe false) "Aes-128-GCM" "é:@ %/") server =
      "ss://QWVzLTEyOC1HQ006w6k6QCAlLw@[::1]:8388" := by decide +kernel
  have plain : usualText (plainInfo "Aes-128-GCM" "é:@ %/") server =
      "ss://Aes-128-GCM:%C3%A9%3A%40%20%25%2F@[::1]:8388" := by decide +kernel
  have legacy : legacyText (.standard true) "Aes-128-GCM" "é:@ %/" server =
      "ss://QWVzLTEyOC1HQ006w6k6QCAlL0BbOjoxXTo4Mzg4" := by decide +kernel
  have registered : spec ∈ CipherSpec.registry := by decide
  have called : spec.isCalled "Aes-128-GCM" := by decide
  have nonempty : "é:@ %/" ≠ "" := by decide
  have known : Variant.standard true ∈ Variant.all := by decide
  have agree := forms_agree registered called nonempty known server
  rw [safe, plain, legacy] at agree
  exact ⟨safe, agree.1, plain, agree.2.1, legacy, agree.2.2⟩

end Agreement

end AccessKey
end SealedTunnel
