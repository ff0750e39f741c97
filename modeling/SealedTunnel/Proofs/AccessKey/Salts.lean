import SealedTunnel.Proofs.AccessKey.Forms
import SealedTunnel.Proofs.Stream.Sealing

namespace SealedTunnel

/-- What comes out has the property, and if nothing does, that is because of bad input. -/
structure Checks {α : Type} (property : α → Prop) (result : Except Fault α) : Prop where
  holds : ∀ value, result = .ok value → property value
  config : ∀ fault, result = .error fault → fault.isConfigError

namespace Checks

variable {α β : Type} {property : α → Prop} {later : β → Prop} {result : Except Fault α}

theorem ok {value : α} (holds : property value) : Checks property (.ok value) := by
  constructor
  · rintro _ ⟨⟩
    exact holds
  · rintro _ ⟨⟩

theorem error {fault : Fault} (config : fault.isConfigError) : Checks property (.error fault) := by
  constructor
  · rintro _ ⟨⟩
  · rintro _ ⟨⟩
    exact config

theorem bind {next : α → Except Fault β} (checks : Checks property result)
    (steps : ∀ value, property value → Checks later (next value)) : Checks later (result >>= next) := by
  cases result with
  | error fault => exact error (checks.config fault rfl)
  | ok value => exact steps value (checks.holds value rfl)

theorem map (checks : Checks property result) (change : α → β) : Checks (fun _ => True) (result.map change) := by
  cases result with
  | error fault => exact error (checks.config fault rfl)
  | ok value => exact ok trivial

theorem elim (value : Option α) (fault : ConfigFault) :
    Checks (fun _ => True) (value.elim (.error (.config fault)) .ok) := by
  cases value with
  | none => exact error rfl
  | some value => exact ok trivial

theorem mapError {ε : Type} (result : Except ε α) (explain : ε → ConfigFault) :
    Checks (fun _ => True) (result.mapError fun cause => .config (explain cause)) := by
  cases result with
  | error cause => exact error rfl
  | ok value => exact ok trivial

theorem mapM {step : β → Except Fault α} (checks : ∀ value, Checks (fun _ => True) (step value))
    (values : List β) : Checks (fun _ => True) (values.mapM step) := by
  induction values with
  | nil => exact ok trivial
  | cons value rest ih =>
      rw [List.mapM_cons]
      apply (checks value).bind
      intro first _
      exact ih.bind fun others _ => ok trivial

end Checks

namespace SaltSource

variable {lead : Bytes} {size : Nat}

theorem draw_short (short : lead.length ≤ size) (entropy : Entropy) (attempt : Nat) :
    ∃ salt, (led lead entropy).draw attempt size = .ok salt ∧ lead <+: salt :=
  ⟨_, if_neg (Nat.not_lt.mpr short), List.prefix_append _ _⟩

theorem draw_long (long : ¬ lead.length ≤ size) (entropy : Entropy) (attempt : Nat) :
    (led lead entropy).draw attempt size = .error (.salt (.leadTooLong lead.length size)) :=
  if_pos (Nat.not_le.mp long)

end SaltSource

namespace Sealer

/-- The sealer of a connection that has asked for so many salts and got none. -/
def unbegun (key : MasterKey) (salts : SaltSource) (attempts : Nat) : Sealer := ⟨key, salts, attempts, none, .zero⟩

variable {key : MasterKey} {salts : SaltSource} {attempts : Nat}

theorem sealData_drawn {salt : Bytes} (drawn : salts.draw attempts key.saltSize = .ok salt) (data : Bytes) :
    ∃ chunks, ((unbegun key salts attempts).sealData data).1 = .ok (salt ++ chunks) := by
  obtain ⟨session, ofSalt⟩ := key.session_ok salt
  have sealed := @sealData_first (unbegun key salts attempts) session salt 0 rfl Nonce.zero_eq_ofNat drawn ofSalt data
  rw [sealed]
  exact ⟨_, rfl⟩

theorem sealData_undrawn {fault : Fault} (undrawn : salts.draw attempts key.saltSize = .error fault) (data : Bytes) :
    ((unbegun key salts attempts).sealData data).1 = .error fault := by
  have failed := @sealData_unsalted (unbegun key salts attempts) fault rfl undrawn data
  rw [failed]

end Sealer

namespace AccessKey

theorem readLead_checks (chars : List Char) : Checks (fun _ => True) (readLead chars) := by
  apply Checks.mapM
  intro c
  split
  · exact Checks.ok trivial
  · exact Checks.error rfl

theorem hostOf_checks (url : Url) : Checks (fun _ => True) (hostOf url) := by
  unfold hostOf
  split
  · exact Checks.error rfl
  · split
    · exact Checks.error rfl
    · exact Checks.ok trivial

theorem leadOf_checks (url : Url) : Checks (fun _ => True) (leadOf url) := by
  unfold leadOf
  split
  · exact Checks.ok trivial
  · exact readLead_checks _

theorem ofSecret_checks (cipher secret : String) :
    Checks (·.spec ∈ CipherSpec.registry) (MasterKey.ofSecret cipher secret) := by
  have known : Checks (· ∈ CipherSpec.registry) (CipherSpec.lookup cipher) := by
    unfold CipherSpec.lookup
    split
    · next found => exact Checks.ok (List.mem_of_find?_eq_some found)
    · exact Checks.error rfl
  exact known.bind fun _ registered => Checks.ok registered

theorem ofServer_checks (url : Url) (cipherInfo : String) :
    Checks (·.key.spec ∈ CipherSpec.registry) (ofServer url cipherInfo) := by
  apply (hostOf_checks url).bind
  intro host _
  apply (Checks.elim url.port .missingPort).bind
  intro port _
  apply (Checks.elim _ .missingSecretSeparator).bind
  rintro ⟨cipher, secret⟩ _
  apply (ofSecret_checks _ _).bind
  intro key registered
  exact (leadOf_checks url).bind fun _ _ => Checks.ok registered

theorem readUserText_checks (text : String) : Checks (fun _ => True) (readUserText text) :=
  Checks.elim _ .userInfoText

theorem cipherInfoOf_checks (url : Url) : Checks (fun _ => True) (cipherInfoOf url) := by
  apply (readUserText_checks url.username).bind
  intro name _
  split
  · exact Checks.ok trivial
  · apply ((readUserText_checks _).map _).bind
    intro written _
    exact Checks.ok trivial

theorem parseUsual_checks (text : String) : Checks (·.key.spec ∈ CipherSpec.registry) (parseUsual text) := by
  apply (Checks.mapError (Url.parse text) .accessKeyUrl).bind
  intro url _
  split
  · exact Checks.error rfl
  · split
    · exact Checks.error rfl
    · exact (cipherInfoOf_checks url).bind fun cipherInfo _ => ofServer_checks url cipherInfo

theorem parseLegacy_checks (text : String) : Checks (·.key.spec ∈ CipherSpec.registry) (parseLegacy text) := by
  apply (Checks.elim (legacyBody? text.toList) .notAnAccessKey).bind
  intro body _
  apply (Checks.elim _ .undecodableLegacyKey).bind
  intro decoded _
  apply (Checks.elim _ .missingUserSeparator).bind
  rintro ⟨cipherInfo, server⟩ _
  apply (Checks.mapError _ .serverUrl).bind
  intro url _
  exact ofServer_checks url _

theorem parse_checks (text : String) : Checks (·.key.spec ∈ CipherSpec.registry) (parse text) := by
  have first := parseUsual_checks (Text.trim text)
  have second := parseLegacy_checks (Text.trim text)
  cases usual : parseUsual (Text.trim text) with
  | ok key =>
      rw [parse_of_usual usual]
      exact Checks.ok (first.holds key usual)
  | error fault =>
      cases legacy : parseLegacy (Text.trim text) with
      | ok key =>
          rw [parse_of_legacy usual legacy]
          exact Checks.ok (second.holds key legacy)
      | error other =>
          rw [parse_of_neither usual legacy]
          exact Checks.error (first.config fault usual)

theorem saltSource?_eq {key : AccessKey} {entropy : Entropy} {source : SaltSource}
    (led : key.saltSource? entropy = some source) : source = .led key.lead entropy := by
  unfold saltSource? at led
  split at led
  · cases led
  · cases led
    rfl

/-- A text that is no key is refused as bad input. The salts of a key have at least sixteen bytes. If they are to begin
with something, and that is no longer than they are, they do, and so does what a connection sends; otherwise no salt can
ever be drawn, and no connection can begin. -/
theorem parse_salts (text : String) :
    (∀ fault, parse text = .error fault → fault.isConfigError) ∧
    ∀ key, parse text = .ok key → 16 ≤ key.key.saltSize ∧ ∀ entropy source, key.saltSource? entropy = some source →
      ∀ (attempts : Nat) (data : Bytes),
        let first := (Sealer.unbegun key.key source attempts).sealData data
        if key.lead.length ≤ key.key.saltSize then
          ∃ salt chunks, source.draw attempts key.key.saltSize = .ok salt ∧ salt.length = key.key.saltSize ∧
            key.lead <+: salt ∧ first.1 = .ok (salt ++ chunks)
        else
          source.draw attempts key.key.saltSize = .error (.salt (.leadTooLong key.lead.length key.key.saltSize)) ∧
            first.1 = .error (.salt (.leadTooLong key.lead.length key.key.saltSize)) := by
  have checks := parse_checks text
  refine ⟨checks.config, ?_⟩
  intro key parsed
  have wide : ∀ spec ∈ CipherSpec.registry, 16 ≤ spec.saltSize := by decide
  refine ⟨wide _ (checks.holds key parsed), ?_⟩
  intro entropy source led attempts data first
  cases saltSource?_eq led
  split
  · next short =>
      obtain ⟨salt, drawn, begins⟩ := SaltSource.draw_short short entropy attempts
      obtain ⟨chunks, sealed⟩ := Sealer.sealData_drawn drawn data
      exact ⟨salt, chunks, drawn, SaltSource.length_of_draw drawn, begins, sealed⟩
  · next long =>
      have undrawn := SaltSource.draw_long long entropy attempts
      exact ⟨undrawn, Sealer.sealData_undrawn undrawn data⟩

section Led

def leading (lead : Bytes) : AccessKey where
  host := "example.com"
  port := 1
  key := ⟨⟨"aes-128-gcm", "AEAD_AES_128_GCM", .aes128Gcm⟩, KeyDerivation.stretch (Bytes.ofText "s") 16⟩
  lead := lead

theorem parse_leading {text query value : String} {lead : Bytes} (trimmed : Text.trim text = text)
    (url : Url.parse text = .ok ⟨"ss", "aes-128-gcm", some "s", some (.domain "example.com"), some 1, some query⟩)
    (pairs : Url.queryPairs query = [(leadField, value)]) (read : readLead value.toList = .ok lead) :
    parse text = .ok (leading lead) := by
  have named : "aes-128-gcm" ≠ "" := by decide
  have meant : cipherInfoOf ⟨"ss", "aes-128-gcm", some "s", some (.domain "example.com"), some 1, some query⟩ =
      .ok ("aes-128-gcm" ++ ":" ++ "s") := cipherInfoOf_plain rfl rfl
  have led : leadOf ⟨"ss", "aes-128-gcm", some "s", some (.domain "example.com"), some 1, some query⟩ = .ok lead := by
    rw [leadOf, Option.getD_some, pairs]
    exact read
  apply parse_of_usual
  rw [trimmed, parseUsual_named url rfl named meant]
  simp only [ofServer, led]
  rfl

theorem parse_salts_short :
    ∃ key, parse "ss://aes-128-gcm:s@example.com:1?prefix=aaaa" = .ok key ∧
      ∀ entropy, ∃ salt, (SaltSource.led [97, 97, 97, 97] entropy).draw 0 16 = .ok salt ∧
        salt.length = 16 ∧ [97, 97, 97, 97] <+: salt := by
  have trimmed : Text.trim "ss://aes-128-gcm:s@example.com:1?prefix=aaaa" =
      "ss://aes-128-gcm:s@example.com:1?prefix=aaaa" := Text.trim_eq rfl rfl rfl rfl
  have pairs : Url.queryPairs "prefix=aaaa" = [(leadField, "aaaa")] := by decide +kernel
  have parsed : parse "ss://aes-128-gcm:s@example.com:1?prefix=aaaa" = .ok (leading [97, 97, 97, 97]) :=
    parse_leading trimmed rfl pairs rfl
  refine ⟨_, parsed, ?_⟩
  intro entropy
  have given := ((parse_salts _).2 _ parsed).2 entropy (.led [97, 97, 97, 97] entropy) rfl 0 []
  rw [if_pos (by decide)] at given
  obtain ⟨salt, -, drawn, sized, begins, -⟩ := given
  exact ⟨salt, drawn, sized, begins⟩

/-- Seventeen bytes to begin a salt of sixteen with: the key is accepted, and no connection can begin. -/
theorem accepted_without_salts :
    ∃ key, parse "ss://aes-128-gcm:s@example.com:1?prefix=aaaaaaaaaaaaaaaaa" = .ok key ∧
      ∀ entropy, ∃ source, key.saltSource? entropy = some source ∧ ∀ attempt data,
        source.draw attempt key.key.saltSize = .error (.salt (.leadTooLong 17 16)) ∧
        ((Sealer.unbegun key.key source attempt).sealData data).1 = .error (.salt (.leadTooLong 17 16)) := by
  have trimmed : Text.trim "ss://aes-128-gcm:s@example.com:1?prefix=aaaaaaaaaaaaaaaaa" =
      "ss://aes-128-gcm:s@example.com:1?prefix=aaaaaaaaaaaaaaaaa" := Text.trim_eq rfl rfl rfl rfl
  have pairs : Url.queryPairs "prefix=aaaaaaaaaaaaaaaaa" = [(leadField, "aaaaaaaaaaaaaaaaa")] := by decide +kernel
  have parsed : parse "ss://aes-128-gcm:s@example.com:1?prefix=aaaaaaaaaaaaaaaaa" =
      .ok (leading (List.replicate 17 97)) := parse_leading trimmed rfl pairs rfl
  have long : ¬ (List.replicate 17 97 : Bytes).length ≤ 16 := by decide
  refine ⟨_, parsed, ?_⟩
  intro entropy
  refine ⟨_, rfl, ?_⟩
  intro attempt data
  have undrawn := SaltSource.draw_long long entropy attempt
  exact ⟨undrawn, Sealer.sealData_undrawn undrawn data⟩

end Led

end AccessKey
end SealedTunnel
