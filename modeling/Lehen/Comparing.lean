import Lehen.Markers
import Lehen.Patching

/-!
Whether the log tells that a secret changed. The marker of the state before an update is
made of a sentinel, the one after it of the text that was given.
-/

namespace Lehen.Comparing

open Storage Secrets OAuth AuditService Registry IntegrationsService ConnectionsService Splitting Markers
open Patching (seals_decrypt row_of_overwritten)
open Prog (Leaves)

variable {N : Type} (settings : Settings)

/-- The stored plaintext of a secret. -/
def plaintextOf (row : InstanceRow) (name : String) : Option String :=
  (row.configSecretsEncrypted.lookup name).bind fun envelope =>
    (decrypt settings.aead envelope settings.masterKey).toOption

/-- The two markers of an event are equal exactly if the stored plaintext is the same. -/
def Tells (name : String) (before after : InstanceRow) (event : AdminAuditEvent) : Prop :=
  markerOf name event.before = markerOf name event.after ↔
    plaintextOf settings before name = plaintextOf settings after name

/-- A text that is given over a stored one: it is the stored text only where it is also
the sentinel, and the sentinel only where it is also the stored text. -/
def Clear (before : InstanceRow) (config : Dict Json) (name : String) : Prop :=
  ∀ value envelope, supplied config name = some value →
    before.configSecretsEncrypted.lookup name = some envelope → envelope ≠ "" →
      (plaintextOf settings before name = some value.toStr ↔ value.toStr = "<existing>")

variable {settings} {outside : Outside N}

/-! Fingerprints without collisions. -/

theorem hex_digit_injective {digit other : Nat} (small : digit < 16) (small' : other < 16)
    (same : Json.hexDigit digit = Json.hexDigit other) : digit = other := by
  have value := JsonText.hex_value_digit digit small
  rw [same, JsonText.hex_value_digit other small'] at value
  exact (Option.some.inj value).symm

theorem hexdigest_injective : Function.Injective hexdigest := by
  intro first second same
  have chars := String.ofList_injective same
  clear same
  induction first generalizing second with
  | nil =>
      cases second with
      | nil => rfl
      | cons other rest => cases chars
  | cons byte rest ih =>
      cases second with
      | nil => cases chars
      | cons other rest' =>
          simp only [List.flatMap_cons, List.cons_append, List.nil_append, List.cons.injEq] at chars
          obtain ⟨high, low, tail⟩ := chars
          have bound := byte.toNat_lt
          have bound' := other.toNat_lt
          have upper := hex_digit_injective (by omega) (by omega) high
          have lower := hex_digit_injective (by omega) (by omega) low
          have bytes : byte = other := UInt8.toNat_inj.mp (by omega)
          rw [bytes, ih tail]

theorem utf8_encode_injective : Function.Injective utf8Encode := by
  intro first second same
  have decoded := utf8_decode_encode first
  rw [same, utf8_decode_encode] at decoded
  exact (Except.ok.inj decoded).symm

/-- Two secrets with one mark are the same. -/
theorem mark_injective (injective : Function.Injective (settings.hmacSha256 settings.auditPepper))
    {text other : String} {marked : Json} (first : markSecret settings (.str text) = .ok marked)
    (second : markSecret settings (.str other) = .ok marked) : text = other := by
  have ⟨digest, found⟩ := Masking.fingerprint_total settings text
  have ⟨digest', found'⟩ := Masking.fingerprint_total settings other
  by_cases empty : text = ""
  · by_cases empty' : other = ""
    · rw [empty, empty']
    · rw [empty, show markSecret settings (.str "") = _ from rfl] at first
      rw [Masking.mark_text settings empty' found', ← first] at second
      cases second
  · rw [Masking.mark_text settings empty found] at first
    by_cases empty' : other = ""
    · rw [empty', show markSecret settings (.str "") = _ from rfl, ← first] at second
      cases second
    · rw [Masking.mark_text settings empty' found', ← first] at second
      have digests : digest' = digest := by simpa using second
      rw [fingerprint, if_pos settings.auditPepperLength] at found found'
      have bytes := (Except.ok.inj found).trans (digests.symm.trans (Except.ok.inj found').symm)
      exact utf8_encode_injective (injective (hexdigest_injective bytes))

/-! The two snapshots of an update. -/

theorem secret_not_base {spec : IntegrationType} (registered : spec ∈ integrationTypes) {name : String}
    (named : name ∈ spec.secretFieldNames) : name ∉ Masking.baseKeys := fun base =>
  Masking.base_open name base (Masking.key_known (Masking.secret_known registered named))

theorem before_lookup {spec : IntegrationType} (registered : spec ∈ integrationTypes)
    (instanceId : String) {before : InstanceRow} {name : String} (named : name ∈ spec.secretFieldNames)
    (publicKeys : ∀ key ∈ before.configPublic, key ∈ spec.publicFieldNames) :
    (beforeAudit instanceId spec before).lookup name =
      if (before.configSecretsEncrypted.lookup name).getD "" ≠ "" then some (.str "<existing>")
      else none := by
  have open_ : before.configPublic.lookup name = none := by
    apply AList.lookup_eq_none.mpr
    intro member
    obtain ⟨field, listed, same⟩ := List.mem_map.mp (publicKeys name member)
    have visible : field.secret = false := by simpa using (List.mem_filter.mp listed).2
    subst same
    exact Masking.public_open registered (List.mem_of_mem_filter listed) visible
      (Masking.key_known (Masking.secret_known registered named))
  have base := secret_not_base registered named
  rw [beforeAudit, History.lookup_merge, existing_lookup spec before named, History.lookup_merge, open_,
    History.base_lookup (by simp [Masking.baseKeys]) base, Option.or_none, Option.or_none]

/-- A secret that is given is told in the clear, any other as before. -/
theorem after_lookup {spec : IntegrationType} (registered : spec ∈ integrationTypes) {changes : Changes}
    {split : SplitConfig} {name : String} (named : name ∈ spec.secretFieldNames)
    (splits : Splits settings (opened spec.fields (changes.config.getD ∅))
      (hidden spec.fields (changes.config.getD ∅)) split) (under : Dict Json) :
    (Dict.merge (Dict.merge (Dict.merge under changes.audit) split.publicFields)
      (givenSecrets split)).lookup name =
        ((supplied (changes.config.getD ∅) name).map fun value => Json.str value.toStr).or
          (under.lookup name) := by
  have unchanged : changes.audit.lookup name = none := by
    apply History.base_lookup _ (secret_not_base registered named)
    simp only [List.mem_append, Option.mem_toList, Option.map_eq_some_iff]
    rintro entry ((⟨name, _, rfl⟩ | ⟨flag, _, rfl⟩) | ⟨flag, _, rfl⟩) <;> simp [Masking.baseKeys]
  rw [History.lookup_merge, given_lookup, splits.plaintext, hidden_secret named, History.lookup_merge,
    splits.publicFields, open_aside_secret registered named, Option.none_or, History.lookup_merge, unchanged,
    Option.none_or, Option.map_map]
  rfl

theorem mark_unique {value marked marked' : Json} (first : markSecret settings value = .ok marked)
    (second : markSecret settings value = .ok marked') : marked = marked' := by
  rw [first] at second
  exact Except.ok.inj second

/-- Markers of equal entries are equal. -/
theorem marker_same {entry marker marker' : Option Json}
    (first : Option.Rel (fun value marked => markSecret settings value = .ok marked) entry marker)
    (second : Option.Rel (fun value marked => markSecret settings value = .ok marked) entry marker') :
    marker = marker' := by
  cases first with
  | none =>
      cases second
      rfl
  | some marks =>
      cases second with
      | some marks' => rw [mark_unique marks marks']

/-- An empty envelope opens to nothing. -/
theorem plaintext_blank {row : InstanceRow} {name : String}
    (blank : (row.configSecretsEncrypted.lookup name).getD "" = "") :
    plaintextOf settings row name = none := by
  unfold plaintextOf
  cases found : row.configSecretsEncrypted.lookup name with
  | none => rfl
  | some envelope =>
      rw [found] at blank
      obtain rfl : envelope = "" := blank
      rw [Option.bind_some, decrypt, if_pos settings.masterKeyLength]
      rfl

theorem merged_plaintext (lawful : settings.aead.Lawful) {spec : IntegrationType} {changes : Changes}
    {split : SplitConfig} {name : String} (named : name ∈ spec.secretFieldNames)
    (splits : Splits settings (opened spec.fields (changes.config.getD ∅))
      (hidden spec.fields (changes.config.getD ∅)) split) (before : InstanceRow) (updatedBy : String)
    (updatedAt : Time) :
    plaintextOf settings (mergedDoc before changes split updatedBy updatedAt) name =
      ((supplied (changes.config.getD ∅) name).map Json.toStr).or (plaintextOf settings before name) := by
  simp only [plaintextOf, mergedDoc]
  rw [History.lookup_merge, ← hidden_secret named]
  cases given : hidden spec.fields (changes.config.getD ∅) name with
  | none => rw [sealed_none splits given, Option.none_or, Option.none_or]
  | some text =>
      obtain ⟨envelope, looked, seals⟩ := sealed_some splits given
      rw [looked, Option.some_or, Option.bind_some, seals_decrypt lawful seals]
      rfl

/-- Markers of entries that are there. -/
theorem marker_some {value : Json} {marker : Option Json}
    (rel : Option.Rel (fun value marked => markSecret settings value = .ok marked) (some value) marker) :
    ∃ marked, marker = some marked ∧ markSecret settings value = .ok marked := by
  cases rel with
  | some marks => exact ⟨_, rfl, marks⟩

/-- The markers of a text and of the sentinel. -/
theorem sentinel_iff (injective : Function.Injective (settings.hmacSha256 settings.auditPepper))
    {text : String} {marker marker' : Option Json}
    (first : Option.Rel (fun value marked => markSecret settings value = .ok marked)
      (some (.str "<existing>")) marker)
    (second : Option.Rel (fun value marked => markSecret settings value = .ok marked)
      (some (.str text)) marker') : marker = marker' ↔ text = "<existing>" := by
  constructor
  · intro same
    obtain ⟨marked, shown, marks⟩ := marker_some first
    obtain ⟨marked', shown', marks'⟩ := marker_some second
    rw [same, shown'] at shown
    rw [Option.some.inj shown] at marks'
    exact mark_injective injective marks' marks
  · rintro rfl
    exact marker_same first second

/-- An update whose event is in the log. -/
theorem logged_tells_iff (lawful : settings.aead.Lawful)
    (injective : Function.Injective (settings.hmacSha256 settings.auditPepper)) {spec : IntegrationType}
    (registered : spec ∈ integrationTypes) {name : String} (named : name ∈ spec.secretFieldNames)
    {before : InstanceRow} (publicKeys : ∀ key ∈ before.configPublic, key ∈ spec.publicFieldNames)
    {actor : CurrentUser} {instanceId : String} {changes : Changes} {requestId : Option String}
    {rows : List InstanceRow} {split : SplitConfig} {instant : Time}
    (splits : Splits settings (opened spec.fields (changes.config.getD ∅))
      (hidden spec.fields (changes.config.getD ∅)) split) {event : AdminAuditEvent}
    (recorded : Recorded settings
      (updateWrite actor instanceId changes requestId rows before spec split instant).event event) :
    Tells settings name before (mergedDoc before changes split actor.username instant) event ↔
      Clear settings before (changes.config.getD ∅) name := by
  have first := masked_marker recorded.before named
  have second := masked_marker recorded.after named
  rw [after_lookup registered named splits] at second
  rw [Tells, merged_plaintext lawful named splits]
  cases given : supplied (changes.config.getD ∅) name with
  | none =>
      rw [given, Option.map_none, Option.none_or] at second
      rw [Option.map_none, Option.none_or]
      have clear : Clear settings before (changes.config.getD ∅) name := by
        intro value _ there
        rw [given] at there
        cases there
      -- The update does not give the secret, so both views show the same.
      exact iff_of_true (iff_of_true (marker_same first second) rfl) clear
  | some value =>
      rw [given, Option.map_some, Option.some_or] at second
      rw [Option.map_some, Option.some_or]
      rw [before_lookup registered instanceId named publicKeys] at first
      by_cases filled : (before.configSecretsEncrypted.lookup name).getD "" ≠ ""
      · rw [if_pos filled] at first
        -- Two digests with one pepper are equal exactly for equal plaintexts.
        rw [sentinel_iff injective first second]
        obtain ⟨envelope, found⟩ : ∃ envelope, before.configSecretsEncrypted.lookup name = some envelope := by
          cases found : before.configSecretsEncrypted.lookup name with
          | none => exact absurd (by rw [found]; rfl) filled
          | some envelope => exact ⟨envelope, rfl⟩
        rw [found] at filled
        constructor
        · intro tells other sealed there _ _
          rw [given] at there
          obtain rfl := Option.some.inj there
          exact tells.symm
        · intro clear
          exact (clear value envelope given found filled).symm
      · -- Nothing was stored, so there is no marker before and no plaintext.
        rw [if_neg filled] at first
        have blank := not_not.mp filled
        obtain ⟨marked, shown, _⟩ := marker_some second
        have unmarked : markerOf name event.before = none := by
          generalize markerOf name event.before = marker at first
          cases first
          rfl
        rw [plaintext_blank blank, unmarked, shown]
        have clear : Clear settings before (changes.config.getD ∅) name := by
          intro _ envelope _ found nonempty
          rw [found] at blank
          exact absurd blank nonempty
        exact iff_of_true (iff_of_false nofun nofun) clear

/-- The log answers whether a secret changed exactly if the update gave no text over a stored
one, or one of which the sentinel says what the stored text does. -/
theorem markers_tell_iff (lawful : settings.aead.Lawful)
    (injective : Function.Injective (settings.hmacSha256 settings.auditPepper)) (actor : CurrentUser)
    {instanceId : String} (changes : Changes) (requestId : Option String) {world : World N}
    {before : InstanceRow} {spec : IntegrationType}
    (found : rowOf instanceId world.store = some before) (known : getType before.type = .ok spec)
    (publicKeys : ∀ key ∈ before.configPublic, key ∈ spec.publicFieldNames) {name : String}
    (named : name ∈ spec.secretFieldNames) :
    Leaves (exec outside) (update settings (revokeAllForInstance settings · · ·) actor instanceId changes
      requestId) world fun _ after => ∀ row event, rowOf instanceId after.store = some row →
        after.store.audits = world.store.audits ++ [event] →
          (Tells settings name before row event ↔ Clear settings before (changes.config.getD ∅) name) := by
  apply Prog.leaves_mono (leaves_update actor found known)
  intro outcome after ends row event there logged
  have unlogged (same : after.store.audits = world.store.audits) : False := by
    rw [same] at logged
    simpa using congrArg List.length logged
  cases ends with
  | refused _ _ _ idle => exact (unlogged idle.audits).elim
  | failed _ _ _ idle => exact (unlogged idle.audits).elim
  | unlogged _ _ _ _ _ _ audits => exact (unlogged audits).elim
  | logged write entry _ _ fit written instances audits recorded _ =>
      obtain ⟨split, instant, splits, rfl⟩ := written
      rw [audits] at logged
      obtain rfl : entry = event := by simpa using logged
      have stored : rowOf instanceId after.store =
          some (mergedDoc before changes split actor.username instant) := by
        rw [rowOf, instances]
        exact row_of_overwritten found rfl
      rw [there] at stored
      obtain rfl := Option.some.inj stored
      exact logged_tells_iff lawful injective (registered_of_type known) named publicKeys splits recorded

/-! A confidential client whose secret is submitted again, and one whose secret is new. -/

/-- Settings whose fingerprints have no collisions. -/
def openSettings : Settings := { sampleSettings with hmacSha256 := fun _ text => text }

theorem open_injective : Function.Injective (openSettings.hmacSha256 openSettings.auditPepper) :=
  fun _ _ same => same

def confidential (secret : String) : Dict Json :=
  Dict.ofList [("tenant_id", .str "t"), ("client_id", .str "c"), ("client_secret", .str secret)]

def firstWorld : World Unit :=
  ((create openSettings sampleUser "mail" "outlook-graph" "Mail" (confidential "s3cret")).run
    (exec (Outside.still unreachable)) ⟨Store.empty, ()⟩).2

def resubmitted (secret : String) : World Unit :=
  ((update openSettings (revokeAllForInstance openSettings · · ·) sampleUser "mail"
    { config := some (confidential secret) }).run (exec (Outside.still unreachable)) firstWorld).2

/-- What the update with a text leaves of the row and of the log. -/
def Answered (secret : String) : Prop :=
  ∀ before row event, rowOf "mail" firstWorld.store = some before →
    rowOf "mail" (resubmitted secret).store = some row →
      (resubmitted secret).store.audits = firstWorld.store.audits ++ [event] →
        Tells openSettings "client_secret" before row event

theorem first_plaintext {before : InstanceRow} (found : rowOf "mail" firstWorld.store = some before) :
    plaintextOf openSettings before "client_secret" = some "s3cret" := by
  cases found
  rfl

theorem new_secret_answered : Answered "n3w" := by
  intro before row event found there logged
  have known : getType before.type = .ok outlookGraph := by
    cases found
    rfl
  have publicKeys : ∀ key ∈ before.configPublic, key ∈ outlookGraph.publicFieldNames := by
    cases found
    decide
  have named : "client_secret" ∈ outlookGraph.secretFieldNames := by decide
  have tells : Leaves (exec (Outside.still unreachable)) _ firstWorld _ :=
    markers_tell_iff tagging_aead_lawful open_injective sampleUser { config := some (confidential "n3w") }
      none found known publicKeys named
  refine (tells row event there logged).mpr ?_
  intro value envelope given _ _
  have text : value = .str "n3w" := (Option.some.inj given).symm
  rw [first_plaintext found, text]
  exact iff_of_false (by decide) (by decide)

/-- The hash that a marker shows. -/
def hashOf : Option Json → Option String
  | some (.obj [_, (_, .str hash)]) => some hash
  | _ => none

/-- The same secret shows as changed, and another one as unchanged. -/
theorem resubmitted_misread : ¬ Answered "s3cret" ∧ ¬ Answered "<existing>" := by
  constructor
  · intro answered
    have tells := answered _ _ _ rfl rfl rfl
    have hashes := congrArg hashOf (tells.mpr rfl)
    exact absurd hashes (by decide)
  · intro answered
    have tells := answered _ _ _ rfl rfl rfl
    have texts := tells.mp rfl
    exact absurd texts (by decide)

end Lehen.Comparing
