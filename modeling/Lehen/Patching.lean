import Lehen.Splitting

/-!
An update that gives some fields of a config. What comes in is laid over what is stored,
but it is validated alone.
-/

namespace Lehen.Patching

open Storage Secrets OAuth AuditService Registry IntegrationsService ConnectionsService Splitting
open Conforming (Conforms)
open Editing (Seals)
open Prog (Leaves)

variable {N : Type} (settings : Settings)

/-- The value a stored instance has for a field, secrets in the clear. -/
def held (row : InstanceRow) (field : FieldSpec) : Option Json :=
  if field.secret then
    (row.configSecretsEncrypted.lookup field.name).bind fun envelope =>
      (decrypt settings.aead envelope settings.masterKey).toOption.map Json.str
  else row.configPublic.lookup field.name

/-- The stored configuration, overlaid with what a config gives. -/
def overlaid (row : InstanceRow) (config : Dict Json) (field : FieldSpec) : Option Json :=
  (supplied config field.name).or (held settings row field)

/-- The overlay fills every required field, and the config names no other fields. -/
structure Admissible (spec : IntegrationType) (row : InstanceRow) (config : Dict Json) : Prop where
  known : ∀ name ∈ config, name ∈ spec.fields.map FieldSpec.name
  filled : ∀ field ∈ spec.fields, field.required = true →
    ∃ value, overlaid settings row config field = some value ∧ value.isBlank = false

/-- A row after its configuration was overlaid. -/
structure Patched (spec : IntegrationType) (config : Dict Json) (before after : InstanceRow) : Prop where
  publicFields : ∀ name, after.configPublic.lookup name =
    (opened spec.fields config name).or (before.configPublic.lookup name)
  kept : ∀ name, hidden spec.fields config name = none →
    after.configSecretsEncrypted.lookup name = before.configSecretsEncrypted.lookup name
  rotated : ∀ name text, hidden spec.fields config name = some text →
    ∃ envelope, after.configSecretsEncrypted.lookup name = some envelope ∧
      decrypt settings.aead envelope settings.masterKey = .ok text
  rest : after = { before with
    configPublic := after.configPublic
    configSecretsEncrypted := after.configSecretsEncrypted
    updatedBy := after.updatedBy
    updatedAt := after.updatedAt }

/-- A patch is accepted exactly if the overlay is complete, and then the overlay is stored. -/
structure Lawful (spec : IntegrationType) (config : Dict Json) (instanceId : String) (before : InstanceRow)
    (outcome : Except PyError InstanceView) (after : Store) : Prop where
  accepted : (∃ view, outcome = .ok view) ↔ Admissible settings spec before config
  stored : (∃ view, outcome = .ok view) →
    ∃ row, rowOf instanceId after = some row ∧ Patched settings spec config before row

/-- A config that gives every required field, or one that no overlay makes complete. -/
def Whole (spec : IntegrationType) (config : Dict Json) : Prop :=
  (∃ name ∈ config, name ∉ spec.fields.map FieldSpec.name) ∨
    (∃ field ∈ spec.fields, field.required = true ∧ config.lookup field.name = some (.str "")) ∨
      ∀ field ∈ spec.fields, field.required = true → supplied config field.name ≠ none

variable {settings} {outside : Outside N}

theorem seals_decrypt (lawful : settings.aead.Lawful) {envelope text : String}
    (seals : Seals settings envelope text) :
    decrypt settings.aead envelope settings.masterKey = .ok text := by
  obtain ⟨nonce, sealed⟩ := seals
  exact decrypt_encrypt lawful text settings.masterKey nonce envelope sealed

/-- A conforming instance has a value in every required field. -/
theorem held_filled (lawful : settings.aead.Lawful) {spec : IntegrationType} {row : InstanceRow}
    (conforms : Conforms settings spec row) {field : FieldSpec} (known : field ∈ spec.fields)
    (needed : field.required = true) :
    ∃ value, held settings row field = some value ∧ value.isBlank = false := by
  cases secret : field.secret with
  | true =>
      obtain ⟨envelope, text, found, seals, nonempty⟩ := conforms.secretRequired field known needed secret
      refine ⟨.str text, ?_, beq_false_of_ne nonempty⟩
      rw [held, if_pos secret, found, Option.bind_some, seals_decrypt lawful seals]
      rfl
  | false =>
      obtain ⟨value, found, filled⟩ := conforms.publicRequired field known needed secret
      refine ⟨value, ?_, filled⟩
      rw [held, secret]
      exact found

theorem blank_cases {value : Json} (present : value ≠ .null) (blank : value.isBlank = true) :
    value = .str "" := by
  cases value with
  | null => exact absurd rfl present
  | str text => rw [show text = "" by simpa [Json.isBlank] using blank]
  | _ => cases blank

/-- Only an empty text makes a required field of the overlay empty. -/
theorem filled_iff (lawful : settings.aead.Lawful) {spec : IntegrationType} {row : InstanceRow}
    (conforms : Conforms settings spec row) {field : FieldSpec} (known : field ∈ spec.fields)
    (needed : field.required = true) (config : Dict Json) :
    (∃ value, overlaid settings row config field = some value ∧ value.isBlank = false) ↔
      config.lookup field.name ≠ some (.str "") := by
  cases given : supplied config field.name with
  | none =>
      rw [overlaid, given, Option.none_or]
      have unemptied : config.lookup field.name ≠ some (.str "") := by
        rcases supplied_missing given with absent | null
        · simp [absent]
        · simp [null]
      exact iff_of_true (held_filled lawful conforms known needed) unemptied
  | some value =>
      obtain ⟨found, present⟩ := supplied_given given
      rw [overlaid, given, found, Option.some_or]
      constructor
      · rintro ⟨_, ⟨⟩, filled⟩ empty
        obtain rfl := Option.some.inj empty
        cases filled
      · intro unemptied
        refine ⟨value, rfl, ?_⟩
        by_contra blank
        rw [blank_cases present (by simpa using blank)] at unemptied
        exact unemptied rfl

/-- What the validation asks of a required field, which sees the config alone. -/
theorem required_iff (config : Dict Json) (name : String) :
    ((config.lookup name).getD .null).isBlank = false ↔
      supplied config name ≠ none ∧ config.lookup name ≠ some (.str "") := by
  cases given : supplied config name with
  | none =>
      rcases supplied_missing given with absent | null
      · simp [absent, Json.isBlank]
      · simp [null, Json.isBlank]
  | some value =>
      obtain ⟨found, present⟩ := supplied_given given
      rw [found, Option.getD_some]
      constructor
      · intro filled
        constructor
        · rintro ⟨⟩
        · rintro ⟨⟩
          cases filled
      · rintro ⟨_, unemptied⟩
        by_contra blank
        rw [blank_cases present (by simpa using blank)] at unemptied
        exact unemptied rfl

/-- The two acceptance conditions agree on the whole configs, and on no others. -/
theorem accepts_iff_whole (lawful : settings.aead.Lawful) {spec : IntegrationType} {row : InstanceRow}
    (conforms : Conforms settings spec row) (config : Dict Json) :
    (Accepts spec config ↔ Admissible settings spec row config) ↔ Whole spec config := by
  have admitted : Admissible settings spec row config ↔
      (∀ name ∈ config, name ∈ spec.fields.map FieldSpec.name) ∧
        ∀ field ∈ spec.fields, field.required = true → config.lookup field.name ≠ some (.str "") := by
    constructor
    · intro admissible
      refine ⟨admissible.known, fun field known needed => ?_⟩
      exact (filled_iff lawful conforms known needed config).mp (admissible.filled field known needed)
    · rintro ⟨known, unemptied⟩
      refine ⟨known, fun field listed needed => ?_⟩
      exact (filled_iff lawful conforms listed needed config).mpr (unemptied field listed needed)
  rw [admitted]
  constructor
  · intro same
    by_cases known : ∀ name ∈ config, name ∈ spec.fields.map FieldSpec.name
    · by_cases unemptied : ∀ field ∈ spec.fields, field.required = true →
          config.lookup field.name ≠ some (.str "")
      · have accepts := same.mpr ⟨known, unemptied⟩
        refine .inr (.inr fun field listed needed => ?_)
        exact ((required_iff config field.name).mp (accepts.required field listed needed)).1
      · push Not at unemptied
        exact .inr (.inl unemptied)
    · push Not at known
      exact .inl known
  · intro whole
    constructor
    · intro accepts
      refine ⟨accepts.known, fun field listed needed => ?_⟩
      exact ((required_iff config field.name).mp (accepts.required field listed needed)).2
    · rintro ⟨known, unemptied⟩
      rcases whole with ⟨name, member, unknown⟩ | ⟨field, listed, needed, emptied⟩ | given
      · exact absurd (known name member) unknown
      · exact absurd emptied (unemptied field listed needed)
      · refine ⟨known, fun field listed needed => ?_⟩
        exact (required_iff config field.name).mpr ⟨given field listed needed, unemptied field listed needed⟩

/-- What an accepted patch stores. -/
theorem merged_patched (lawful : settings.aead.Lawful) {spec : IntegrationType} {config : Dict Json}
    {split : SplitConfig} (splits : Splits settings (opened spec.fields config) (hidden spec.fields config)
      split) (before : InstanceRow) (updatedBy : String) (updatedAt : Time) :
    Patched settings spec config before
      (mergedDoc before { config := some config } split updatedBy updatedAt) := by
  constructor
  · intro name
    simp only [mergedDoc]
    rw [History.lookup_merge, splits.publicFields]
  · intro name unset
    simp only [mergedDoc]
    rw [History.lookup_merge, sealed_none splits unset, Option.none_or]
  · intro name text given
    simp only [mergedDoc]
    obtain ⟨envelope, looked, seals⟩ := sealed_some splits given
    refine ⟨envelope, ?_, seals_decrypt lawful seals⟩
    rw [History.lookup_merge, looked, Option.some_or]
  · rfl

theorem row_of_overwritten {instanceId : String} {store : Store} {before doc : InstanceRow}
    (found : rowOf instanceId store = some before) (same : doc.id = before.id) :
    ((store.instances.map fun row => if row.id = instanceId then doc else row).find? fun row =>
      row.id = instanceId) = some doc := by
  have own : before.id = instanceId := by simpa using List.find?_some found
  have matched : decide (doc.id = instanceId) = true := decide_eq_true (same.trans own)
  have overwritten := Editing.find_overwritten found matched
  simp only [decide_eq_true_eq] at overwritten
  exact overwritten

/-- A patch meets its contract exactly if the config is whole. -/
theorem patch_lawful_iff (lawful : settings.aead.Lawful) (reliable : outside.Reliable)
    (actor : CurrentUser) {instanceId : String} (config : Dict Json) (requestId : Option String)
    {world : World N} {before : InstanceRow} {spec : IntegrationType}
    (found : rowOf instanceId world.store = some before) (known : getType before.type = .ok spec)
    (conforms : Conforms settings spec before) :
    Leaves (exec outside) (update settings (revokeAllForInstance settings · · ·) actor instanceId
      { config := some config } requestId) world fun outcome after =>
        Lawful settings spec config instanceId before outcome after.store ↔ Whole spec config := by
  apply Prog.leaves_mono (leaves_update actor found known)
  rintro outcome after ends
  rw [← accepts_iff_whole lawful conforms config]
  have permits_iff : Permits spec { config := some config } ↔ Accepts spec config := by
    constructor
    · exact fun permits => permits.config config rfl
    · intro accepts
      refine ⟨by simp, ?_⟩
      rintro _ ⟨⟩
      exact accepts
  cases ends with
  | refused error _ unfit _ =>
      have unaccepted : ¬ Accepts spec config := fun accepts => unfit (permits_iff.mpr accepts)
      have raised : ¬ ∃ view, (Except.error error : Except PyError InstanceView) = .ok view := nofun
      constructor
      · intro law
        exact iff_of_false unaccepted fun admissible => raised (law.accepted.mpr admissible)
      · intro same
        exact ⟨iff_of_false raised fun admissible => unaccepted (same.mpr admissible),
          fun returned => absurd returned raised⟩
  | failed error _ faulty _ => exact absurd reliable faulty
  | unlogged write error _ faulty _ _ _ => exact absurd reliable faulty
  | logged write entry _ _ fit written instances _ _ returned =>
      obtain ⟨view, rfl⟩ := returned reliable rfl
      have accepts := permits_iff.mp fit
      obtain ⟨split, instant, splits, rfl⟩ := written
      have stored : rowOf instanceId after.store =
          some (mergedDoc before { config := some config } split actor.username instant) := by
        rw [rowOf, instances]
        exact row_of_overwritten found rfl
      constructor
      · intro law
        exact iff_of_true accepts (law.accepted.mp ⟨view, rfl⟩)
      · intro same
        exact ⟨iff_of_true ⟨view, rfl⟩ (same.mp accepts),
          fun _ => ⟨_, stored, merged_patched lawful splits before _ _⟩⟩

/-! A secret that is rotated alone, and one that comes with the rest of its config. -/

def sampleRow : InstanceRow :=
  { id := "mail", type := "outlook-graph", displayName := "Mail"
    configPublic := Dict.ofList [("tenant_id", .str "t"), ("client_id", .str "c")]
    configSecretsEncrypted := ∅, enabled := true, multiConnectionAllowed := false
    createdBy := "ann", createdAt := 0, updatedBy := "ann", updatedAt := 0 }

def sampleWorld : World Unit := ⟨{ Store.empty with instances := [sampleRow] }, ()⟩

theorem sample_conforms : Conforms sampleSettings outlookGraph sampleRow := by
  constructor
  · decide
  · decide
  · intro field known needed open_
    simp only [outlookGraph, List.mem_cons, List.not_mem_nil, or_false] at known
    rcases known with rfl | rfl | rfl
    · exact ⟨.str "t", rfl, by decide⟩
    · exact ⟨.str "c", rfl, by decide⟩
    · cases needed
  · intro field known needed secret
    simp only [outlookGraph, List.mem_cons, List.not_mem_nil, or_false] at known
    rcases known with rfl | rfl | rfl
    · cases secret
    · cases secret
    · cases needed
  · decide

def rotation : Dict Json := Dict.ofList [("client_secret", .str "n3w")]

def restated : Dict Json :=
  Dict.ofList [("tenant_id", .str "t"), ("client_id", .str "c"), ("client_secret", .str "n3w")]

def patched (config : Dict Json) : Except PyError InstanceView × World Unit :=
  (update sampleSettings (revokeAllForInstance sampleSettings · · ·) sampleUser "mail"
    { config := some config }).run (exec (Outside.still unreachable)) sampleWorld

theorem restated_lawful :
    Lawful sampleSettings outlookGraph restated "mail" sampleRow (patched restated).1
      (patched restated).2.store := by
  have found : rowOf "mail" sampleWorld.store = some sampleRow := rfl
  have known : getType sampleRow.type = .ok outlookGraph := rfl
  have lawful := patch_lawful_iff tagging_aead_lawful (still_reliable unreachable) sampleUser restated none
    found known sample_conforms
  refine lawful.mpr (.inr (.inr ?_))
  decide

/-- The stored config with a new secret is complete, and it is refused. -/
theorem rotation_refused :
    (patched rotation).1 = .error ⟨.integrationConfigError, "required field missing: tenant_id"⟩ ∧
      Admissible sampleSettings outlookGraph sampleRow rotation ∧
        ¬ Lawful sampleSettings outlookGraph rotation "mail" sampleRow (patched rotation).1
          (patched rotation).2.store := by
  have refused : (patched rotation).1 =
      .error ⟨.integrationConfigError, "required field missing: tenant_id"⟩ := rfl
  have admissible : Admissible sampleSettings outlookGraph sampleRow rotation := by
    constructor
    · decide
    · intro field listed needed
      apply (filled_iff tagging_aead_lawful sample_conforms listed needed rotation).mpr
      simp only [outlookGraph, List.mem_cons, List.not_mem_nil, or_false] at listed
      rcases listed with rfl | rfl | rfl
      · nofun
      · nofun
      · cases needed
  refine ⟨refused, admissible, fun lawful => ?_⟩
  obtain ⟨view, returned⟩ := lawful.accepted.mpr admissible
  rw [refused] at returned
  cases returned

end Lehen.Patching
