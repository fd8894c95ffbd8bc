import Lehen.Concealing

/-!
The integration operations of two runs that differ in secrets, step by step.
-/

namespace Lehen.InstanceSecrets

open Storage Secrets OAuth AuditService Registry IntegrationsService ConnectionsService Entries
  Masking Twinning Concealing
open Footprint (Quick)

variable (settings : Settings) {pairs : List (String × String)} {masked : List String}

/-! Snapshots. -/

theorem drafted_base (fields : List (String × Json)) (base : ∀ entry ∈ fields, entry.1 ∈ baseKeys) :
    Entrywise (Drafted pairs masked) (Dict.ofList fields) (Dict.ofList fields) := by
  apply entrywise_of_list
  apply List.forall₂_same.mpr
  intro entry member
  exact ⟨rfl, .plain _ (base_open _ (base entry member))⟩

theorem drafted_changes (changes : Changes) :
    Entrywise (Drafted pairs masked) changes.audit changes.audit := by
  apply drafted_base
  simp only [List.mem_append, Option.mem_toList, Option.map_eq_some_iff]
  rintro entry ((⟨name, _, rfl⟩ | ⟨flag, _, rfl⟩) | ⟨flag, _, rfl⟩) <;> simp [baseKeys]

theorem drafted_merged {old old' new new' : Dict Json}
    (first : Entrywise (Drafted pairs masked) old old')
    (second : Entrywise (Drafted pairs masked) new new') :
    Entrywise (Drafted pairs masked) (Dict.merge old new) (Dict.merge old' new') :=
  entrywise_union second first

theorem drafted_public {fields : Dict Json} (open_ : ∀ key ∈ fields, key ∉ secretKeys) :
    Entrywise (Drafted pairs masked) fields fields := by
  apply entrywise_refl
  intro key member value
  exact .plain value (open_ key member)

theorem drafted_existing {spec : IntegrationType} (registered : spec ∈ integrationTypes)
    (row : InstanceRow) :
    Entrywise (Drafted pairs masked) (existingSecrets spec row) (existingSecrets spec row) := by
  apply entrywise_of_list
  apply List.forall₂_same.mpr
  intro entry member
  obtain ⟨name, listed, rfl⟩ := List.mem_map.mp member
  exact ⟨rfl, .existing (key_known (secret_known registered (List.mem_of_mem_filter listed)))⟩

/-- A snapshot of a stored row. -/
theorem drafted_stored {spec : IntegrationType} (registered : spec ∈ integrationTypes)
    (row : InstanceRow) {fields : List (String × Json)} (open_ : ∀ key ∈ row.configPublic, key ∉ secretKeys)
    (base : ∀ entry ∈ fields, entry.1 ∈ baseKeys) :
    Entrywise (Drafted pairs masked)
      (Dict.merge (Dict.merge (Dict.ofList fields) row.configPublic) (existingSecrets spec row))
      (Dict.merge (Dict.merge (Dict.ofList fields) row.configPublic) (existingSecrets spec row)) :=
  drafted_merged (drafted_merged (drafted_base fields base) (drafted_public open_))
    (drafted_existing registered row)

theorem drafted_plaintext {plaintext other : Dict String}
    (same : Entrywise (fun key text text' => (text, text') ∈ pairs ∧ (text = "" ↔ text' = "") ∧
      key ∈ secretKeys ∧ key ∈ masked) plaintext other) :
    Entrywise (Drafted pairs masked)
      (Dict.ofList (plaintext.entries.map fun entry => (entry.1, Json.str entry.2)))
      (Dict.ofList (other.entries.map fun entry => (entry.1, Json.str entry.2))) := by
  apply entrywise_of_list
  apply List.rel_map _ same
  rintro _ _ ⟨pair, both, known, named⟩
  exact ⟨rfl, .given _ _ known named pair both⟩

/-! Steps that both runs take. -/

theorem twin_now : Twin (Paired settings pairs) Eq now now :=
  twin_perform (Paired.clear Op.clock trivial)

theorem twin_uuid : Twin (Paired settings pairs) Eq uuid4 uuid4 :=
  twin_perform (Paired.clear Op.uuid4 trivial)

theorem clear_of_quick (op : Op) (quick : Quick op) : Clear op := by
  cases op with
  | store statement => cases quick
  | _ => trivial

theorem twin_request_id (requestId : Option String) :
    Twin (Paired settings pairs) Eq (requestIdOr requestId) (requestIdOr requestId) := by
  apply twin_only _ fun op clear => Paired.clear op clear
  exact Prog.only_of_straight (Footprint.quick_request_id requestId) clear_of_quick

/-- What two runs hand to the log. -/
structure SameDraft (pairs : List (String × String)) (event other : AuditEvent) : Prop where
  rest : other = { event with before := other.before, after := other.after }
  before : Option.Rel (Entrywise (Drafted pairs event.secretFields)) event.before other.before
  after : Option.Rel (Entrywise (Drafted pairs event.secretFields)) event.after other.after
  known : ∀ name ∈ event.secretFields, name ∈ secretKeys

theorem twin_record {event other : AuditEvent} (same : SameDraft pairs event other) :
    Twin (Paired settings pairs) (fun _ _ => True) (record settings event)
      (record settings other) := by
  have ⟨before, before', masks, masks', shownBefore⟩ :=
    mask_secrets_shown settings same.before same.known
  have ⟨after, after', maskAfter, maskAfter', shownAfter⟩ :=
    mask_secrets_shown settings same.after same.known
  have rest := same.rest
  cases event
  cases other
  cases rest
  apply twin_bind (twin_uuid settings)
  rintro id _ rfl
  apply twin_bind (twin_now settings)
  rintro ts _ rfl
  dsimp only at masks masks' maskAfter maskAfter' ⊢
  rw [masks, masks', maskAfter, maskAfter']
  apply twin_bind (twin_request_id settings _)
  rintro requestId _ rfl
  exact twin_perform (Paired.insertAudit _ _ ⟨rfl, shownBefore, shownAfter⟩)

theorem clear_of_cascading (op : Op) (cascading : Cascading op) : Clear op := by
  cases op with
  | store statement => cases statement <;> trivial
  | _ => trivial

/-- A cascade does the same in both runs. -/
theorem twin_cascading {α : Type} {body : Hub α} (only : body.Only Cascading) :
    Twin (Paired settings pairs) Eq body body :=
  twin_only only fun op cascading => Paired.clear op (clear_of_cascading op cascading)

theorem envelope_nonempty {text envelope : String} {key : Base64.Bytes} {nonce : Nonce}
    (sealed : encrypt settings.aead text key nonce = .ok envelope) : envelope ≠ "" := by
  unfold encrypt at sealed
  split at sealed
  · obtain rfl := Except.ok.inj sealed
    intro empty
    have decoded := Base64.decode_encode (currentVersion :: nonce.val ++
      settings.aead.encrypt key nonce.val (utf8Encode text))
    rw [empty] at decoded
    cases decoded
  · cases sealed

theorem twin_encrypt (text other : String) :
    Twin (Paired settings pairs) (fun envelope envelope' => envelope ≠ "" ∧ envelope' ≠ "")
      (encryptFresh settings text settings.masterKey)
      (encryptFresh settings other settings.masterKey) := by
  apply twin_perform_then (Paired.clear (Op.tokenBytes nonceLen) trivial)
  rintro nonce _ rfl
  have total (text : String) :
      ∃ envelope, encrypt settings.aead text settings.masterKey nonce = .ok envelope :=
    ⟨_, if_pos settings.masterKeyLength⟩
  have ⟨envelope, sealed⟩ := total text
  have ⟨envelope', sealed'⟩ := total other
  rw [sealed, sealed']
  exact .ret ⟨envelope_nonempty settings sealed, envelope_nonempty settings sealed'⟩

/-! Payloads that differ in secrets. -/

theorem veiled_blank {names : List String} {name : String} {value other : Json}
    (veiled : Veiled names name value other) : value.isBlank = other.isBlank := by
  cases veiled with
  | same value => rfl
  | secret text other known first second =>
      rw [Json.isBlank, Json.isBlank, beq_false_of_ne first, beq_false_of_ne second]

theorem veiled_null {names : List String} {name : String} {value other : Json}
    (veiled : Veiled names name value other) : value = .null ↔ other = .null := by
  cases veiled with
  | same value => exact Iff.rfl
  | secret text other known first second => exact ⟨nofun, nofun⟩

theorem veiled_texts {names : List String} {name : String} {value other : Json}
    (veiled : Veiled names name value other) : value.toStr = "" ↔ other.toStr = "" := by
  cases veiled with
  | same value => exact Iff.rfl
  | secret text other known first second =>
      exact ⟨fun empty => absurd empty first, fun empty => absurd empty second⟩

theorem veiled_open {names : List String} {name : String} {value other : Json}
    (veiled : Veiled names name value other) (open_ : name ∉ names) : value = other := by
  cases veiled with
  | same value => rfl
  | secret text other known first second => exact absurd known open_

theorem pair_given {names : List String} {config other : Dict Json} {name : String}
    {value value' : Json} (known : name ∈ names) (found : config.lookup name = some value)
    (found' : other.lookup name = some value') :
    (value.toStr, value'.toStr) ∈ secretPairs names config other :=
  List.mem_filterMap.mpr ⟨name, known, by rw [found, found']⟩

/-- What two runs make of such payloads. -/
structure SameSplit (pairs : List (String × String)) (masked : List String)
    (split other : SplitConfig) : Prop where
  publicFields : other.publicFields = split.publicFields
  public_ : ∀ key ∈ split.publicFields, key ∉ secretKeys
  encrypted : Entrywise SameSet split.encrypted other.encrypted
  plaintext : Entrywise (fun key text text' => (text, text') ∈ pairs ∧ (text = "" ↔ text' = "") ∧
    key ∈ secretKeys ∧ key ∈ masked) split.plaintext other.plaintext

theorem same_split_empty : SameSplit pairs masked ⟨∅, ∅, ∅⟩ ⟨∅, ∅, ∅⟩ where
  publicFields := rfl
  public_ := fun key member => absurd member (AList.notMem_empty key)
  encrypted := entrywise_empty
  plaintext := entrywise_empty

theorem split_absent {config : Dict Json} {field : FieldSpec} (found : config.lookup field.name = none)
    (split : SplitConfig) (rest : List FieldSpec) :
    splitFields settings config split (field :: rest) = (do
      Prog.require (¬ (field.required ∧ Json.null.isBlank))
        ⟨.integrationConfigError, s!"required field missing: {field.name}"⟩
      splitFields settings config split rest) := by
  rw [splitFields, found]
  rfl

theorem split_null {config : Dict Json} {field : FieldSpec}
    (found : config.lookup field.name = some .null) (split : SplitConfig) (rest : List FieldSpec) :
    splitFields settings config split (field :: rest) = (do
      Prog.require (¬ (field.required ∧ Json.null.isBlank))
        ⟨.integrationConfigError, s!"required field missing: {field.name}"⟩
      splitFields settings config split rest) := by
  rw [splitFields, found]
  rfl

theorem split_given {config : Dict Json} {field : FieldSpec} {value : Json}
    (found : config.lookup field.name = some value) (present : value ≠ .null) (split : SplitConfig)
    (rest : List FieldSpec) :
    splitFields settings config split (field :: rest) = (do
      Prog.require (¬ (field.required ∧ value.isBlank))
        ⟨.integrationConfigError, s!"required field missing: {field.name}"⟩
      if field.secret then do
        let envelope ← encryptFresh settings value.toStr settings.masterKey
        splitFields settings config
          { split with
            encrypted := split.encrypted.insert field.name envelope
            plaintext := split.plaintext.insert field.name value.toStr } rest
      else
        splitFields settings config
          { split with publicFields := split.publicFields.insert field.name value } rest) := by
  rw [splitFields, found]
  cases value with
  | null => exact absurd rfl present
  | _ => rfl

theorem twin_split_fields {spec : IntegrationType} (registered : spec ∈ integrationTypes)
    {config other : Dict Json} (veiled : Entrywise (Veiled secretNames) config other)
    (given : ∀ pair ∈ secretPairs secretNames config other, pair ∈ pairs) (fields : List FieldSpec)
    (inside : ∀ field ∈ fields, field ∈ spec.fields) {split split' : SplitConfig}
    (same : SameSplit pairs spec.secretFieldNames split split') :
    Twin (Paired settings pairs) (SameSplit pairs spec.secretFieldNames)
      (splitFields settings config split fields) (splitFields settings other split' fields) := by
  -- The two loops take the same branch for each field, since veiled entries are blank together.
  induction fields generalizing split split' with
  | nil => exact .ret same
  | cons field rest ih =>
      have known := inside field List.mem_cons_self
      have later : ∀ field ∈ rest, field ∈ spec.fields := fun field member =>
        inside field (List.mem_cons_of_mem _ member)
      rcases lookup_cases veiled field.name with ⟨found, found'⟩ | ⟨value, value', found, found', values⟩
      · rw [split_absent settings found, split_absent settings found']
        exact twin_require_then fun _ => ih later same
      · by_cases null : value = .null
        · rw [null] at found
          rw [(veiled_null values).mp null] at found'
          rw [split_null settings found, split_null settings found']
          exact twin_require_then fun _ => ih later same
        · have null' : value' ≠ .null := fun null' => null ((veiled_null values).mpr null')
          rw [split_given settings found null, split_given settings found' null', veiled_blank values]
          apply twin_require_then
          intro _
          by_cases secret : field.secret = true
          · rw [if_pos secret, if_pos secret]
            have listed := Conforming.secret_name known secret
            have named := secret_known registered listed
            apply twin_bind (twin_encrypt settings _ _)
            rintro envelope envelope' ⟨filled, filled'⟩
            apply ih later
            refine ⟨same.publicFields, same.public_, ?_, ?_⟩
            · exact entrywise_insert same.encrypted
                ⟨fun empty => absurd empty filled, fun empty => absurd empty filled'⟩
            · exact entrywise_insert same.plaintext ⟨given _ (pair_given named found found'),
                veiled_texts values, key_known named, listed⟩
          · rw [if_neg secret, if_neg secret]
            have open_ := public_open registered known (Bool.eq_false_iff.mpr secret)
            obtain rfl := veiled_open values fun named => open_ (key_known named)
            apply ih later
            refine ⟨by rw [same.publicFields], ?_, same.encrypted, same.plaintext⟩
            intro key member
            rcases (AList.mem_insert _).mp member with rfl | earlier
            · exact open_
            · exact same.public_ key earlier

theorem twin_split_config {spec : IntegrationType} (registered : spec ∈ integrationTypes)
    {config other : Dict Json} (veiled : Entrywise (Veiled secretNames) config other)
    (given : ∀ pair ∈ secretPairs secretNames config other, pair ∈ pairs) :
    Twin (Paired settings pairs) (SameSplit pairs spec.secretFieldNames)
      (splitConfig settings spec config) (splitConfig settings spec other) := by
  unfold splitConfig
  rw [entrywise_keys veiled]
  apply twin_require_then
  intro _
  exact twin_split_fields settings registered veiled given spec.fields (fun _ member => member)
    same_split_empty

theorem twin_split_changes {spec : IntegrationType} (registered : spec ∈ integrationTypes)
    {changes other : Changes}
    (veiled : Option.Rel (Entrywise (Veiled secretNames)) changes.config other.config)
    (given : ∀ pair ∈ secretPairs secretNames (changes.config.getD ∅) (other.config.getD ∅),
      pair ∈ pairs) :
    Twin (Paired settings pairs) (SameSplit pairs spec.secretFieldNames)
      (splitChanges settings spec changes) (splitChanges settings spec other) := by
  obtain ⟨_, config, _, _⟩ := changes
  obtain ⟨_, config', _, _⟩ := other
  dsimp only [splitChanges] at veiled given ⊢
  cases veiled with
  | none => exact .ret same_split_empty
  | some veiled => exact twin_split_config settings registered veiled given

/-! The operations. -/

variable {settings}

theorem same_empty {rows other : List InstanceRow} (same : List.Forall₂ SameRow rows other) :
    rows.isEmpty = other.isEmpty := by
  cases same <;> rfl

theorem twin_create (actor : CurrentUser) (instanceId typeId displayName : String)
    {config other : Dict Json} (multi enabled : Bool) (requestId : Option String)
    (veiled : Entrywise (Veiled secretNames) config other)
    (given : ∀ pair ∈ secretPairs secretNames config other, pair ∈ pairs) :
    Twin (Paired settings pairs) Eq
      (create settings actor instanceId typeId displayName config multi enabled requestId)
      (create settings actor instanceId typeId displayName other multi enabled requestId) := by
  apply twin_lift_then
  intro spec found
  have registered := registered_of_type (type_of_reworded found)
  apply twin_require_then
  intro _
  apply twin_perform_then (Paired.selectInstance instanceId)
  intro existing existing' rows
  rw [same_empty rows]
  apply twin_require_then
  intro _
  apply twin_bind (twin_split_config settings registered veiled given)
  intro split split' same
  apply twin_bind (twin_now settings)
  rintro instant _ rfl
  -- The two rows differ in their envelopes alone.
  have row : SameRow
      { id := instanceId, type := typeId, displayName, configPublic := split.publicFields
        configSecretsEncrypted := split.encrypted, enabled, multiConnectionAllowed := multi
        createdBy := actor.username, createdAt := instant
        updatedBy := actor.username, updatedAt := instant }
      { id := instanceId, type := typeId, displayName, configPublic := split'.publicFields
        configSecretsEncrypted := split'.encrypted, enabled, multiConnectionAllowed := multi
        createdBy := actor.username, createdAt := instant
        updatedBy := actor.username, updatedAt := instant } :=
    ⟨by rw [same.publicFields], same.encrypted, same.public_⟩
  apply twin_perform_then (Paired.insertInstance _ _ row)
  intro _ _ _
  apply twin_bind
  · apply twin_record
    refine ⟨rfl, .none, .some ?_, fun name named => key_known (secret_known registered named)⟩
    rw [same.publicFields]
    exact drafted_merged (drafted_merged (drafted_base _ (by simp [baseKeys]))
      (drafted_public same.public_)) (drafted_plaintext same.plaintext)
  · intro _ _ _
    exact .ret (render_same row)

/-- The row an operation begins with. -/
theorem twin_raw_get (instanceId : String) :
    Twin (Paired settings pairs) SameRow (rawGet instanceId) (rawGet instanceId) := by
  apply twin_perform_then (Paired.selectInstance instanceId)
  intro rows rows' same
  cases same with
  | nil => exact .raise _
  | cons first rest => exact .ret first

theorem twin_get (instanceId : String) :
    Twin (Paired settings pairs) Eq (get instanceId) (get instanceId) := by
  apply twin_perform_then (Paired.selectInstance instanceId)
  intro rows rows' same
  cases same with
  | nil => exact .raise _
  | cons first rest => exact .ret (render_same first)

theorem twin_list : Twin (Paired settings pairs) Eq list list := by
  apply twin_perform_then Paired.selectInstances
  intro rows rows' same
  apply Twin.ret
  induction same with
  | nil => rfl
  | cons first _ ih => rw [List.map_cons, List.map_cons, render_same first, ih]

theorem merged_same {before before' : InstanceRow} {changes changes' : Changes}
    {split split' : SplitConfig} (updatedBy : String) (updatedAt : Time)
    (rows : SameRow before before') (rest : changes' = { changes with config := changes'.config })
    (same : SameSplit pairs masked split split') :
    SameRow (mergedDoc before changes split updatedBy updatedAt)
      (mergedDoc before' changes' split' updatedBy updatedAt) := by
  refine ⟨?_, entrywise_union same.encrypted rows.secrets, ?_⟩
  · rw [rest, rows.rest, mergedDoc, mergedDoc, same.publicFields]
  · intro key member
    rcases AList.mem_union.mp member with added | kept
    · exact same.public_ key added
    · exact rows.public_ key kept

theorem twin_update (actor : CurrentUser) (instanceId : String) {changes other : Changes}
    (requestId : Option String) (rest : other = { changes with config := other.config })
    (veiled : Option.Rel (Entrywise (Veiled secretNames)) changes.config other.config)
    (given : ∀ pair ∈ secretPairs secretNames (changes.config.getD ∅) (other.config.getD ∅),
      pair ∈ pairs) :
    Twin (Paired settings pairs) Eq
      (update settings (revokeAllForInstance settings · · ·) actor instanceId changes requestId)
      (update settings (revokeAllForInstance settings · · ·) actor instanceId other requestId) := by
  obtain ⟨displayName, config, enabled, multi⟩ := changes
  obtain ⟨displayName', config', enabled', multi'⟩ := other
  have laid := rest
  cases rest
  apply twin_bind (twin_raw_get instanceId)
  intro before before' rows
  have existing := existing_same rows
  have same := rows.rest
  cases before
  cases before'
  cases same
  apply twin_lift_then
  intro spec found
  have registered := registered_of_type found
  apply twin_require_then
  intro _
  apply twin_bind (twin_split_changes settings registered veiled given)
  intro split split' splits
  apply twin_bind (twin_now settings)
  rintro instant _ rfl
  -- Both rows are merged from rows that differ in secrets alone.
  have merged := merged_same actor.username instant rows laid splits
  apply twin_perform_then (Paired.updateInstance instanceId _ _ merged)
  intro _ _ _
  apply twin_bind
  · apply twin_record
    rw [← existing spec, splits.publicFields]
    refine ⟨rfl, .some ?_, .some ?_, fun name named => key_known (secret_known registered named)⟩
    · exact drafted_stored registered _ rows.public_ (by simp [baseKeys])
    · refine drafted_merged ?_ (drafted_plaintext splits.plaintext)
      refine drafted_merged ?_ (drafted_public splits.public_)
      refine drafted_merged ?_ (drafted_changes _)
      exact drafted_stored registered _ rows.public_ (by simp [baseKeys])
  · intro _ _ _
    apply twin_bind
    · apply twin_when
      exact twin_cascading settings (cascading_revoke_all ..)
    · rintro _ _ _
      exact .ret (render_same merged)

theorem twin_delete (actor : CurrentUser) (instanceId : String) (requestId : Option String) :
    Twin (Paired settings pairs) Eq
      (delete settings (revokeAllForInstance settings · · ·) actor instanceId requestId)
      (delete settings (revokeAllForInstance settings · · ·) actor instanceId requestId) := by
  apply twin_bind (twin_raw_get instanceId)
  intro before before' rows
  have existing := existing_same rows
  have same := rows.rest
  cases before
  cases before'
  cases same
  apply twin_bind
  · exact twin_cascading settings (cascading_revoke_all ..)
  · intro _ _ _
    apply twin_perform_then (Paired.deleteInstance instanceId)
    intro _ _ _
    apply twin_lift_then
    intro spec found
    have registered := registered_of_type found
    apply twin_mono
    · apply twin_record
      rw [← existing spec]
      refine ⟨rfl, .some ?_, .none, fun name named => key_known (secret_known registered named)⟩
      exact drafted_stored registered _ rows.public_ (by simp [baseKeys])
    · exact fun _ _ _ => rfl

end Lehen.InstanceSecrets
