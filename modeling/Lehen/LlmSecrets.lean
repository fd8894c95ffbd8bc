import Lehen.InstanceSecrets

/-!
The LLM operations of two runs that differ in secrets, and what follows for a
sequence of admin operations.
-/

namespace Lehen.LlmSecrets

open Storage Secrets OAuth AuditService Entries Masking Twinning Concealing InstanceSecrets LlmService
open Registry (FieldSpec)
open Configuring (registered_of_provider registered_of_resolve)

variable {N : Type} (settings : Settings) {pairs : List (String × String)} {masked : List String}

/-! Keys of the providers' fields. -/

/-- Where the value of a field stands, and how a snapshot names it. -/
structure FieldKeys (side : Side) (field : FieldSpec) : Prop where
  named : field.name ∈ llmSecretNames ↔ field.secret = true
  shown : side.key field.name ∈ secretKeys ↔ field.secret = true
  stored : side.key field.name ∉ envelopeKeys
  sealed : field.secret = true → side.encryptedKey field.name ∈ envelopeKeys

instance (side : Side) (field : FieldSpec) : Decidable (FieldKeys side field) :=
  decidable_of_iff
    ((field.name ∈ llmSecretNames ↔ field.secret = true) ∧
      (side.key field.name ∈ secretKeys ↔ field.secret = true) ∧
      side.key field.name ∉ envelopeKeys ∧
      (field.secret = true → side.encryptedKey field.name ∈ envelopeKeys))
    ⟨fun all => ⟨all.1, all.2.1, all.2.2.1, all.2.2.2⟩,
      fun keys => ⟨keys.named, keys.shown, keys.stored, keys.sealed⟩⟩

theorem field_keys (side : Side) {provider : LlmProvider} (registered : provider ∈ llmProviders)
    {field : FieldSpec} (known : field ∈ provider.fields) : FieldKeys side field := by
  have all : ∀ provider ∈ llmProviders, ∀ field ∈ provider.fields, FieldKeys side field := by
    cases side <;> decide +kernel
  exact all provider registered field known

theorem provider_key (side : Side) :
    side.key "provider" ∉ envelopeKeys ∧ side.key "provider" ∉ secretKeys := by
  cases side <;> decide +kernel

/-! Documents read alike. -/

theorem holds_same {raw other : Dict Json} (same : SameDoc raw other) (key : String) :
    holds raw key = holds other key := by
  unfold holds
  rcases lookup_cases same key with ⟨absent, absent'⟩ | ⟨value, value', found, found', values⟩
  · rw [absent, absent']
  · rw [found, found']
    exact values.1

theorem provider_same {raw other : Dict Json} (same : SameDoc raw other) (side : Side) :
    providerOf raw side = providerOf other side := by
  rw [providerOf, providerOf, lookup_same_doc same (provider_key side).1]

theorem render_side_same {raw other : Dict Json} (same : SameDoc raw other) (side : Side) :
    renderSide raw side = renderSide other side := by
  have plain : side.key "model" ∉ envelopeKeys ∧ side.key "base_url" ∉ envelopeKeys := by
    cases side <;> decide +kernel
  unfold renderSide
  rw [← provider_same same, lookup_same_doc same (provider_key side).1,
    lookup_same_doc same plain.1, lookup_same_doc same plain.2]
  cases found : providerOf raw side with
  | none => rfl
  | some spec =>
      have fields : spec.fields.map (renderField raw side) = spec.fields.map (renderField other side) := by
        apply List.map_congr_left
        intro field known
        have keys := field_keys side (registered_of_provider found) known
        rw [renderField, renderField, holds_same same, lookup_same_doc same keys.stored]
      dsimp only
      rw [fields]

theorem render_llm_same {raw other : Dict Json} (same : SameDoc raw other) :
    renderForRead raw = renderForRead other := by
  have plain : "updated_by" ∉ envelopeKeys ∧ "updated_at" ∉ envelopeKeys := by decide +kernel
  rw [renderForRead, renderForRead, render_side_same same, render_side_same same,
    lookup_same_doc same plain.1, lookup_same_doc same plain.2]

theorem audit_side_same {raw other : Dict Json} (same : SameDoc raw other) (side : Side) :
    auditSide raw side = auditSide other side := by
  unfold auditSide
  rw [← provider_same same]
  cases found : providerOf raw side with
  | none => rfl
  | some spec =>
      apply List.filterMap_congr
      intro field known
      have keys := field_keys side (registered_of_provider found) known
      rw [auditField, auditField, holds_same same, lookup_same_doc same keys.stored]

theorem audit_view_same {raw other : Dict Json} (same : SameDoc raw other) :
    auditView raw = auditView other := by
  have plain : "inference_provider" ∉ envelopeKeys ∧ "embedding_provider" ∉ envelopeKeys := by
    decide +kernel
  rw [auditView, auditView, audit_side_same same, audit_side_same same,
    lookup_same_doc same plain.1, lookup_same_doc same plain.2]

theorem drafted_view (raw : Dict Json) :
    Entrywise (Drafted pairs masked) (auditView raw) (auditView raw) := by
  -- A side shows its secrets as markers and its other fields as they are.
  have side (side : Side) : ∀ entry ∈ auditSide raw side,
      Drafted pairs masked entry.1 entry.2 entry.2 := by
    intro entry member
    unfold auditSide at member
    cases found : providerOf raw side with
    | none => rw [found] at member; cases member
    | some spec =>
        rw [found] at member
        obtain ⟨field, known, same⟩ := List.mem_filterMap.mp member
        have keys := field_keys side (registered_of_provider found) known
        unfold auditField at same
        by_cases secret : field.secret = true
        · rw [if_pos secret] at same
          split at same
          · obtain rfl := Option.some.inj same
            exact .existing (keys.shown.mpr secret)
          · cases same
        · rw [if_neg secret] at same
          obtain rfl := Option.some.inj same
          exact .plain _ fun shown => secret (keys.shown.mp shown)
  have plain : "inference_provider" ∉ secretKeys ∧ "embedding_provider" ∉ secretKeys := by
    decide +kernel
  apply entrywise_of_list
  apply List.forall₂_same.mpr
  intro entry member
  refine ⟨rfl, ?_⟩
  rcases List.mem_append.mp member with earlier | embedding
  · rcases List.mem_append.mp earlier with provider | inference
    · simp only [List.mem_cons, List.not_mem_nil, or_false] at provider
      rcases provider with rfl | rfl
      · exact .plain _ plain.1
      · exact .plain _ plain.2
    · exact side .inference entry inference
  · exact side .embedding entry embedding

/-! Payloads laid over documents. -/

theorem veiled_value {names : List String} {payload other : Dict Json}
    (veiled : Entrywise (Veiled names) payload other) (name : String) :
    Veiled names name ((payload.lookup name).getD .null) ((other.lookup name).getD .null) := by
  rcases lookup_cases veiled name with ⟨found, found'⟩ | ⟨value, value', found, found', values⟩
  · rw [found, found']
    exact .same _
  · rw [found, found']
    exact values

theorem value_given {names : List String} {payload other : Dict Json}
    (veiled : Entrywise (Veiled names) payload other) {name : String} (known : name ∈ names)
    (present : (payload.lookup name).getD .null ≠ .null) :
    (((payload.lookup name).getD .null).toStr, ((other.lookup name).getD .null).toStr) ∈
      secretPairs names payload other := by
  rcases lookup_cases veiled name with ⟨found, found'⟩ | ⟨value, value', found, found', values⟩
  · rw [found] at present
    exact absurd rfl present
  · have given := pair_given known found found'
    rw [found, found']
    exact given

/-- What two runs have of the document and of its snapshot. -/
structure SameDrafts (pairs : List (String × String)) (draft other : Draft) : Prop where
  merged : SameDoc draft.merged other.merged
  fields : other.secretAuditFields = draft.secretAuditFields
  afterAudit : Entrywise (Drafted pairs draft.secretAuditFields) draft.afterAudit other.afterAudit
  known : ∀ name ∈ draft.secretAuditFields, name ∈ secretKeys

theorem same_drafts_plain {draft other : Draft} {key : String} (value : Json)
    (same : SameDrafts pairs draft other) (open_ : key ∉ secretKeys) :
    SameDrafts pairs
      { draft with
        merged := draft.merged.insert key value, afterAudit := draft.afterAudit.insert key value }
      { other with
        merged := other.merged.insert key value, afterAudit := other.afterAudit.insert key value } where
  merged := entrywise_insert same.merged ⟨rfl, fun _ => rfl⟩
  fields := same.fields
  afterAudit := entrywise_insert same.afterAudit (.plain value open_)
  known := same.known

theorem same_drafts_secret {draft other : Draft} {key : String} {stored stored' : Json}
    {shown text text' : String} (same : SameDrafts pairs draft other)
    (documents : SameValue key stored stored') (known : shown ∈ secretKeys)
    (pair : (text, text') ∈ pairs) (both : text = "" ↔ text' = "") :
    SameDrafts pairs
      { merged := draft.merged.insert key stored
        afterAudit := draft.afterAudit.insert shown (.str text)
        secretAuditFields := draft.secretAuditFields ++ [shown] }
      { merged := other.merged.insert key stored'
        afterAudit := other.afterAudit.insert shown (.str text')
        secretAuditFields := other.secretAuditFields ++ [shown] } where
  merged := entrywise_insert same.merged documents
  fields := by dsimp only; rw [same.fields]
  afterAudit := by
    have named : shown ∈ draft.secretAuditFields ++ [shown] :=
      List.mem_append_right _ (List.mem_singleton_self shown)
    refine entrywise_insert ?_ (.given text text' known named pair both)
    apply entrywise_mono same.afterAudit
    intro name value value' drafted
    exact drafted_mono drafted (fun _ member => member) fun _ member =>
      List.mem_append_left _ member
  known := by
    intro name member
    rcases List.mem_append.mp member with earlier | last
    · exact same.known name earlier
    · rw [List.mem_singleton.mp last]
      exact known

theorem blank_text {value : Json} (blank : value.isBlank = true) (present : value ≠ .null) :
    value.toStr = "" := by
  cases value with
  | null => exact absurd rfl present
  | str text => simpa [Json.isBlank] using blank
  | _ => cases blank

theorem secret_present {value : Json} (present : value ≠ .null) (side : Side) (fieldName : String)
    (draft : Draft) :
    applySecretField settings side fieldName value draft =
      if value.isBlank then
        return {
          merged := draft.merged.insert (side.encryptedKey fieldName) .null
          afterAudit := draft.afterAudit.insert (side.key fieldName) (.str "")
          secretAuditFields := draft.secretAuditFields ++ [side.key fieldName] }
      else do
        let envelope ← encryptFresh settings value.toStr settings.masterKey
        return {
          merged := draft.merged.insert (side.encryptedKey fieldName) (.str envelope)
          afterAudit := draft.afterAudit.insert (side.key fieldName) (.str value.toStr)
          secretAuditFields := draft.secretAuditFields ++ [side.key fieldName] } := by
  cases value with
  | null => exact absurd rfl present
  | _ => rfl

theorem twin_apply_secret (side : Side) {fieldName : String} {value value' : Json}
    {draft draft' : Draft} (veiled : Veiled llmSecretNames fieldName value value')
    (given : value ≠ .null → (value.toStr, value'.toStr) ∈ pairs)
    (known : side.key fieldName ∈ secretKeys) (sealed : side.encryptedKey fieldName ∈ envelopeKeys)
    (same : SameDrafts pairs draft draft') :
    Twin (Paired settings pairs) (SameDrafts pairs)
      (applySecretField settings side fieldName value draft)
      (applySecretField settings side fieldName value' draft') := by
  by_cases null : value = .null
  · rw [(veiled_null veiled).mp null, null]
    exact .ret same
  · have null' : value' ≠ .null := fun null' => null ((veiled_null veiled).mpr null')
    rw [secret_present settings null, secret_present settings null', ← veiled_blank veiled]
    by_cases blank : value.isBlank = true
    · rw [if_pos blank, if_pos blank]
      have empty := given null
      rw [blank_text blank null, blank_text ((veiled_blank veiled).symm.trans blank) null'] at empty
      exact .ret (same_drafts_secret same ⟨rfl, fun _ => rfl⟩ known empty Iff.rfl)
    · rw [if_neg blank, if_neg blank]
      apply twin_bind (twin_encrypt settings _ _)
      rintro envelope envelope' ⟨filled, filled'⟩
      apply Twin.ret
      apply same_drafts_secret same _ known (given null) (veiled_texts veiled)
      constructor
      · rw [Json.truthy, Json.truthy, bne_iff_ne.mpr filled, bne_iff_ne.mpr filled']
      · exact fun plain => absurd sealed plain

theorem twin_apply_field (side : Side) {provider : LlmProvider} (registered : provider ∈ llmProviders)
    {payload other : Dict Json} (veiled : Entrywise (Veiled llmSecretNames) payload other)
    (given : ∀ pair ∈ secretPairs llmSecretNames payload other, pair ∈ pairs) {field : FieldSpec}
    (listed : field ∈ provider.fields) {draft draft' : Draft} (same : SameDrafts pairs draft draft') :
    Twin (Paired settings pairs) (SameDrafts pairs) (applyField settings side payload field draft)
      (applyField settings side other field draft') := by
  have keys := field_keys side registered listed
  unfold applyField
  by_cases secret : field.secret = true
  · simp only [if_pos secret]
    apply twin_apply_secret settings side (veiled_value veiled _) _ (keys.shown.mpr secret)
      (keys.sealed secret) same
    intro present
    exact given _ (value_given veiled (keys.named.mpr secret) present)
  · simp only [if_neg secret]
    have value := veiled_open (veiled_value veiled field.name) fun named => secret (keys.named.mp named)
    rw [← value]
    exact .ret (same_drafts_plain _ same fun shown => secret (keys.shown.mp shown))

theorem twin_apply_each (side : Side) {provider : LlmProvider} (registered : provider ∈ llmProviders)
    {payload other : Dict Json} (veiled : Entrywise (Veiled llmSecretNames) payload other)
    (given : ∀ pair ∈ secretPairs llmSecretNames payload other, pair ∈ pairs)
    (fields : List FieldSpec) (inside : ∀ field ∈ fields, field ∈ provider.fields)
    {draft draft' : Draft} (same : SameDrafts pairs draft draft') :
    Twin (Paired settings pairs) (SameDrafts pairs) (applyEach settings side payload draft fields)
      (applyEach settings side other draft' fields) := by
  induction fields generalizing draft draft' with
  | nil => exact .ret same
  | cons field rest ih =>
      apply twin_bind
      · exact twin_apply_field settings side registered veiled given
          (inside field List.mem_cons_self) same
      · intro next next' later
        exact ih (fun field member => inside field (List.mem_cons_of_mem _ member)) later

theorem twin_apply_side (side : Side) {payload other : Dict Json}
    (veiled : Entrywise (Veiled llmSecretNames) payload other)
    (given : ∀ pair ∈ secretPairs llmSecretNames payload other, pair ∈ pairs)
    {draft draft' : Draft} (same : SameDrafts pairs draft draft') :
    Twin (Paired settings pairs) (SameDrafts pairs) (applySide settings side payload draft)
      (applySide settings side other draft') := by
  have open_ : "provider" ∉ llmSecretNames := by decide +kernel
  have resolved : resolveProvider side payload = resolveProvider side other := by
    rw [resolveProvider, resolveProvider, veiled_open (veiled_value veiled "provider") open_]
  unfold applySide
  rw [← resolved]
  apply twin_lift_then
  intro provider found
  have registered := registered_of_resolve found
  have keys : validatePayloadKeys side provider payload = validatePayloadKeys side provider other := by
    rw [validatePayloadKeys, validatePayloadKeys, entrywise_keys veiled]
  rw [← keys]
  apply twin_lift_then
  intro _ _
  have missing (field : FieldSpec) :
      missing side payload draft.merged field = missing side other draft'.merged field := by
    rw [missing, missing, veiled_blank (veiled_value veiled field.name), holds_same same.merged]
  have required : validateRequiredFields side provider payload draft.merged =
      validateRequiredFields side provider other draft'.merged := by
    rw [validateRequiredFields, validateRequiredFields, funext missing]
  rw [← required]
  apply twin_lift_then
  intro _ _
  apply twin_apply_each settings side registered veiled given provider.fields fun _ member => member
  exact same_drafts_plain _ same (provider_key side).2

theorem twin_apply_given (side : Side) {payload other : Option (Dict Json)}
    (veiled : Option.Rel (Entrywise (Veiled llmSecretNames)) payload other)
    (given : ∀ pair ∈ secretPairs llmSecretNames (payload.getD ∅) (other.getD ∅), pair ∈ pairs)
    {draft draft' : Draft} (same : SameDrafts pairs draft draft') :
    Twin (Paired settings pairs) (SameDrafts pairs) (applyGiven settings side payload draft)
      (applyGiven settings side other draft') := by
  cases veiled with
  | none => exact .ret same
  | some veiled => exact twin_apply_side settings side veiled given same

/-! The operations. -/

theorem twin_raw_llm : Twin (Paired settings pairs) SameDoc rawGet rawGet := by
  apply twin_perform_then (Paired.selectLlm llmConfigId)
  intro docs docs' same
  cases same with
  | nil => exact .raise _
  | cons first rest => exact .ret first

theorem twin_get_llm : Twin (Paired settings pairs) Eq LlmService.get LlmService.get := by
  apply twin_perform_then (Paired.selectLlm llmConfigId)
  intro docs docs' same
  cases same with
  | nil => exact .raise _
  | cons first rest => exact .ret (render_llm_same first)

theorem twin_update_llm (actor : CurrentUser) {inference inference' embedding embedding' : Option (Dict Json)}
    (requestId : Option String)
    (first : Option.Rel (Entrywise (Veiled llmSecretNames)) inference inference')
    (second : Option.Rel (Entrywise (Veiled llmSecretNames)) embedding embedding')
    (givenFirst : ∀ pair ∈ secretPairs llmSecretNames (inference.getD ∅) (inference'.getD ∅),
      pair ∈ pairs)
    (givenSecond : ∀ pair ∈ secretPairs llmSecretNames (embedding.getD ∅) (embedding'.getD ∅),
      pair ∈ pairs) :
    Twin (Paired settings pairs) Eq (update settings actor inference embedding requestId)
      (update settings actor inference' embedding' requestId) := by
  have given {payload payload' : Option (Dict Json)}
      (veiled : Option.Rel (Entrywise (Veiled llmSecretNames)) payload payload') :
      payload.isSome = payload'.isSome := by
    cases veiled <;> rfl
  unfold update
  rw [given first, given second]
  apply twin_require_then
  intro _
  apply twin_bind (twin_raw_llm settings)
  intro before before' docs
  -- The loops begin with documents that differ in secrets alone.
  have start : SameDrafts pairs
      ⟨(stripInternals before).insert "id" (.str llmConfigId), auditView before, []⟩
      ⟨(stripInternals before').insert "id" (.str llmConfigId), auditView before', []⟩ := by
    refine ⟨?_, rfl, ?_, nofun⟩
    · exact entrywise_insert (entrywise_filter (fun key => !isInternal key) docs) ⟨rfl, fun _ => rfl⟩
    · rw [← audit_view_same docs]
      exact drafted_view before
  apply twin_bind (twin_apply_given settings .inference first givenFirst start)
  intro middle middle' halfway
  apply twin_bind (twin_apply_given settings .embedding second givenSecond halfway)
  intro draft draft' same
  apply twin_bind (twin_now settings)
  rintro instant _ rfl
  have written : SameDoc
      ((draft.merged.insert "updated_by" (.str actor.username)).insert "updated_at"
        (.str (isoformat instant)))
      ((draft'.merged.insert "updated_by" (.str actor.username)).insert "updated_at"
        (.str (isoformat instant))) :=
    entrywise_insert (entrywise_insert same.merged ⟨rfl, fun _ => rfl⟩) ⟨rfl, fun _ => rfl⟩
  apply twin_perform_then (Paired.updateLlm llmConfigId _ _ written)
  intro _ _ _
  apply twin_bind
  · apply twin_record
    rw [← audit_view_same docs, same.fields]
    exact ⟨rfl, .some (drafted_view before), .some same.afterAudit, same.known⟩
  · intro _ _ _
    apply twin_bind (twin_raw_llm settings)
    intro raw raw' same
    exact .ret (render_llm_same same)

end Lehen.LlmSecrets
