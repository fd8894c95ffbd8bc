import Lehen.Conforming
import Lehen.Masking
import Lehen.Twinning

/-!
Admin operations run twice, on payloads that differ in secrets only. The two runs
go in lockstep: what they read back is the same but for what is encrypted.
-/

namespace Lehen.Concealing

open Storage Secrets OAuth AuditService Registry IntegrationsService ConnectionsService Entries
  Masking Twinning
open LlmService (Side)

variable {N : Type} (settings : Settings)

/-- Equal values, or two non-empty strings under the name of a secret. -/
inductive Veiled (names : List String) (name : String) : Json → Json → Prop
  | same (value : Json) : Veiled names name value value
  | secret (text other : String) (known : name ∈ names) (first : text ≠ "") (second : other ≠ "") :
      Veiled names name (.str text) (.str other)

/-- Calls whose payloads differ in the values of secrets only. -/
inductive SameButSecrets : AdminCall → AdminCall → Prop
  | createInstance (actor : CurrentUser) (instanceId typeId displayName : String)
      (config other : Dict Json) (multi enabled : Bool) (requestId : Option String)
      (veiled : Entrywise (Veiled secretNames) config other) :
      SameButSecrets
        (.createInstance actor instanceId typeId displayName config multi enabled requestId)
        (.createInstance actor instanceId typeId displayName other multi enabled requestId)
  | updateInstance (actor : CurrentUser) (instanceId : String) (changes other : Changes)
      (requestId : Option String) (rest : other = { changes with config := other.config })
      (veiled : Option.Rel (Entrywise (Veiled secretNames)) changes.config other.config) :
      SameButSecrets (.updateInstance actor instanceId changes requestId)
        (.updateInstance actor instanceId other requestId)
  | updateLlm (actor : CurrentUser) (inference inference' embedding embedding' : Option (Dict Json))
      (requestId : Option String)
      (first : Option.Rel (Entrywise (Veiled llmSecretNames)) inference inference')
      (second : Option.Rel (Entrywise (Veiled llmSecretNames)) embedding embedding') :
      SameButSecrets (.updateLlm actor inference embedding requestId)
        (.updateLlm actor inference' embedding' requestId)
  | same (call : AdminCall) : SameButSecrets call call

/-- The texts two calls give for the same secrets. -/
def givenSecrets : AdminCall → AdminCall → List (String × String)
  | .createInstance _ _ _ _ config _ _ _, .createInstance _ _ _ _ other _ _ _ =>
      secretPairs secretNames config other
  | .updateInstance _ _ changes _, .updateInstance _ _ other _ =>
      secretPairs secretNames (changes.config.getD ∅) (other.config.getD ∅)
  | .updateLlm _ inference embedding _, .updateLlm _ inference' embedding' _ =>
      secretPairs llmSecretNames (inference.getD ∅) (inference'.getD ∅) ++
        secretPairs llmSecretNames (embedding.getD ∅) (embedding'.getD ∅)
  | _, _ => []

/-- Statements that differ in the document they carry at most. -/
inductive SameTarget : StoreOp → StoreOp → Prop
  | same (statement : StoreOp) : SameTarget statement statement
  | insertInstance (row other : InstanceRow) (ids : row.id = other.id) :
      SameTarget (.insertInstance row) (.insertInstance other)
  | updateInstance (id : String) (row other : InstanceRow) :
      SameTarget (.updateInstance id row) (.updateInstance id other)
  | insertAudit (event other : AdminAuditEvent) : SameTarget (.insertAudit event) (.insertAudit other)
  | updateLlm (id : String) (doc other : Dict Json) :
      SameTarget (.updateLlm id doc) (.updateLlm id other)

/-- Whether a statement fails, whether it is executed then, and what the world
outside does, have nothing to do with the document it carries. -/
def Indifferent (outside : Outside N) : Prop :=
  ∀ statement other, SameTarget statement other →
    outside.storeFails statement = outside.storeFails other ∧
      outside.executed statement = outside.executed other

/-! What the two runs keep in the store. -/

abbrev SameSet (_ : String) (envelope other : String) : Prop := envelope = "" ↔ other = ""

/-- Rows that agree but for their envelopes, and have no secret in the open. -/
structure SameRow (row other : InstanceRow) : Prop where
  rest : other = { row with configSecretsEncrypted := other.configSecretsEncrypted }
  secrets : Entrywise SameSet row.configSecretsEncrypted other.configSecretsEncrypted
  public_ : ∀ key ∈ row.configPublic, key ∉ secretKeys

/-- The keys of the LLM document that hold envelopes. -/
def envelopeKeys : List String :=
  llmSecretNames.map Side.inference.encryptedKey ++ llmSecretNames.map Side.embedding.encryptedKey

abbrev SameValue (key : String) (value other : Json) : Prop :=
  value.truthy = other.truthy ∧ (key ∉ envelopeKeys → value = other)

abbrev SameDoc (doc other : Dict Json) : Prop := Entrywise SameValue doc other

/-- Operations that do not touch instances, the LLM document or the admin log. -/
def Clear : Op → Prop
  | .store (.selectConnections _) | .store (.selectMaxSeq _ _) | .store (.insertConnection _)
  | .store (.updateConnections _ _) | .store (.insertConsent _) | .store (.selectSiam _)
  | .store (.insertSiam _) | .store (.updateSiam _ _) | .store (.insertLogin _) => True
  | .store _ => False
  | _ => True

/-- Which operations of the two runs belong together. -/
inductive Paired (pairs : List (String × String)) : Pairing Op Op.Res
  | clear (op : Op) (clear : Clear op) : Paired pairs op op Eq
  | selectInstance (id : String) :
      Paired pairs (.store (.selectInstance id)) (.store (.selectInstance id)) (List.Forall₂ SameRow)
  | selectInstances :
      Paired pairs (.store .selectInstances) (.store .selectInstances) (List.Forall₂ SameRow)
  | insertInstance (row other : InstanceRow) (same : SameRow row other) :
      Paired pairs (.store (.insertInstance row)) (.store (.insertInstance other)) fun _ _ => True
  | updateInstance (id : String) (row other : InstanceRow) (same : SameRow row other) :
      Paired pairs (.store (.updateInstance id row)) (.store (.updateInstance id other))
        fun _ _ => True
  | deleteInstance (id : String) :
      Paired pairs (.store (.deleteInstance id)) (.store (.deleteInstance id)) fun _ _ => True
  | selectLlm (id : String) :
      Paired pairs (.store (.selectLlm id)) (.store (.selectLlm id)) (List.Forall₂ SameDoc)
  | updateLlm (id : String) (doc other : Dict Json) (same : SameDoc doc other) :
      Paired pairs (.store (.updateLlm id doc)) (.store (.updateLlm id other)) fun _ _ => True
  | insertAudit (event other : AdminAuditEvent) (same : SameRecord settings pairs event other) :
      Paired pairs (.store (.insertAudit event)) (.store (.insertAudit other)) fun _ _ => True

/-- Worlds that agree but for what is encrypted and for what was logged since. -/
structure AlikeWorlds (recorded : AdminAuditEvent → AdminAuditEvent → Prop)
    (base : List AdminAuditEvent) (world other : World N) : Prop where
  rest : other =
    { world with
      store := { world.store with
        instances := other.store.instances, llm := other.store.llm, audits := other.store.audits } }
  instances : List.Forall₂ SameRow world.store.instances other.store.instances
  llm : List.Forall₂ SameDoc world.store.llm other.store.llm
  audits : ∃ added added', world.store.audits = base ++ added ∧
    other.store.audits = base ++ added' ∧ List.Forall₂ recorded added added'

theorem same_row_id {row other : InstanceRow} (same : SameRow row other) : other.id = row.id := by
  rw [same.rest]

theorem lookup_same_doc {doc other : Dict Json} (same : SameDoc doc other) {key : String}
    (plain : key ∉ envelopeKeys) : doc.lookup key = other.lookup key :=
  lookup_eq same fun _ _ values => values.2 plain

theorem has_id_same {doc other : Dict Json} (same : SameDoc doc other) (id : String) :
    hasId id doc = hasId id other := by
  have plain : "id" ∉ envelopeKeys := by decide +kernel
  rw [hasId, hasId, lookup_same_doc same plain]

/-! One operation. -/

theorem paired_target {pairs : List (String × String)} {statement other : StoreOp}
    {similar : statement.Res → other.Res → Prop}
    (pair : Paired settings pairs (.store statement) (.store other) similar) :
    SameTarget statement other := by
  cases pair with
  | clear => exact .same statement
  | selectInstance id => exact .same _
  | selectInstances => exact .same _
  | insertInstance row other same => exact .insertInstance row other (same_row_id same).symm
  | updateInstance id row other same => exact .updateInstance id row other
  | deleteInstance id => exact .same _
  | selectLlm id => exact .same _
  | updateLlm id doc other same => exact .updateLlm id doc other
  | insertAudit event other same => exact .insertAudit event other

variable {settings} {recorded : AdminAuditEvent → AdminAuditEvent → Prop}
  {base : List AdminAuditEvent}

theorem rows_sorted {rows other : List InstanceRow} (same : List.Forall₂ SameRow rows other) :
    List.Forall₂ SameRow (rows.insertionSort fun left right => left.id ≤ right.id)
      (other.insertionSort fun left right => left.id ≤ right.id) := by
  have into {row row' : InstanceRow} {rows other : List InstanceRow} (first : SameRow row row')
      (same : List.Forall₂ SameRow rows other) :
      List.Forall₂ SameRow (rows.orderedInsert (fun left right => left.id ≤ right.id) row)
        (other.orderedInsert (fun left right => left.id ≤ right.id) row') := by
    induction same with
    | nil => exact .cons first .nil
    | cons head rest ih =>
        rw [List.orderedInsert, List.orderedInsert, same_row_id first, same_row_id head]
        split
        · exact .cons first (.cons head rest)
        · exact .cons head ih
  induction same with
  | nil => exact .nil
  | cons first _ ih => exact into first ih

/-- What a statement that does not fail answers and leaves. -/
theorem applied_alike {pairs : List (String × String)} {statement other : StoreOp}
    {similar : statement.Res → other.Res → Prop}
    (pair : Paired settings pairs (.store statement) (.store other) similar)
    (logged : ∀ event event', SameRecord settings pairs event event' → recorded event event')
    {world world' : World N} (alike : AlikeWorlds recorded base world world') :
    similar (statement.apply world.store).1 (other.apply world'.store).1 ∧
      ∀ state : N, AlikeWorlds recorded base ⟨(statement.apply world.store).2, state⟩
        ⟨(other.apply world'.store).2, state⟩ := by
  obtain ⟨⟨connections, instances, siam, consents, audits, logins, llm⟩, now⟩ := world
  obtain ⟨⟨connections', instances', siam', consents', audits', logins', llm'⟩, now'⟩ := world'
  obtain ⟨rest, rows, docs, logs⟩ := alike
  -- The two stores differ in their instances, their configuration and their log alone.
  cases rest
  cases pair with
  | clear _ clear =>
      cases statement <;> first | exact clear.elim | exact ⟨rfl, fun state => ⟨rfl, rows, docs, logs⟩⟩
  | selectInstance id =>
      refine ⟨List.rel_filter ?_ rows, fun state => ⟨rfl, rows, docs, logs⟩⟩
      intro row row' same
      simp only [same_row_id same]
  | selectInstances => exact ⟨rows_sorted rows, fun state => ⟨rfl, rows, docs, logs⟩⟩
  | insertInstance row row' same =>
      refine ⟨trivial, fun state => ⟨rfl, ?_, docs, logs⟩⟩
      exact List.rel_append rows (.cons same .nil)
  | updateInstance id doc doc' same =>
      refine ⟨trivial, fun state => ⟨rfl, List.rel_map ?_ rows, docs, logs⟩⟩
      intro row row' rowSame
      simp only [same_row_id rowSame]
      split
      · exact same
      · exact rowSame
  | deleteInstance id =>
      refine ⟨trivial, fun state => ⟨rfl, List.rel_filter ?_ rows, docs, logs⟩⟩
      intro row row' same
      simp only [same_row_id same]
  | selectLlm id =>
      refine ⟨List.rel_filter ?_ docs, fun state => ⟨rfl, rows, docs, logs⟩⟩
      intro doc doc' same
      simp only [has_id_same same]
  | updateLlm id doc doc' same =>
      refine ⟨trivial, fun state => ⟨rfl, rows, List.rel_map ?_ docs, logs⟩⟩
      intro raw raw' rawSame
      simp only [has_id_same rawSame]
      split
      · exact same
      · exact rawSame
  | insertAudit event event' same =>
      obtain ⟨added, added', first, second, all⟩ := logs
      refine ⟨trivial, fun state => ⟨rfl, rows, docs, added ++ [event], added' ++ [event'], ?_, ?_,
        List.rel_append all (.cons (logged _ _ same) .nil)⟩⟩
      · change audits ++ [event] = _
        rw [show audits = base ++ added from first, List.append_assoc]
      · change audits' ++ [event'] = _
        rw [show audits' = base ++ added' from second, List.append_assoc]

/-- Paired operations keep the worlds alike. -/
theorem paired_kept {outside : Outside N} (indifferent : Indifferent outside)
    {pairs : List (String × String)}
    (logged : ∀ event event', SameRecord settings pairs event event' → recorded event event')
    (op other : Op) (similar : op.Res → other.Res → Prop) (pair : Paired settings pairs op other similar)
    (world world' : World N) (alike : AlikeWorlds recorded base world world') :
    SameOutcome similar (exec outside op world).1 (exec outside other world').1 ∧
      AlikeWorlds recorded base (exec outside op world).2 (exec outside other world').2 := by
  have state : world'.outside = world.outside := by rw [alike.rest]
  cases op with
  | store statement =>
      obtain ⟨other, rfl⟩ : ∃ statement', other = .store statement' := by
        cases pair <;> exact ⟨_, rfl⟩
      obtain ⟨fails, executed⟩ := indifferent statement other (paired_target settings pair)
      have ⟨answers, after⟩ := applied_alike pair logged alike
      rcases answered : outside.storeFails statement world.outside with ⟨_ | text, next⟩
      · have answered' : outside.storeFails other world'.outside = (none, next) := by
          rw [← fails, state, answered]
        simp only [exec, answered, answered']
        exact ⟨answers, after next⟩
      · have answered' : outside.storeFails other world'.outside = (some text, next) := by
          rw [← fails, state, answered]
        have executed' : outside.executed other world'.outside =
            outside.executed statement world.outside := by rw [← executed, state]
        simp only [exec, answered, answered', executed']
        refine ⟨rfl, ?_⟩
        split
        · exact after next
        · refine ⟨?_, alike.instances, alike.llm, alike.audits⟩
          rw [alike.rest]
  | http request =>
      cases pair
      rcases answered : outside.http request world.outside with ⟨_ | response, next⟩ <;>
      · simp only [exec, state, answered]
        refine ⟨rfl, ?_, alike.instances, alike.llm, alike.audits⟩
        rw [alike.rest]
  | _ =>
      cases pair
      simp only [exec, state]
      refine ⟨rfl, ?_, alike.instances, alike.llm, alike.audits⟩
      rw [alike.rest]

/-! Rows read alike. -/

theorem set_alike {dict other : Dict String} (same : Entrywise SameSet dict other) (name : String) :
    (dict.lookup name).getD "" = "" ↔ (other.lookup name).getD "" = "" := by
  rcases lookup_cases same name with ⟨absent, absent'⟩ | ⟨envelope, envelope', found, found', both⟩
  · rw [absent, absent']
  · rw [found, found']
    exact both

theorem render_same {row other : InstanceRow} (same : SameRow row other) :
    renderForRead row = renderForRead other := by
  have names : (row.configSecretsEncrypted.entries.filter fun entry => entry.2 ≠ "").map Sigma.fst =
      (other.configSecretsEncrypted.entries.filter fun entry => entry.2 ≠ "").map Sigma.fst := by
    apply keys_filter same.secrets
    intro key envelope envelope' both
    rw [decide_eq_decide, ne_eq, ne_eq, not_iff_not]
    exact both
  have rest := same.rest
  cases row
  cases other
  cases rest
  exact congrArg (fun names => InstanceView.mk _ _ _ _ _ _ _ _ _ _ (names.insertionSort (· ≤ ·))) names

theorem existing_same {row other : InstanceRow} (same : SameRow row other) (spec : IntegrationType) :
    existingSecrets spec row = existingSecrets spec other := by
  have alike (name : String) :
      decide ((row.configSecretsEncrypted.lookup name).getD "" ≠ "") =
        decide ((other.configSecretsEncrypted.lookup name).getD "" ≠ "") := by
    rw [decide_eq_decide, ne_eq, ne_eq, not_iff_not]
    exact set_alike same.secrets name
  simp only [existingSecrets, alike]

end Lehen.Concealing
