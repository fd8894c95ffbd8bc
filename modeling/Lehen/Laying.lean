import Lehen.Configuring
import Lehen.Keeping

/-!
What an LLM update makes of the stored document, said without its steps: when it
is accepted, and how the document it writes relates to the one it read.
-/

namespace Lehen.Laying

open Storage Secrets OAuth AuditService LlmService Configuring Footprint
open Registry (FieldSpec)
open Prog (straight_bind straight_lift_ok leaves_require_then)

variable {N : Type} {settings : Settings} {outside : Outside N}

/-- A key of neither side, and none of those an update sets itself. -/
def Aside (key : String) : Prop :=
  (∀ side : Side, ∀ name, key ≠ side.key name) ∧ key ∉ ["id", "updated_by", "updated_at"]

/-- What a call makes of the document it reads. -/
structure Rewritten (settings : Settings) (call : Call) (before doc : Dict Json) : Prop where
  given : ∀ side payload, call.payload side = some payload →
    ∃ provider, Laid settings side payload provider before doc
  absent : ∀ side, call.payload side = none → SameSide side before doc
  id : doc.lookup "id" = some (.str llmConfigId)
  author : doc.lookup "updated_by" = some (.str call.actor.username)
  aside : ∀ key, Aside key → doc.lookup key = if isInternal key then none else before.lookup key

/-- What an update checks of the payload of one side. -/
def Accepts (side : Side) (payload before : Dict Json) : Prop :=
  ∃ provider, resolveProvider side payload = .ok provider ∧
    validatePayloadKeys side provider payload = .ok () ∧
    validateRequiredFields side provider payload before = .ok ()

structure Acceptable (call : Call) (before : Dict Json) : Prop where
  asked : call.inference.isSome ∨ call.embedding.isSome
  accepts : ∀ side payload, call.payload side = some payload → Accepts side payload before

theorem same_side_symm {side : Side} {before doc : Dict Json} (same : SameSide side before doc) :
    SameSide side doc before := fun name => (same name).symm

theorem same_side_trans {side : Side} {first second third : Dict Json}
    (left : SameSide side first second) (right : SameSide side second third) :
    SameSide side first third := fun name => (right name).trans (left name)

/-- The checks read only the side they are about. -/
theorem required_same {side : Side} {provider : LlmProvider} {payload before doc : Dict Json}
    (same : SameSide side before doc) :
    validateRequiredFields side provider payload doc =
      validateRequiredFields side provider payload before := by
  have missed : missing side payload doc = missing side payload before := by
    funext field
    have stored := same (field.name ++ "_encrypted")
    simp only [missing, holds, Side.encryptedKey, stored]
  rw [validateRequiredFields, missed, ← validateRequiredFields]

theorem accepts_same {side : Side} {payload before doc : Dict Json}
    (same : SameSide side before doc) (accepts : Accepts side payload before) :
    Accepts side payload doc := by
  obtain ⟨provider, resolved, known, supplied⟩ := accepts
  exact ⟨provider, resolved, known, (required_same same).trans supplied⟩

theorem laid_same {side : Side} {payload before before' doc doc' : Dict Json} {provider : LlmProvider}
    (from_ : SameSide side before before') (to_ : SameSide side doc doc')
    (laid : Laid settings side payload provider before doc) :
    Laid settings side payload provider before' doc' where
  resolved := laid.resolved
  known := laid.known
  supplied := (required_same from_).trans laid.supplied
  named := (to_ _).trans laid.named
  carried := by
    intro field member
    obtain ⟨name, slot⟩ := slot_key side field
    exact field_carried_same settings (slot ▸ to_ name) (laid.carried field member)
  kept := by
    intro field member secret absent
    obtain ⟨name, slot⟩ := slot_key side field
    have held := laid.kept field member secret absent
    rw [slot] at held ⊢
    rw [to_ name, from_ name, held]
  rest := by
    intro name outside
    rw [to_ name, from_ name, laid.rest name outside]

theorem accepts_of_laid {side : Side} {payload before doc : Dict Json} {provider : LlmProvider}
    (laid : Laid settings side payload provider before doc) : Accepts side payload before :=
  ⟨provider, laid.resolved, laid.known, laid.supplied⟩

/-! The document an update writes. -/

/-- The document an update lays its payloads over. -/
def stripped (before : Dict Json) : Dict Json :=
  (stripInternals before).insert "id" (.str llmConfigId)

theorem stripped_side (side : Side) (before : Dict Json) : SameSide side before (stripped before) := by
  intro name
  rw [stripped, AList.lookup_insert_ne (key_ne_text side name).1,
    lookup_strip before (key_not_internal side name)]

theorem stripped_aside {key : String} (before : Dict Json) (other : key ≠ "id") :
    (stripped before).lookup key = if isInternal key then none else before.lookup key := by
  rw [stripped, AList.lookup_insert_ne other]
  by_cases internal : isInternal key = true
  · rw [if_pos internal, AList.lookup_eq_none]
    intro member
    obtain ⟨value, found⟩ := Option.isSome_iff_exists.mp (AList.lookup_isSome.mpr member)
    rw [← Option.mem_def, AList.mem_lookup_iff] at found
    simp [stripInternals, internal] at found
  · rw [if_neg internal, lookup_strip before (by simpa using internal)]

theorem rewritten_of_drafts {call : Call} {before : Dict Json} {first second : Draft} (at_ : Json)
    (inference : (∀ given, call.inference = some given → ∃ provider,
        Laid settings .inference given provider (stripped before) first.merged) ∧
      ∀ key, (call.inference = none ∨ ∀ name, key ≠ Side.inference.key name) →
        first.merged.lookup key = (stripped before).lookup key)
    (embedding : (∀ given, call.embedding = some given → ∃ provider,
        Laid settings .embedding given provider first.merged second.merged) ∧
      ∀ key, (call.embedding = none ∨ ∀ name, key ≠ Side.embedding.key name) →
        second.merged.lookup key = first.merged.lookup key) :
    Rewritten settings call before
      ((second.merged.insert "updated_by" (.str call.actor.username)).insert "updated_at" at_) := by
  have stamped (side : Side) : SameSide side second.merged
      ((second.merged.insert "updated_by" (.str call.actor.username)).insert "updated_at" at_) := by
    intro name
    rw [AList.lookup_insert_ne (key_ne_text side name).2.2,
      AList.lookup_insert_ne (key_ne_text side name).2.1]
  have different : Side.embedding ≠ .inference := nofun
  have first_kept : SameSide .embedding (stripped before) first.merged := fun name =>
    inference.2 _ (.inr fun _ => key_ne_key different _ _)
  have second_kept : SameSide .inference first.merged second.merged := fun name =>
    embedding.2 _ (.inr fun _ => key_ne_key different.symm _ _)
  -- A key of neither side goes through both payloads untouched.
  have passed {key : String} (outside : ∀ side : Side, ∀ name, key ≠ side.key name) :
      second.merged.lookup key = (stripped before).lookup key :=
    (embedding.2 key (.inr (outside .embedding))).trans (inference.2 key (.inr (outside .inference)))
  constructor
  · intro side payload given
    cases side with
    | inference =>
        obtain ⟨provider, laid⟩ := inference.1 payload given
        have from_ := same_side_symm (stripped_side .inference before)
        exact ⟨provider, laid_same from_ (same_side_trans second_kept (stamped _)) laid⟩
    | embedding =>
        obtain ⟨provider, laid⟩ := embedding.1 payload given
        have from_ := same_side_symm (same_side_trans (stripped_side .embedding before) first_kept)
        exact ⟨provider, laid_same from_ (stamped _) laid⟩
  · intro side absent
    apply same_side_trans _ (stamped side)
    cases side with
    | inference =>
        have read : SameSide .inference (stripped before) first.merged := fun name =>
          inference.2 _ (.inl absent)
        exact same_side_trans (same_side_trans (stripped_side _ before) read) second_kept
    | embedding =>
        have read : SameSide .embedding first.merged second.merged := fun name =>
          embedding.2 _ (.inl absent)
        exact same_side_trans (same_side_trans (stripped_side _ before) first_kept) read
  · rw [AList.lookup_insert_ne (by decide), AList.lookup_insert_ne (by decide),
      passed fun side name same => (key_ne_text side name).1 same.symm]
    exact AList.lookup_insert _
  · rw [AList.lookup_insert_ne (by decide)]
    exact AList.lookup_insert _
  · rintro key ⟨outside, texts⟩
    simp only [List.mem_cons, List.not_mem_nil, or_false, not_or] at texts
    rw [AList.lookup_insert_ne texts.2.2, AList.lookup_insert_ne texts.2.1, passed outside,
      stripped_aside before texts.1]

theorem has_id_of_rewritten {call : Call} {before doc : Dict Json}
    (rewritten : Rewritten settings call before doc) : hasId llmConfigId doc = true := by
  rw [hasId, rewritten.id]
  rfl

/-! The steps of an update. -/

theorem quick_keeps (outside : Outside N) (store : Store) (op : Op) (world : World N) (quick : Quick op)
    (held : world.store = store) : (exec outside op world).2.store = store := by
  rw [asking_store outside op world (asking_of_quick op quick)]
  exact held

theorem quick_succeeds (outside : Outside N) (op : Op) (world : World N) (quick : Quick op) :
    ∃ value, (exec outside op world).1 = .ok value := by
  cases op with
  | store statement => cases quick
  | http request => cases quick
  | _ => exact ⟨_, rfl⟩

/-- The log fails only with the store, and leaves the configuration alone. -/
theorem leaves_logged_then {α : Type} (event : AuditEvent) {rest : Unit → Hub α} {world : World N}
    {post : Except PyError α → World N → Prop}
    (failed : ∀ error after, error.kind = .arcadeError → post (.error error) after)
    (done : ∀ after, after.store.llm = world.store.llm → Prog.Leaves (exec outside) (rest ()) after post) :
    Prog.Leaves (exec outside) ((record settings event).bind rest) world post := by
  obtain ⟨before, maskedBefore⟩ := mask_secrets_total settings event.before event.secretFields
  obtain ⟨after, maskedAfter⟩ := mask_secrets_total settings event.after event.secretFields
  have quick := quick_keeps outside world.store
  have requested : (requestIdOr event.requestId).Yields Quick fun _ => True := by
    unfold requestIdOr
    split
    · split
      · exact ⟨rfl, fun answer => by cases answer <;> trivial⟩
      · trivial
    · exact ⟨rfl, fun answer => by cases answer <;> trivial⟩
  simp only [record, Prog.bind_eq, Prog.bind_assoc, maskedBefore, maskedAfter, Prog.lift, Prog.bind_ret,
    uuid4, now]
  rw [Prog.leaves_bind, Prog.leaves_perform]
  simp only [exec]
  rw [Prog.leaves_bind, Prog.leaves_perform]
  simp only [exec]
  apply Prog.leaves_straight_then (fun state => state.store = world.store)
    (quick_request_id event.requestId) requested
  · rfl
  · exact quick_succeeds outside
  · exact quick
  intro requestId last _ held
  apply Keeping.leaves_store_then
  · exact fun error after kind _ => failed error after kind
  · intro written same
    apply done
    rw [same, ← held]
    rfl

/-- How an update ends: one that returns has rewritten the document it read, and
one that refuses its payloads has changed nothing. -/
def Served (settings : Settings) (call : Call) (world : World N) : Except PyError LlmView → World N → Prop
  | .ok view, after => ∃ before doc, storedConfig world = some before ∧ Acceptable call before ∧
      Rewritten settings call before doc ∧ storedConfig after = some doc ∧ view = renderForRead doc
  | .error error, after => error.kind = .llmConfigError → after.store = world.store

/-- From the write on, an update raises only what the client raises. -/
theorem leaves_written {call : Call} {before doc : Dict Json} {world middle : World N} (event : AuditEvent)
    (found : storedConfig world = some before) (accepts : Acceptable call before)
    (rewritten : Rewritten settings call before doc) (held : middle.store = world.store) :
    Prog.Leaves (exec outside)
      ((Prog.perform (Op.store (.updateLlm llmConfigId doc)) : Hub Unit).bind fun _ =>
        (record settings event).bind fun _ => rawGet.bind fun raw => .ret (renderForRead raw))
      middle (Served settings call world) := by
  have faulty {error : PyError} {after : World N} (kind : error.kind = .arcadeError) :
      Served settings call world (.error error) after := by
    intro refused
    rw [kind] at refused
    cases refused
  apply Keeping.leaves_store_then
  · exact fun error after kind _ => faulty kind
  · intro written updated
    apply leaves_logged_then
    · exact fun error after kind => faulty kind
    · intro last logged
      have final : last.store.llm.find? (hasId llmConfigId) = some doc := by
        rw [logged, updated, held]
        exact Editing.find_overwritten found (has_id_of_rewritten rewritten)
      rw [rawGet, Prog.bind_eq, Prog.bind_assoc]
      apply Keeping.leaves_read_then rfl
      · exact fun error after kind _ => faulty kind
      · intro reread unchanged
        have rows : (last.store.llm.filter (hasId llmConfigId)).head? = some doc := by
          rw [List.head?_filter]
          exact final
        simp only [StoreOp.apply, rows]
        have kept : storedConfig reread = some doc := by
          rw [storedConfig, unchanged]
          exact final
        exact ⟨before, doc, found, accepts, rewritten, kept, rfl⟩

theorem leaves_update (call : Call) (world : World N) :
    Prog.Leaves (exec outside) (serveCall settings call) world (Served settings call world) := by
  have still {error : PyError} {after : World N} (same : after.store = world.store) :
      Served settings call world (.error error) after := fun _ => same
  unfold serveCall update
  apply leaves_require_then
  · intro asked
    rw [rawGet, Prog.bind_eq, Prog.bind_eq, Prog.bind_assoc]
    apply Keeping.leaves_read_then rfl
    · exact fun _ _ _ same => still same
    · intro read store
      simp only [StoreOp.apply, List.head?_filter]
      cases found : world.store.llm.find? (hasId llmConfigId) with
      | none => exact still store
      | some before =>
          have kept := quick_keeps outside world.store
          apply Prog.leaves_yields_then (fun state => state.store = world.store)
            (yields_given settings .inference call.inference _) store kept
          · intro first between inference unread
            apply Prog.leaves_yields_then (fun state => state.store = world.store)
              (yields_given settings .embedding call.embedding _) unread kept
            · intro draft middle embedding held
              have rewritten (at_ : Json) := rewritten_of_drafts at_ inference embedding
              have accepts : Acceptable call before := by
                refine ⟨asked, fun side payload given => ?_⟩
                obtain ⟨provider, laid⟩ := (rewritten .null).given side payload given
                exact accepts_of_laid laid
              rw [Prog.bind_eq, now, Prog.leaves_bind, Prog.leaves_perform]
              have ticked : (exec outside .clock middle).2.store = world.store := held
              exact leaves_written _ found accepts (rewritten _) ticked
            · exact fun _ _ held => still held
          · exact fun _ _ held => still held
  · exact fun _ => still rfl

theorem served_of_run {call : Call} {world after : World N} {outcome : Except PyError LlmView}
    (ran : (serveCall settings call).run (exec outside) world = (outcome, after)) :
    Served settings call world outcome after := by
  have served : Prog.Leaves (exec outside) (serveCall settings call) world _ := leaves_update call world
  unfold Prog.Leaves at served
  rw [ran] at served
  exact served

/-! An update of a document that is there, with payloads that are accepted,
returns where the store is reliable. -/

theorem straight_encrypt (text : String) :
    (encryptFresh settings text settings.masterKey).Straight Quick False := by
  apply straight_bind (quick_perform rfl)
  intro nonce
  rw [encrypt, if_pos settings.masterKeyLength]
  exact straight_lift_ok _

theorem straight_field (side : Side) (payload : Dict Json) (field : FieldSpec) (draft : Draft) :
    (applyField settings side payload field draft).Straight Quick False := by
  unfold applyField
  dsimp only
  split
  · unfold applySecretField
    split
    · trivial
    · split
      · trivial
      · exact straight_bind (straight_encrypt _) fun _ => trivial
  · trivial

theorem straight_each (side : Side) (payload : Dict Json) (fields : List FieldSpec) (draft : Draft) :
    (applyEach settings side payload draft fields).Straight Quick False := by
  induction fields generalizing draft with
  | nil => trivial
  | cons field rest ih => exact straight_bind (straight_field side payload field draft) ih

theorem straight_given {side : Side} {payload : Option (Dict Json)} {draft : Draft}
    (accepts : ∀ given, payload = some given → Accepts side given draft.merged) :
    (applyGiven settings side payload draft).Straight Quick False := by
  cases payload with
  | none => trivial
  | some payload =>
      obtain ⟨provider, resolved, known, supplied⟩ := accepts payload rfl
      simp only [applyGiven, applySide, resolved, known, supplied, Prog.lift, Prog.bind_eq, Prog.bind_ret]
      exact straight_each side payload provider.fields _

theorem logging_llm (outside : Outside N) (rows : List (Dict Json)) (op : Op) (world : World N)
    (logging : Logging op) (held : world.store.llm = rows) : (exec outside op world).2.store.llm = rows := by
  cases op with
  | store statement =>
      rcases exec_moves outside statement world with same | same
      · rw [same]
        exact held
      · rw [same]
        cases statement <;> first | exact held | exact logging.elim
  | _ =>
      rw [exec_elsewhere outside _ world (fun statement same => by cases same)]
      exact held

/-- From the write on, an update returns if its requests are all carried out. -/
theorem written_returns (reliable : outside.Reliable) {call : Call} {before doc : Dict Json}
    {world middle : World N} (event : AuditEvent) (found : storedConfig world = some before)
    (rewritten : Rewritten settings call before doc) (held : middle.store = world.store) :
    Prog.Leaves (exec outside)
      ((Prog.perform (Op.store (.updateLlm llmConfigId doc)) : Hub Unit).bind fun _ =>
        (record settings event).bind fun _ => rawGet.bind fun raw => .ret (renderForRead raw))
      middle fun outcome _ => ∃ view, outcome = .ok view := by
  apply Keeping.leaves_reliable_then reliable
  intro written updated
  have stored : written.store.llm.find? (hasId llmConfigId) = some doc := by
    rw [updated, held]
    exact Editing.find_overwritten found (has_id_of_rewritten rewritten)
  apply Prog.leaves_straight_then (fun state => state.store.llm = written.store.llm)
    (logging_record settings event)
  · exact Prog.yields_of_only (Prog.only_of_straight (logging_record settings event) fun _ logging => logging)
  · rfl
  · exact logging_succeeds reliable
  · exact logging_llm outside written.store.llm
  intro _ last _ unlogged
  have reread : (last.store.llm.filter (hasId llmConfigId)).head? = some doc := by
    rw [List.head?_filter, unlogged]
    exact stored
  rw [rawGet, Prog.bind_eq, Prog.bind_assoc]
  apply Keeping.leaves_reliable_then reliable
  intro after _
  simp only [StoreOp.apply, reread]
  exact ⟨_, rfl⟩

theorem update_returns (reliable : outside.Reliable) {call : Call} {before : Dict Json} {world : World N}
    (found : storedConfig world = some before) (accepts : Acceptable call before) :
    Prog.Leaves (exec outside) (serveCall settings call) world fun outcome _ =>
      ∃ view, outcome = .ok view := by
  have inference : ∀ given, call.inference = some given → Accepts .inference given (stripped before) :=
    fun given same => accepts_same (stripped_side _ before) (accepts.accepts .inference given same)
  unfold serveCall update
  apply leaves_require_then
  · intro _
    rw [rawGet, Prog.bind_eq, Prog.bind_eq, Prog.bind_assoc]
    apply Keeping.leaves_reliable_then reliable
    intro read same
    have store : read.store = world.store := same
    have rows : (world.store.llm.filter (hasId llmConfigId)).head? = some before := by
      rw [List.head?_filter]
      exact found
    simp only [StoreOp.apply, rows]
    have succeeds := quick_succeeds outside
    have kept := quick_keeps outside world.store
    apply Prog.leaves_straight_then (fun state => state.store = world.store)
      (@straight_given settings .inference call.inference ⟨stripped before, auditView before, []⟩ inference)
      (yields_given settings .inference call.inference _) store succeeds kept
    intro first between laid unread
    have embedding : ∀ given, call.embedding = some given → Accepts .embedding given first.merged := by
      intro given same
      have apart : SameSide .embedding (stripped before) first.merged := fun name =>
        laid.2 _ (.inr fun _ => key_ne_key (by decide) _ _)
      exact accepts_same (same_side_trans (stripped_side _ before) apart)
        (accepts.accepts .embedding given same)
    apply Prog.leaves_straight_then (fun state => state.store = world.store) (straight_given embedding)
      (yields_given settings .embedding call.embedding _) unread succeeds kept
    intro draft middle later held
    rw [Prog.bind_eq, now, Prog.leaves_bind, Prog.leaves_perform]
    have ticked : (exec outside .clock middle).2.store = world.store := held
    exact written_returns reliable _ found (rewritten_of_drafts _ laid later) ticked
  · exact fun absent => absurd accepts.asked absent

end Lehen.Laying
