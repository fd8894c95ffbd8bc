import Lehen.Editing

/-!
Concurrent updates of the two sides of the LLM configuration, and what holds of
concurrent edits in general.
-/

namespace Lehen.Configuring

open Storage OAuth Schedule Overwriting Footprint Editing LlmService
open Registry (FieldSpec)
open Prog (yields_bind yields_lift yields_mono only_bind only_of_straight only_perform
  follows_perform_then follows_require_then)

variable {N : Type} (settings : Settings)

/-- One call of `LLMService.update`. -/
structure Call where
  actor : AuditService.CurrentUser
  inference : Option (Dict Json)
  embedding : Option (Dict Json)
  requestId : Option String

def serveCall (call : Call) : Hub LlmView :=
  update settings call.actor call.inference call.embedding call.requestId

def Call.payload (call : Call) : Side → Option (Dict Json)
  | .inference => call.inference
  | .embedding => call.embedding

/-- No side is given by both. -/
def DifferentSides (first second : Call) : Prop :=
  ∀ side, first.payload side = none ∨ second.payload side = none

/-! Keys of the document. -/

def slot (side : Side) (field : FieldSpec) : String :=
  if field.secret then side.encryptedKey field.name else side.key field.name

theorem key_begins (side : Side) (name : String) :
    (side.key name).toList.take 2 = side.text.toList.take 2 := by
  cases side <;> simp [Side.key, Side.text]

theorem key_ne_key {side other : Side} (different : side ≠ other) (name name' : String) :
    side.key name ≠ other.key name' := by
  intro same
  have begins := congrArg (fun key => key.toList.take 2) same
  simp only [key_begins] at begins
  cases side <;> cases other <;> first | exact different rfl | exact absurd begins (by decide)

/-- The other keys of the document. -/
theorem key_ne_text (side : Side) (name : String) :
    side.key name ≠ "id" ∧ side.key name ≠ "updated_by" ∧ side.key name ≠ "updated_at" := by
  have begins := key_begins side name
  refine ⟨?_, ?_, ?_⟩ <;>
  · intro same
    rw [same] at begins
    cases side <;> exact absurd begins (by decide)

theorem key_not_internal (side : Side) (name : String) : isInternal (side.key name) = false := by
  cases side <;> simp [isInternal, Side.key, Side.text]

theorem slots_nodup (side : Side) (provider : LlmProvider) (registered : provider ∈ llmProviders) :
    (side.key "provider" :: provider.fields.map (slot side)).Nodup := by
  have all : ∀ provider ∈ llmProviders,
      (side.key "provider" :: provider.fields.map (slot side)).Nodup := by
    cases side <;> decide +kernel
  exact all provider registered

theorem registered_of_get {providerId : String} {provider : LlmProvider}
    (found : getProvider providerId = .ok provider) : provider ∈ llmProviders := by
  unfold getProvider at found
  split at found
  · next hit =>
      obtain rfl := Except.ok.inj found
      exact List.mem_of_find?_eq_some hit
  · cases found

theorem registered_of_provider {raw : Dict Json} {side : Side} {spec : LlmProvider}
    (found : providerOf raw side = some spec) : spec ∈ llmProviders := by
  unfold providerOf at found
  dsimp only at found
  split at found
  · cases known : getProvider ((raw.lookup (side.key "provider")).getD .null).toStr with
    | error error => rw [known] at found; cases found
    | ok spec' =>
        rw [known] at found
        obtain rfl := Option.some.inj found
        exact registered_of_get known
  · cases found

theorem registered_of_resolve {side : Side} {payload : Dict Json} {provider : LlmProvider}
    (found : resolveProvider side payload = .ok provider) : provider ∈ llmProviders := by
  unfold resolveProvider at found
  dsimp only at found
  split at found
  · cases known : getProvider ((payload.lookup "provider").getD .null).toStr with
    | error exc =>
        rw [known] at found
        cases found
    | ok spec =>
        rw [known] at found
        obtain rfl := Except.ok.inj found
        exact registered_of_get known
  · cases found

theorem lookup_strip {key : String} (raw : Dict Json) (stored : isInternal key = false) :
    (stripInternals raw).lookup key = raw.lookup key := by
  apply Option.ext
  intro value
  rw [← Option.mem_def, ← Option.mem_def, AList.mem_lookup_iff, AList.mem_lookup_iff]
  simp [stripInternals, stored]

/-! What an update makes of the document. -/

/-- A secret that is given is stored as an envelope of it, or cleared. -/
def SecretCarried (side : Side) (fieldName : String) (value : Json) (doc : Dict Json) : Prop :=
  value ≠ .null →
    if value.isBlank then doc.lookup (side.encryptedKey fieldName) = some .null
    else ∃ envelope, doc.lookup (side.encryptedKey fieldName) = some (.str envelope) ∧
      Seals settings envelope value.toStr

/-- What a payload sets, a document has. -/
def FieldCarried (side : Side) (payload doc : Dict Json) (field : FieldSpec) : Prop :=
  let value := (payload.lookup field.name).getD .null
  if field.secret then SecretCarried settings side field.name value doc
  else doc.lookup (side.key field.name) = some (cleaned value)

def SideCarried (side : Side) (payload doc : Dict Json) : Prop :=
  ∃ provider, resolveProvider side payload = .ok provider ∧
    doc.lookup (side.key "provider") = some (.str provider.id) ∧
    ∀ field ∈ provider.fields, FieldCarried settings side payload doc field

def Carried (call : Call) (doc : Dict Json) : Prop :=
  ∀ side payload, call.payload side = some payload → SideCarried settings side payload doc

/-- Two documents that agree on what is stored of a side. -/
def SameSide (side : Side) (before doc : Dict Json) : Prop :=
  ∀ name, doc.lookup (side.key name) = before.lookup (side.key name)

theorem side_carried_same {side : Side} {payload before doc : Dict Json}
    (same : SameSide side before doc) (carried : SideCarried settings side payload before) :
    SideCarried settings side payload doc := by
  obtain ⟨provider, resolved, named, fields⟩ := carried
  refine ⟨provider, resolved, (same "provider").trans named, fun field member => ?_⟩
  have held := fields field member
  simp only [FieldCarried, SecretCarried, Side.encryptedKey] at held ⊢
  rw [same, same]
  exact held

/-- A secret that is left out stays what it was. -/
def FieldKept (side : Side) (payload before doc : Dict Json) (field : FieldSpec) : Prop :=
  field.secret → (payload.lookup field.name).getD .null = .null →
    doc.lookup (slot side field) = before.lookup (slot side field)

/-- What laying a payload over one side of a document comes to: it was accepted,
its fields are carried, and the side is otherwise as it was. -/
structure Laid (side : Side) (payload : Dict Json) (provider : LlmProvider)
    (before doc : Dict Json) : Prop where
  resolved : resolveProvider side payload = .ok provider
  known : validatePayloadKeys side provider payload = .ok ()
  supplied : validateRequiredFields side provider payload before = .ok ()
  named : doc.lookup (side.key "provider") = some (.str provider.id)
  carried : ∀ field ∈ provider.fields, FieldCarried settings side payload doc field
  kept : ∀ field ∈ provider.fields, FieldKept side payload before doc field
  rest : ∀ name, side.key name ∉ side.key "provider" :: provider.fields.map (slot side) →
    doc.lookup (side.key name) = before.lookup (side.key name)

theorem side_carried_of_laid {side : Side} {payload before doc : Dict Json} {provider : LlmProvider}
    (laid : Laid settings side payload provider before doc) :
    SideCarried settings side payload doc :=
  ⟨provider, laid.resolved, laid.named, laid.carried⟩

theorem yields_secret (side : Side) (fieldName : String) (value : Json) (draft : Draft) :
    (applySecretField settings side fieldName value draft).Yields Quick fun after =>
      SecretCarried settings side fieldName value after.merged ∧
        (value = .null → after.merged = draft.merged) ∧
        ∀ key, key ≠ side.encryptedKey fieldName →
          after.merged.lookup key = draft.merged.lookup key := by
  unfold applySecretField
  split
  · exact ⟨fun present => absurd rfl present, fun _ => rfl, fun _ _ => rfl⟩
  · next present =>
      split
      · next blank =>
          refine ⟨fun _ => ?_, fun absent => absurd absent present, fun key different =>
            AList.lookup_insert_ne different⟩
          rw [if_pos blank]
          exact AList.lookup_insert _
      · next filled =>
          apply yields_bind (yields_encrypt settings _)
          intro envelope seals
          refine ⟨fun _ => ?_, fun absent => absurd absent present, fun key different =>
            AList.lookup_insert_ne different⟩
          rw [if_neg filled]
          exact ⟨envelope, AList.lookup_insert _, seals⟩

theorem yields_field (side : Side) (payload : Dict Json) (field : FieldSpec) (draft : Draft) :
    (applyField settings side payload field draft).Yields Quick fun after =>
      FieldCarried settings side payload after.merged field ∧
        FieldKept side payload draft.merged after.merged field ∧
        ∀ key, key ≠ slot side field → after.merged.lookup key = draft.merged.lookup key := by
  unfold applyField FieldCarried FieldKept slot
  by_cases secret : field.secret
  · simp only [if_pos secret]
    apply yields_mono (yields_secret settings side field.name _ draft)
    rintro after ⟨carried, same, frame⟩
    exact ⟨carried, fun _ absent => by rw [same absent], frame⟩
  · simp only [if_neg secret]
    exact ⟨AList.lookup_insert _, fun hidden => absurd hidden secret, fun key different =>
      AList.lookup_insert_ne different⟩

theorem field_carried_same {side : Side} {payload before doc : Dict Json} {field : FieldSpec}
    (same : doc.lookup (slot side field) = before.lookup (slot side field))
    (carried : FieldCarried settings side payload before field) :
    FieldCarried settings side payload doc field := by
  unfold FieldCarried SecretCarried slot at *
  split at carried
  · rw [if_pos ‹_›] at same ⊢
    rw [same]
    exact carried
  · rw [if_neg ‹_›] at same ⊢
    rw [same]
    exact carried

/-- Fields with slots of their own: each is applied and none is overwritten. -/
theorem yields_each (side : Side) (payload : Dict Json) (fields : List FieldSpec) (draft : Draft)
    (nodup : (fields.map (slot side)).Nodup) :
    (applyEach settings side payload draft fields).Yields Quick fun after =>
      (∀ field ∈ fields, FieldCarried settings side payload after.merged field) ∧
        (∀ field ∈ fields, FieldKept side payload draft.merged after.merged field) ∧
        ∀ key, key ∉ fields.map (slot side) → after.merged.lookup key = draft.merged.lookup key := by
  induction fields generalizing draft with
  | nil => exact ⟨nofun, nofun, fun _ _ => rfl⟩
  | cons field rest ih =>
      rw [List.map_cons, List.nodup_cons] at nodup
      apply yields_bind (yields_field settings side payload field draft)
      rintro next ⟨carried, kept, frame⟩
      apply yields_mono (ih next nodup.2)
      rintro after ⟨others, held, later⟩
      refine ⟨?_, ?_, ?_⟩
      · have still := field_carried_same settings (later _ nodup.1) carried
        exact List.forall_mem_cons.mpr ⟨still, others⟩
      · intro other member hidden absent
        rcases List.mem_cons.mp member with rfl | behind
        · exact (later _ nodup.1).trans (kept hidden absent)
        · have apart : slot side other ≠ slot side field := by
            intro same
            exact nodup.1 (same ▸ List.mem_map_of_mem behind)
          exact (held other behind hidden absent).trans (frame _ apart)
      · intro key outside
        rw [List.map_cons, List.mem_cons, not_or] at outside
        exact (later key outside.2).trans (frame key outside.1)

/-- Every slot of a side is a key of that side. -/
theorem slot_key (side : Side) (field : FieldSpec) : ∃ name, slot side field = side.key name := by
  unfold slot
  split
  · exact ⟨_, rfl⟩
  · exact ⟨_, rfl⟩

theorem yields_side (side : Side) (payload : Dict Json) (draft : Draft) :
    (applySide settings side payload draft).Yields Quick fun after =>
      (∃ provider, Laid settings side payload provider draft.merged after.merged) ∧
        ∀ key, (∀ name, key ≠ side.key name) →
          after.merged.lookup key = draft.merged.lookup key := by
  apply yields_bind (yields_lift fun provider resolved => resolved)
  intro provider resolved
  have nodup := slots_nodup side provider (registered_of_resolve resolved)
  rw [List.nodup_cons] at nodup
  apply yields_bind (yields_lift fun _ known => known)
  intro _ known
  apply yields_bind (yields_lift fun _ supplied => supplied)
  intro _ supplied
  apply yields_mono (yields_each settings side payload provider.fields _ nodup.2)
  rintro after ⟨carried, kept, frame⟩
  constructor
  · refine ⟨provider, resolved, known, supplied, ?_, carried, ?_, ?_⟩
    · rw [frame _ nodup.1]
      exact AList.lookup_insert _
    · intro field member hidden absent
      have apart : slot side field ≠ side.key "provider" := by
        intro same
        exact nodup.1 (same ▸ List.mem_map_of_mem member)
      exact (kept field member hidden absent).trans (AList.lookup_insert_ne apart)
    · intro name outside
      rw [List.mem_cons, not_or] at outside
      exact (frame _ outside.2).trans (AList.lookup_insert_ne outside.1)
  · intro key outside
    have unslotted : key ∉ provider.fields.map (slot side) := by
      intro member
      obtain ⟨field, _, rfl⟩ := List.mem_map.mp member
      obtain ⟨name, same⟩ := slot_key side field
      exact outside name same
    rw [frame key unslotted]
    exact AList.lookup_insert_ne (outside "provider")

theorem yields_given (side : Side) (payload : Option (Dict Json)) (draft : Draft) :
    (applyGiven settings side payload draft).Yields Quick fun after =>
      (∀ given, payload = some given →
        ∃ provider, Laid settings side given provider draft.merged after.merged) ∧
        ∀ key, (payload = none ∨ ∀ name, key ≠ side.key name) →
          after.merged.lookup key = draft.merged.lookup key := by
  cases payload with
  | none => exact ⟨nofun, fun _ _ => rfl⟩
  | some payload =>
      apply yields_mono (yields_side settings side payload draft)
      rintro after ⟨laid, frame⟩
      constructor
      · rintro given same
        cases same
        exact laid
      · rintro key (absent | outside)
        · cases absent
        · exact frame key outside

/-- The stored configuration, under calls that update it. -/
def llmCell : Cell Call Op Op.Res PyError (Dict Json) (World N) :=
  { document := fun world => world.store.llm.find? (hasId llmConfigId)
    within := fun op =>
      match op with
      | .store (.updateLlm id _) => id = llmConfigId
      | _ => True
    reads := fun op answer =>
      match op, answer with
      | .store (.selectLlm id), .ok rows => if id = llmConfigId then rows.head? else none
      | _, _ => none
    writes := fun op =>
      match op with
      | .store (.updateLlm _ doc) => some doc
      | _ => none
    edits := fun call before doc =>
      hasId llmConfigId doc ∧ Carried settings call doc ∧
        ∀ side, call.payload side = none → SameSide side before doc
    carries := Carried settings }

theorem llm_cell_tabled :
    Tabled (llmCell settings : Cell Call Op Op.Res PyError (Dict Json) (World N))
      fun store => store.llm.find? (hasId llmConfigId) where
  document _ := rfl
  unread := by
    intro op answer other
    cases op with
    | store statement => exact absurd rfl (other statement)
    | _ => rfl
  unwritten := by
    intro op other
    cases op with
    | store statement => exact absurd rfl (other statement)
    | _ => rfl
  failed := by
    intro statement error
    cases statement <;> rfl
  shown := by
    intro statement store doc shown
    cases statement with
    | selectLlm id =>
        simp only [llmCell] at shown
        split at shown
        · next same =>
            subst same
            rw [← List.head?_filter]
            exact shown
        · cases shown
    | _ => cases shown
  quiet := by
    intro statement store _ idle
    cases statement <;> first | rfl | cases idle
  stored := by
    intro call statement store before doc present within writes edits
    cases statement with
    | updateLlm id row =>
        obtain rfl := Option.some.inj writes
        obtain rfl : id = llmConfigId := within
        exact find_overwritten present edits.1
    | _ => cases writes

/-- What an update does besides its write. -/
def Surrounding : Op → Prop
  | .store (.selectLlm _) => True
  | op => Auditing op

theorem surrounding_of_auditing (op : Op) (auditing : Auditing op) : Surrounding op := by
  unfold Surrounding
  split <;> trivial

theorem surrounding_idle (op : Op) (surrounding : Surrounding op) :
    (llmCell settings : Cell Call Op Op.Res PyError (Dict Json) (World N)).within op ∧
      (llmCell settings : Cell Call Op Op.Res PyError (Dict Json) (World N)).writes op = none := by
  cases op with
  | store statement => cases statement <;> first | exact ⟨trivial, rfl⟩ | cases surrounding
  | _ => exact ⟨trivial, rfl⟩

/-- The document an update writes, from the one it read. -/
theorem update_edits (call : Call) (before : Dict Json) (first second : Draft) (at_ : Json)
    (inference : (∀ given, call.inference = some given → ∃ provider,
        Laid settings .inference given provider
          ((stripInternals before).insert "id" (.str llmConfigId)) first.merged) ∧
      ∀ key, (call.inference = none ∨ ∀ name, key ≠ Side.inference.key name) →
        first.merged.lookup key =
          ((stripInternals before).insert "id" (.str llmConfigId)).lookup key)
    (embedding : (∀ given, call.embedding = some given → ∃ provider,
        Laid settings .embedding given provider first.merged second.merged) ∧
      ∀ key, (call.embedding = none ∨ ∀ name, key ≠ Side.embedding.key name) →
        second.merged.lookup key = first.merged.lookup key) :
    (llmCell settings : Cell Call Op Op.Res PyError (Dict Json) (World N)).edits call before
      ((second.merged.insert "updated_by" (.str call.actor.username)).insert "updated_at" at_) := by
  have stamped (side : Side) : SameSide side second.merged
      ((second.merged.insert "updated_by" (.str call.actor.username)).insert "updated_at" at_) := by
    intro name
    rw [AList.lookup_insert_ne (key_ne_text side name).2.2,
      AList.lookup_insert_ne (key_ne_text side name).2.1]
  have read (side : Side) : SameSide side before
      ((stripInternals before).insert "id" (.str llmConfigId)) := by
    intro name
    rw [AList.lookup_insert_ne (key_ne_text side name).1, lookup_strip before (key_not_internal side name)]
  have different : Side.embedding ≠ .inference := nofun
  -- Each side is laid under its own keys, and leaves those of the other one.
  have first_kept : SameSide .embedding
      ((stripInternals before).insert "id" (.str llmConfigId)) first.merged := fun name =>
    inference.2 _ (.inr fun _ => key_ne_key different _ _)
  have second_kept : SameSide .inference first.merged second.merged := fun name =>
    embedding.2 _ (.inr fun _ => key_ne_key different.symm _ _)
  refine ⟨?_, ?_, ?_⟩
  · have unsided (side : Side) (name : String) : "id" ≠ side.key name :=
      fun same => (key_ne_text side name).1 same.symm
    have named : (second.merged).lookup "id" = some (.str llmConfigId) := by
      rw [embedding.2 "id" (.inr (unsided .embedding)), inference.2 "id" (.inr (unsided .inference))]
      exact AList.lookup_insert _
    rw [hasId, AList.lookup_insert_ne (by decide), AList.lookup_insert_ne (by decide), named]
    rfl
  · intro side payload given
    cases side with
    | inference =>
        obtain ⟨provider, laid⟩ := inference.1 payload given
        have carried := side_carried_same settings second_kept (side_carried_of_laid settings laid)
        exact side_carried_same settings (stamped _) carried
    | embedding =>
        obtain ⟨provider, laid⟩ := embedding.1 payload given
        exact side_carried_same settings (stamped _) (side_carried_of_laid settings laid)
  · intro side absent name
    rw [stamped side name]
    cases side with
    | inference => rw [second_kept name, inference.2 _ (.inl absent), read .inference name]
    | embedding => rw [embedding.2 _ (.inl absent), first_kept name, read .embedding name]

theorem call_served (call : Call) :
    (savingProtocol
      (llmCell settings : Cell Call Op Op.Res PyError (Dict Json) (World N))).Served
      (serveCall settings) call := by
  let cell : Cell Call Op Op.Res PyError (Dict Json) (World N) := llmCell settings
  have quick (op : Op) (fast : Quick op) : cell.within op ∧ cell.writes op = none :=
    surrounding_idle settings op (surrounding_of_auditing op (auditing_of_quick op fast))
  have clock : Quick .clock := rfl
  have saves : Saves cell call .fresh (serveCall settings call) := by
    unfold serveCall update
    apply follows_require_then
    · intro _
      unfold rawGet
      simp only [Prog.bind_eq, query, Prog.bind_assoc]
      apply saves_read_then trivial rfl
      · intro rows before shown
        have head : rows.head? = some before := by simpa [cell, llmCell] using shown
        simp only [head, Prog.pure_eq, Prog.bind_ret]
        apply saves_held_then (yields_given settings .inference call.inference _) quick
        intro first inference
        apply saves_held_then (yields_given settings .embedding call.embedding _) quick
        intro second embedding
        apply follows_perform_then
        · exact idle_allowed (quick _ clock).1 (quick _ clock).2
        · intro instant
          have within : cell.within (.store (.updateLlm llmConfigId
              ((second.merged.insert "updated_by" (.str call.actor.username)).insert "updated_at"
                (.str (isoformat instant))))) := rfl
          apply saves_write_then within rfl
          · exact update_edits settings call before first second _ inference embedding
          · intro _
            refine saves_wrote ?_ (surrounding_idle settings)
            apply only_bind (only_of_straight (auditing_record ..) surrounding_of_auditing)
            intro _
            apply only_bind (only_perform trivial)
            intro rows
            cases rows.head? <;> trivial
        · rintro _ _ ⟨⟩
      · intro rows missing
        have head : rows.head? = none := by simpa [cell, llmCell] using missing
        simp only [head, fail, Prog.bind_raise]
        rintro _ ⟨⟩
    · rintro _ _ ⟨⟩
  exact saves

theorem carried_left {first second : Call} {before doc : Dict Json}
    (different : DifferentSides first second)
    (left : ∀ side, first.payload side = none → SameSide side before doc)
    (carried : Carried settings second before) : Carried settings second doc := by
  intro side payload given
  rcases different side with absent | absent
  · exact side_carried_same settings (left side absent) (carried side payload given)
  · rw [given] at absent
    cases absent

def storedConfig (world : World N) : Option (Dict Json) := world.store.llm.find? (hasId llmConfigId)

def callPool (outside : Outside N) (world : World N) (first second : Call)
    (events : List (Event Call)) : Pool (World N) Call Op Op.Res PyError LlmView :=
  (begun (serveCall settings) world [first, second]).play (exec outside) instant
    (serveCall settings) events

theorem calls_carried {outside : Outside N} {world : World N} {first second : Call}
    {events : List (Event Call)} (different : DifferentSides first second)
    (disciplined : Disciplined (exec outside) instant (serveCall settings)
      (ReadsAlone (llmCell settings)) (begun (serveCall settings) world [first, second]) events)
    (finished : ∀ task ∈ (callPool settings outside world first second events).tasks,
      Returned task) (call : Call) (member : call ∈ [first, second]) :
    ∃ doc, storedConfig (callPool settings outside world first second events).state = some doc ∧
      Carried settings call doc := by
  let cell : Cell Call Op Op.Res PyError (Dict Json) (World N) := llmCell settings
  have forth : cell.Apart first second := fun before doc edits =>
    carried_left settings different edits.2.2
  have back : cell.Apart second first := fun before doc edits =>
    carried_left settings (fun side => (different side).symm) edits.2.2
  exact all_carried (lawful_of_tabled (llm_cell_tabled settings) outside) (fun _ _ _ edits => edits.2.1) world
    [first, second] events (call_served settings) (apart_pair forth back) disciplined finished call
    member

/-- Over any interleaving of two calls in which neither reads the document while
the other is between its read and its write, the document that is left when both
have returned carries both changes: of two updates of one instance with disjoint
changes, and of two updates of different sides of the LLM configuration. -/
theorem changes_carried (outside : Outside N) (world : World N) :
    (∀ (instanceId : String) (first second : Edit) (events : List (Event Edit)),
      DisjointChanges first.changes second.changes →
      Disciplined (exec outside) instant (serveEdit settings instanceId)
        (ReadsAlone (instanceCell settings instanceId))
        (begun (serveEdit settings instanceId) world [first, second]) events →
      (∀ task ∈ (editPool settings instanceId outside world first second events).tasks,
        Returned task) →
      ∃ row, storedInstance instanceId
          (editPool settings instanceId outside world first second events).state = some row ∧
        Carries settings first.changes row ∧ Carries settings second.changes row) ∧
    ∀ (first second : Call) (events : List (Event Call)), DifferentSides first second →
      Disciplined (exec outside) instant (serveCall settings) (ReadsAlone (llmCell settings))
        (begun (serveCall settings) world [first, second]) events →
      (∀ task ∈ (callPool settings outside world first second events).tasks, Returned task) →
      ∃ doc, storedConfig (callPool settings outside world first second events).state = some doc ∧
        Carried settings first doc ∧ Carried settings second doc := by
  constructor
  · intro instanceId first second events disjoint disciplined finished
    have each := edits_carried settings disjoint disciplined finished
    obtain ⟨row, stored, carries⟩ := each first (by simp)
    obtain ⟨row', stored', carries'⟩ := each second (by simp)
    rw [stored] at stored'
    obtain rfl := Option.some.inj stored'
    exact ⟨row, stored, carries, carries'⟩
  · intro first second events different disciplined finished
    have each := calls_carried settings different disciplined finished
    obtain ⟨doc, stored, carried⟩ := each first (by simp)
    obtain ⟨doc', stored', carried'⟩ := each second (by simp)
    rw [stored] at stored'
    obtain rfl := Option.some.inj stored'
    exact ⟨doc, stored, carried, carried'⟩

/-! One administrator disables the sample instance while another renames it, and
two set one side each. -/

def disableEdit : Edit := ⟨AuditService.sampleUser, { enabled := some false }, none⟩

def renameEdit : Edit := ⟨AuditService.sampleUser, { displayName := some "Post" }, none⟩

def modelPayload (model : String) : Dict Json :=
  Dict.ofList [("provider", .str "ollama"), ("base_url", .str "http://ollama"), ("model", .str model)]

def inferenceCall : Call := ⟨AuditService.sampleUser, some (modelPayload "gemma"), none, none⟩

def embeddingCall : Call := ⟨AuditService.sampleUser, none, some (modelPayload "nomic"), none⟩

def configuredWorld : World Unit :=
  ⟨{ mappedStore with llm := [Dict.ofList
      [("id", .str llmConfigId), ("inference_provider", .str "ollama"),
        ("inference_base_url", .str "http://ollama"), ("inference_model", .str "llama"),
        ("embedding_provider", .str "ollama"), ("embedding_base_url", .str "http://ollama"),
        ("embedding_model", .str "llama")]] }, ()⟩

def sampleEdits (events : List (Event Edit)) :
    Pool (World Unit) Edit Op Op.Res PyError IntegrationsService.InstanceView :=
  editPool sampleSettings "mail" (Outside.still unreachable) configuredWorld disableEdit renameEdit
    events

def sampleCalls (events : List (Event Call)) : Pool (World Unit) Call Op Op.Res PyError LlmView :=
  callPool sampleSettings (Outside.still unreachable) configuredWorld inferenceCall embeddingCall
    events

theorem sample_disjoint : DisjointChanges disableEdit.changes renameEdit.changes where
  displayName := .inl rfl
  enabled := .inr rfl
  multiConnectionAllowed := .inl rfl
  config := by
    rintro name ⟨config, value, given, _⟩
    cases given

theorem sample_sides : DifferentSides inferenceCall embeddingCall := by
  intro side
  cases side with
  | inference => exact .inr rfl
  | embedding => exact .inl rfl

def textAt (doc : Dict Json) (key : String) : String :=
  match doc.lookup key with
  | some (.str text) => text
  | _ => ""

/-- Both read before either writes: the rename enables the instance again, and the
call that sets the embedding side puts the old inference model back. -/
theorem overlapping_changes_lost :
    (∀ task ∈ (sampleEdits [.resume 0, .resume 1, .resume 0, .resume 0, .resume 0, .resume 1,
        .resume 1]).tasks, Returned task) ∧
      (∃ row, storedInstance "mail" (sampleEdits [.resume 0, .resume 1, .resume 0, .resume 0,
          .resume 0, .resume 1, .resume 1]).state = some row ∧ row.enabled = true ∧
        DisjointChanges disableEdit.changes renameEdit.changes ∧
        ¬ Carries sampleSettings disableEdit.changes row) ∧
      (∀ task ∈ (sampleCalls [.resume 0, .resume 1, .resume 0, .resume 0, .resume 0, .resume 1,
        .resume 1, .resume 1]).tasks, Returned task) ∧
      ∃ doc, storedConfig (sampleCalls [.resume 0, .resume 1, .resume 0, .resume 0, .resume 0,
          .resume 1, .resume 1, .resume 1]).state = some doc ∧
        DifferentSides inferenceCall embeddingCall ∧ ¬ Carried sampleSettings inferenceCall doc := by
  have edits : (∀ task ∈ (sampleEdits [.resume 0, .resume 1, .resume 0, .resume 0, .resume 0,
        .resume 1, .resume 1]).tasks, Returned task) ∧
      (storedInstance "mail" (sampleEdits [.resume 0, .resume 1, .resume 0, .resume 0, .resume 0,
        .resume 1, .resume 1]).state).map InstanceRow.enabled = some true := by
    decide +kernel
  have calls : (∀ task ∈ (sampleCalls [.resume 0, .resume 1, .resume 0, .resume 0, .resume 0,
        .resume 1, .resume 1, .resume 1]).tasks, Returned task) ∧
      (storedConfig (sampleCalls [.resume 0, .resume 1, .resume 0, .resume 0, .resume 0, .resume 1,
        .resume 1, .resume 1]).state).map (textAt · "inference_model") = some "llama" := by
    decide +kernel
  refine ⟨edits.1, ?_, calls.1, ?_⟩
  · obtain ⟨row, stored, enabled⟩ := Option.map_eq_some_iff.mp edits.2
    refine ⟨row, stored, enabled, sample_disjoint, fun carries => ?_⟩
    rw [carries.enabled false rfl] at enabled
    cases enabled
  · obtain ⟨doc, stored, model⟩ := Option.map_eq_some_iff.mp calls.2
    refine ⟨doc, stored, sample_sides, fun carried => ?_⟩
    obtain ⟨provider, resolved, _, fields⟩ := carried .inference (modelPayload "gemma") rfl
    have known : provider = ollama := by
      cases resolved
      rfl
    subst known
    have held := fields { name := "model", required := true } (by decide)
    have found : doc.lookup "inference_model" = some (.str "gemma") := held
    rw [textAt, found] at model
    exact absurd model (by decide)

def oneAfterTheOther (Req : Type) : List (Event Req) :=
  List.replicate 4 (.resume 0) ++ List.replicate 4 (.resume 1)

theorem changes_in_turn_carried :
    (∃ row, storedInstance "mail" (sampleEdits (oneAfterTheOther Edit)).state = some row ∧
        Carries sampleSettings disableEdit.changes row ∧
        Carries sampleSettings renameEdit.changes row) ∧
      ∃ doc, storedConfig (sampleCalls (oneAfterTheOther Call)).state = some doc ∧
        Carried sampleSettings inferenceCall doc ∧ Carried sampleSettings embeddingCall doc := by
  have carried := changes_carried sampleSettings (Outside.still unreachable) configuredWorld
  constructor
  · apply carried.1 "mail" disableEdit renameEdit (oneAfterTheOther Edit) sample_disjoint
    · have checked : along (exec (Outside.still unreachable)) instant
          (serveEdit sampleSettings "mail")
          (readsAlone (instanceCell sampleSettings "mail"))
          (begun (serveEdit sampleSettings "mail") configuredWorld [disableEdit, renameEdit])
          (oneAfterTheOther Edit) = true := by
        decide +kernel
      exact disciplined_of_along _ _ checked reads_alone_sound
    · have finished : ∀ task ∈ (sampleEdits (oneAfterTheOther Edit)).tasks, Returned task := by
        decide +kernel
      exact finished
  · apply carried.2 inferenceCall embeddingCall (oneAfterTheOther Call) sample_sides
    · have checked : along (exec (Outside.still unreachable)) instant (serveCall sampleSettings)
          (readsAlone (llmCell sampleSettings))
          (begun (serveCall sampleSettings) configuredWorld [inferenceCall, embeddingCall])
          (oneAfterTheOther Call) = true := by
        decide +kernel
      exact disciplined_of_along _ _ checked reads_alone_sound
    · have finished : ∀ task ∈ (sampleCalls (oneAfterTheOther Call)).tasks, Returned task := by
        decide +kernel
      exact finished

end Lehen.Configuring
