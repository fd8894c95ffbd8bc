import Lehen.Trail

/-!
Completed admin operations write the audit trail on: the next event about a
target begins with what the last one left.
-/

namespace Lehen.History

open Storage OAuth AuditService Registry IntegrationsService ConnectionsService Masking Trail
open SiamService (siamId mappingOf)
open LlmService (llmConfigId llmProviders auditView Side)
open Footprint (Quick)
open Prog (yields_bind yields_mono yields_require_then yields_and)

variable {N : Type} (settings : Settings)

/-- What the next event about a target would tell as the state before. -/
def snapshot (store : Store) : Target → Option (Dict Json)
  | .place id => stored store (.place id)
  | .llm => (store.llm.find? (hasId llmConfigId)).map auditView
  | .siam =>
      some (mappingDocument (mappingOf (store.siam.filter fun row => row.id = siamId)).toJson)

/-- Both sides of the document name a registered provider, with its public fields. -/
structure Complete (doc : Dict Json) : Prop where
  provider : ∀ side : Side, ∃ provider ∈ llmProviders,
    doc.lookup (side.key "provider") = some (.str provider.id)
  fields : ∀ side : Side, ∀ name ∈ ["base_url", "model"], ∃ value,
    doc.lookup (side.key name) = some value

/-- A store whose trails are faithful, and can be written on. -/
structure Traced (store : Store) : Prop where
  chained : ∀ target,
    (trail target store.audits).IsChain fun previous next => Covers previous.after next.before
  current : ∀ target, ∀ event ∈ (trail target store.audits).getLast?,
    Covers (stored store target) event.after
  ahead : ∀ target, ∀ event ∈ (trail target store.audits).getLast?,
    Covers event.after (snapshot store target)
  complete : ∀ doc, store.llm.find? (hasId llmConfigId) = some doc → Complete doc

/-- The tables a trail is about, and the log. -/
structure Untouched (before after : Store) : Prop where
  instances : after.instances = before.instances
  siam : after.siam = before.siam
  llm : after.llm = before.llm
  audits : after.audits = before.audits

theorem traced_untouched {before after : Store} (traced : Traced before)
    (same : Untouched before after) : Traced after := by
  have held (target : Target) : stored after target = stored before target := by
    cases target with
    | place id => rw [stored, stored, same.instances]
    | llm => rw [stored, stored, same.llm]
    | siam => rw [stored, stored, same.siam]
  have told (target : Target) : snapshot after target = snapshot before target := by
    cases target with
    | place id => exact held (.place id)
    | llm => rw [snapshot, snapshot, same.llm]
    | siam => rw [snapshot, snapshot, same.siam]
  constructor
  · rw [same.audits]
    exact traced.chained
  · intro target event last
    rw [same.audits] at last
    rw [held]
    exact traced.current target event last
  · intro target event last
    rw [same.audits] at last
    rw [told]
    exact traced.ahead target event last
  · rw [same.llm]
    exact traced.complete

/-- One more event, about one target. -/
theorem traced_appended {store after : Store} {event : AdminAuditEvent} {target : Target}
    (traced : Traced store) (audits : after.audits = store.audits ++ [event])
    (own : targetOf event = some target)
    (others : ∀ other, other ≠ target →
      stored after other = stored store other ∧ snapshot after other = snapshot store other)
    (before : Covers (snapshot store target) event.before)
    (current : Covers (stored after target) event.after)
    (ahead : Covers event.after (snapshot after target))
    (complete : ∀ doc, after.llm.find? (hasId llmConfigId) = some doc → Complete doc) :
    Traced after := by
  have grown : trail target after.audits = trail target store.audits ++ [event] := by
    rw [audits, trail, List.filter_append, trail]
    simp [own]
  -- The trails of the other targets have not grown.
  have kept (other : Target) (different : other ≠ target) :
      trail other after.audits = trail other store.audits := by
    have elsewhere : ¬ targetOf event = some other := by
      rw [own]
      exact fun same => different (Option.some.inj same).symm
    rw [audits, trail, List.filter_append, trail]
    simp [elsewhere]
  have last : (trail target after.audits).getLast? = some event := by
    rw [grown, List.getLast?_concat]
  constructor
  · intro other
    by_cases same : other = target
    · subst same
      rw [grown]
      apply List.isChain_append.mpr
      refine ⟨traced.chained other, List.isChain_singleton event, ?_⟩
      intro previous final next first
      obtain rfl := Option.some.inj first
      exact covers_trans (traced.ahead other previous final) before
    · rw [kept other same]
      exact traced.chained other
  · intro other next final
    by_cases same : other = target
    · subst same
      rw [last] at final
      obtain rfl := Option.some.inj final
      exact current
    · rw [kept other same] at final
      rw [(others other same).1]
      exact traced.current other next final
  · intro other next final
    by_cases same : other = target
    · subst same
      rw [last] at final
      obtain rfl := Option.some.inj final
      exact ahead
    · rw [kept other same] at final
      rw [(others other same).2]
      exact traced.ahead other next final
  · exact complete

/-! Operations that leave the tables alone. -/

/-- Reads, and what a cascade does. -/
def Aside : Op → Prop
  | .store (.selectInstance _) | .store .selectInstances | .store (.selectSiam _)
  | .store (.selectLlm _) => True
  | op => Cascading op

theorem aside_of_cascading (op : Op) (cascading : Cascading op) : Aside op := by
  unfold Aside
  split <;> trivial

theorem untouched_step {outside : Outside N} {store : Store} (op : Op) (world : World N)
    (aside : Aside op) (same : Untouched store world.store) :
    Untouched store (exec outside op world).2.store := by
  cases op with
  | store statement =>
      rcases exec_moves outside statement world with unchanged | applied
      · rw [unchanged]
        exact same
      · rw [applied]
        cases statement <;> first | exact ⟨same.instances, same.siam, same.llm, same.audits⟩ | cases aside
  | _ =>
      rw [exec_elsewhere outside _ world (fun statement same => by cases same)]
      exact same

theorem traced_only {α : Type} {outside : Outside N} {world : World N} {body : Hub α}
    (only : body.Only Aside) (traced : Traced world.store) :
    Prog.Leaves (exec outside) body world fun _ after => Traced after.store := by
  have untouched : Prog.Leaves (exec outside) body world fun _ after =>
      Untouched world.store after.store :=
    Prog.leaves_only _ only ⟨rfl, rfl, rfl, rfl⟩ fun op state aside same =>
      untouched_step op state aside same
  apply Prog.leaves_mono untouched
  intro _ after same
  exact traced_untouched traced same

/-! Tables after a statement. -/

theorem find_elsewhere {rows : List InstanceRow} {doc : InstanceRow} {id other : String}
    (own : doc.id = id) (different : other ≠ id) :
    (rows.map fun row => if row.id = id then doc else row).find? (fun row => row.id = other) =
      rows.find? fun row => row.id = other := by
  have tests : ((fun row : InstanceRow => decide (row.id = other)) ∘
      fun row => if row.id = id then doc else row) = fun row => decide (row.id = other) := by
    funext row
    by_cases hit : row.id = id
    · simp [hit, own]
    · simp [hit]
  rw [List.find?_map, tests]
  cases found : rows.find? fun row => row.id = other with
  | none => rfl
  | some row =>
      have named : row.id = other := by simpa using List.find?_some found
      have kept : ¬ row.id = id := fun same => different (named.symm.trans same)
      simp [kept]

theorem find_kept {rows : List InstanceRow} {id other : String} (different : other ≠ id) :
    (rows.filter fun row => row.id ≠ id).find? (fun row => row.id = other) =
      rows.find? fun row => row.id = other := by
  rw [List.find?_filter]
  congr 1
  funext row
  by_cases hit : row.id = other
  · simp [hit, different]
  · simp [hit]

theorem find_gone (rows : List InstanceRow) (id : String) :
    (rows.filter fun row => row.id ≠ id).find? (fun row => row.id = id) = none := by
  rw [List.find?_filter, List.find?_eq_none]
  intro row _
  simp

/-- Only one instance of the store is another. -/
structure OnlyPlace (id : String) (before after : Store) : Prop where
  instances : ∀ other, other ≠ id →
    after.instances.find? (fun row => row.id = other) = before.instances.find? fun row => row.id = other
  siam : after.siam = before.siam
  llm : after.llm = before.llm

/-- An event about an instance, when only that one was written. -/
theorem traced_place {store after : Store} {event : AdminAuditEvent} {id : String}
    (traced : Traced store) (only : OnlyPlace id store after)
    (audits : after.audits = store.audits ++ [event]) (own : targetOf event = some (.place id))
    (before : Covers (stored store (.place id)) event.before)
    (agree : Agree (stored after (.place id)) event.after) : Traced after := by
  apply traced_appended traced audits own
  · intro other different
    have same : stored after other = stored store other := by
      cases other with
      | place other =>
          rw [stored, stored, only.instances other fun same => different (congrArg Target.place same)]
      | llm => rw [stored, stored, only.llm]
      | siam => rw [stored, stored, only.siam]
    refine ⟨same, ?_⟩
    cases other with
    | place other => exact same
    | llm => rw [snapshot, snapshot, only.llm]
    | siam => rw [snapshot, snapshot, only.siam]
  · exact before
  · exact agree.1
  · exact agree.2
  · rw [only.llm]
    exact traced.complete

theorem agree_trans {first second third : Option (Dict Json)} (left : Agree first second)
    (right : Agree second third) : Agree first third :=
  ⟨covers_trans left.1 right.1, covers_trans right.2 left.2⟩

theorem traced_created {store : Store} {row : InstanceRow} {entry : AdminAuditEvent}
    (traced : Traced store) (free : store.instances.find? (fun other => other.id = row.id) = none)
    (own : targetOf entry = some (.place row.id)) (before : Covers none entry.before)
    (after : Agree (some (placeDocument row)) entry.after) :
    Traced { store with
      instances := store.instances ++ [row], audits := store.audits ++ [entry] } := by
  apply traced_place traced _ rfl own
  · rw [stored, free]
    exact before
  · simp only [stored, List.find?_append, free]
    simpa using after
  · refine ⟨?_, rfl, rfl⟩
    intro other different
    simp [List.find?_append, Ne.symm different]

theorem traced_updated {store : Store} {before row : InstanceRow} {id : String}
    {entry : AdminAuditEvent} (traced : Traced store)
    (found : store.instances.find? (fun row => row.id = id) = some before) (same : row.id = id)
    (own : targetOf entry = some (.place id)) (read : Covers (some (placeDocument before)) entry.before)
    (after : Agree (some (placeDocument row)) entry.after) :
    Traced { store with
      instances := store.instances.map fun other => if other.id = id then row else other
      audits := store.audits ++ [entry] } := by
  apply traced_place traced _ rfl own
  · rw [stored, found]
    exact read
  · have matched : decide (row.id = id) = true := decide_eq_true same
    have overwritten := Editing.find_overwritten found matched
    simp only [decide_eq_true_eq] at overwritten
    simp only [stored, overwritten]
    exact after
  · exact ⟨fun other different => find_elsewhere same different, rfl, rfl⟩

theorem traced_deleted {store : Store} {before : InstanceRow} {id : String}
    {entry : AdminAuditEvent} (traced : Traced store)
    (found : store.instances.find? (fun row => row.id = id) = some before)
    (own : targetOf entry = some (.place id)) (read : Covers (some (placeDocument before)) entry.before)
    (after : Agree none entry.after) :
    Traced { store with
      instances := store.instances.filter fun row => row.id ≠ id
      audits := store.audits ++ [entry] } := by
  apply traced_place traced _ rfl own
  · rw [stored, found]
    exact read
  · simp only [stored, find_gone]
    exact after
  · exact ⟨fun other different => find_kept different, rfl, rfl⟩

theorem target_place {event : AuditEvent} {entry : AdminAuditEvent} {id : String}
    (logged : Logged event entry) (targetId : event.targetId = some id)
    (action : event.action ∈ ["integration.create", "integration.update", "integration.delete"]) :
    targetOf entry = some (.place id) := by
  rw [targetOf, logged.action, if_pos action, logged.targetId, targetId]
  rfl

/-! Snapshots of instances. -/

theorem lookup_merge {β : Type} (old new : Dict β) (key : String) :
    (Dict.merge old new).lookup key = (new.lookup key).or (old.lookup key) := by
  by_cases supplied : key ∈ new
  · obtain ⟨value, found⟩ := Option.isSome_iff_exists.mp (AList.lookup_isSome.mpr supplied)
    rw [Dict.lookup_merge_new old new key supplied, found]
    rfl
  · rw [Dict.lookup_merge_old old new key supplied, AList.lookup_eq_none.mpr supplied]
    rfl

theorem lookup_insert_ite {β : Type} (dict : Dict β) (key name : String) (value : β) :
    (dict.insert name value).lookup key = if key = name then some value else dict.lookup key := by
  by_cases same : key = name
  · subst same
    rw [AList.lookup_insert, if_pos rfl]
  · rw [AList.lookup_insert_ne same, if_neg same]

/-- The secrets among the names of a snapshot are not looked up. -/
theorem hidden_plaintext {spec : IntegrationType} (registered : spec ∈ integrationTypes)
    {plaintext : Dict String} (named : ∀ name ∈ plaintext, name ∈ spec.secretFieldNames)
    {key : String} (open_ : key ∉ secretKeys) :
    (Dict.ofList (plaintext.entries.map fun entry => (entry.1, Json.str entry.2))).lookup key =
      none := by
  rw [AList.lookup_eq_none, mem_of_list, List.map_map]
  intro member
  exact open_ (key_known (secret_known registered (named key member)))

theorem hidden_existing {spec : IntegrationType} (registered : spec ∈ integrationTypes)
    (row : InstanceRow) {key : String} (open_ : key ∉ secretKeys) :
    (existingSecrets spec row).lookup key = none := by
  rw [existingSecrets, AList.lookup_eq_none, mem_of_list, List.map_map]
  intro member
  obtain ⟨name, listed, rfl⟩ := List.mem_map.mp member
  exact open_ (key_known (secret_known registered (List.mem_of_mem_filter listed)))

theorem base_lookup {fields : List (String × Json)} (base : ∀ entry ∈ fields, entry.1 ∈ baseKeys)
    {key : String} (other : key ∉ baseKeys) : (Dict.ofList fields).lookup key = none := by
  rw [AList.lookup_eq_none, mem_of_list]
  intro member
  obtain ⟨entry, listed, rfl⟩ := List.mem_map.mp member
  exact other (base entry listed)

theorem config_lookup {spec : IntegrationType} (registered : spec ∈ integrationTypes)
    {config : Dict Json} (named : ∀ name ∈ config, name ∈ spec.publicFieldNames) {key : String}
    (base : key ∈ baseKeys) : config.lookup key = none :=
  AList.lookup_eq_none.mpr fun member => public_not_base registered (named key member) base

/-- The fields of an instance that are not config, as an update changes them. -/
theorem changed_base (before : InstanceRow) (changes : Changes) (key : String) :
    (Dict.ofList
      [("id", Json.str before.id), ("type", .str before.type),
        ("display_name", .str (changes.displayName.getD before.displayName)),
        ("enabled", .bool (changes.enabled.getD before.enabled)),
        ("multi_connection_allowed",
          .bool (changes.multiConnectionAllowed.getD before.multiConnectionAllowed))]).lookup key =
      (changes.audit.lookup key).or
        ((Dict.ofList
          [("id", Json.str before.id), ("type", .str before.type),
            ("display_name", .str before.displayName), ("enabled", .bool before.enabled),
            ("multi_connection_allowed", .bool before.multiConnectionAllowed)]).lookup key) := by
  obtain ⟨displayName, config, enabled, multi⟩ := changes
  cases displayName <;> cases enabled <;> cases multi <;>
    simp only [Changes.audit, Dict.ofList, Option.map_some, Option.map_none, Option.toList_some,
      Option.toList_none, List.nil_append, List.append_nil, List.cons_append, List.foldl_cons,
      List.foldl_nil, lookup_insert_ite, AList.lookup_empty, Option.getD_some, Option.getD_none,
      Option.none_or] <;>
    split_ifs <;> simp_all

/-- What a create logs is what it stores. -/
theorem created_agree {spec : IntegrationType} (registered : spec ∈ integrationTypes)
    (row : InstanceRow) {plaintext : Dict String}
    (named : ∀ name ∈ plaintext, name ∈ spec.secretFieldNames) :
    Agree (some (placeDocument row)) (some (Dict.merge (placeDocument row)
      (Dict.ofList (plaintext.entries.map fun entry => (entry.1, .str entry.2))))) := by
  apply agree_of_lookup
  intro key open_
  rw [lookup_merge _ _ key, hidden_plaintext registered named open_]
  rfl

/-- What an update or a delete logs as the state before is what was stored. -/
theorem before_agree {spec : IntegrationType} (registered : spec ∈ integrationTypes)
    (row : InstanceRow) :
    Agree (some (placeDocument row))
      (some (Dict.merge (placeDocument row) (existingSecrets spec row))) := by
  apply agree_of_lookup
  intro key open_
  rw [lookup_merge _ _ key, hidden_existing registered row open_]
  rfl

/-- The document of a merged row, key by key. -/
theorem merged_lookup {spec : IntegrationType} (registered : spec ∈ integrationTypes)
    {before : InstanceRow} {changes : Changes} {split : SplitConfig} (updatedBy : String)
    (updatedAt : Time) (stored : ∀ name ∈ before.configPublic, name ∈ spec.publicFieldNames)
    (given : ∀ name ∈ split.publicFields, name ∈ spec.publicFieldNames) (key : String) :
    (placeDocument (mergedDoc before changes split updatedBy updatedAt)).lookup key =
      (split.publicFields.lookup key).or
        ((changes.audit.lookup key).or ((placeDocument before).lookup key)) := by
  rw [placeDocument, placeDocument, lookup_merge, lookup_merge]
  simp only [mergedDoc]
  rw [lookup_merge, changed_base]
  by_cases base : key ∈ baseKeys
  · rw [config_lookup registered stored base, config_lookup registered given base]
    rfl
  · have untouched : changes.audit.lookup key = none := by
      apply base_lookup _ base
      simp only [List.mem_append, Option.mem_toList, Option.map_eq_some_iff]
      rintro entry ((⟨name, _, rfl⟩ | ⟨flag, _, rfl⟩) | ⟨flag, _, rfl⟩) <;> simp [baseKeys]
    rw [untouched, Option.none_or, Option.or_assoc]
    rfl

/-- What an update logs as the state after is what it stores. -/
theorem updated_agree {spec : IntegrationType} (registered : spec ∈ integrationTypes)
    {before : InstanceRow} (changes : Changes) {split : SplitConfig} (updatedBy : String)
    (updatedAt : Time) (stored : ∀ name ∈ before.configPublic, name ∈ spec.publicFieldNames)
    (given : ∀ name ∈ split.publicFields, name ∈ spec.publicFieldNames)
    (named : ∀ name ∈ split.plaintext, name ∈ spec.secretFieldNames) :
    Agree (some (placeDocument (mergedDoc before changes split updatedBy updatedAt)))
      (some (Dict.merge (Dict.merge (Dict.merge
        (Dict.merge (placeDocument before) (existingSecrets spec before)) changes.audit)
          split.publicFields)
            (Dict.ofList (split.plaintext.entries.map fun entry => (entry.1, .str entry.2))))) := by
  apply agree_of_lookup
  intro key open_
  rw [merged_lookup registered updatedBy updatedAt stored given, lookup_merge, lookup_merge,
    lookup_merge, lookup_merge, hidden_plaintext registered named open_,
    hidden_existing registered before open_]
  rfl

/-- A delete logs less of the row than an update. -/
theorem deleted_covers {spec : IntegrationType} (registered : spec ∈ integrationTypes)
    (row : InstanceRow) :
    Covers (some (placeDocument row))
      (some (Dict.merge
        (Dict.merge
          (Dict.ofList
            [("id", .str row.id), ("type", .str row.type), ("display_name", .str row.displayName)])
          row.configPublic) (existingSecrets spec row))) := by
  intro key open_ value found
  rw [lookup_merge, hidden_existing registered row open_, Option.none_or, lookup_merge] at found
  rw [placeDocument, lookup_merge]
  cases config : row.configPublic.lookup key with
  | some other =>
      rw [config] at found
      exact found
  | none =>
      rw [config, Option.none_or] at found
      rw [Option.none_or]
      have entry := lookup_of_list found
      simp only [List.mem_cons, Prod.mk.injEq, List.not_mem_nil, or_false] at entry
      rcases entry with ⟨rfl, rfl⟩ | ⟨rfl, rfl⟩ | ⟨rfl, rfl⟩ <;>
        simp [Dict.ofList, -AList.insert_empty]

/-! The plaintext of a split config stays under the names of secrets. -/

theorem yields_plaintext (spec : IntegrationType) (config : Dict Json) (fields : List FieldSpec)
    (inside : ∀ field ∈ fields, field ∈ spec.fields) (split : SplitConfig)
    (named : ∀ name ∈ split.plaintext, name ∈ spec.secretFieldNames) :
    (splitFields settings config split fields).Yields Quick fun after =>
      ∀ name ∈ after.plaintext, name ∈ spec.secretFieldNames := by
  induction fields generalizing split with
  | nil => exact named
  | cons field rest ih =>
      have later : ∀ other ∈ rest, other ∈ spec.fields := fun other member =>
        inside other (List.mem_cons_of_mem _ member)
      apply yields_require_then
      intro _
      split
      · exact ih later _ named
      · exact ih later _ named
      · split
        · next secret =>
            apply yields_bind (Editing.yields_encrypt settings _)
            intro envelope _
            apply ih later
            intro name member
            rcases (AList.mem_insert _).mp member with rfl | earlier
            · exact Conforming.secret_name (inside field List.mem_cons_self) secret
            · exact named name earlier
        · exact ih later _ named

/-- The names a split config has on each side. -/
structure Named (spec : IntegrationType) (split : SplitConfig) : Prop where
  publicFields : ∀ name ∈ split.publicFields, name ∈ spec.publicFieldNames
  plaintext : ∀ name ∈ split.plaintext, name ∈ spec.secretFieldNames

theorem named_empty (spec : IntegrationType) : Named spec ⟨∅, ∅, ∅⟩ :=
  ⟨fun name member => absurd member (AList.notMem_empty name),
    fun name member => absurd member (AList.notMem_empty name)⟩

theorem yields_named (spec : IntegrationType) (config : Dict Json) :
    (splitConfig settings spec config).Yields Quick (Named spec) := by
  apply yields_require_then
  intro _
  apply yields_mono (yields_and
    (Conforming.yields_sound settings config spec.fields spec.fields _ (fun _ member => member)
      (Conforming.sound_empty _))
    (yields_plaintext settings spec config spec.fields (fun _ member => member) _
      (named_empty spec).plaintext))
  rintro split ⟨⟨sound, _⟩, plaintext⟩
  refine ⟨?_, plaintext⟩
  intro name member
  obtain ⟨field, known, open_, rfl⟩ := sound.publicKeys name member
  exact Conforming.public_name known open_

theorem yields_changes_named (spec : IntegrationType) (changes : Changes) :
    (splitChanges settings spec changes).Yields Quick (Named spec) := by
  unfold splitChanges
  cases changes.config with
  | none => exact named_empty spec
  | some config => exact yields_named settings spec config

/-! The operations on instances. -/

variable {settings} {outside : Outside N}

theorem known_secrets {spec : IntegrationType} (registered : spec ∈ integrationTypes) :
    ∀ name ∈ spec.secretFieldNames, name ∈ secretKeys :=
  fun _ named => key_known (secret_known registered named)

theorem traced_create (reliable : outside.Reliable) (world : World N) (actor : CurrentUser)
    (instanceId typeId displayName : String) (config : Dict Json) (multi enabled : Bool)
    (requestId : Option String) (traced : Traced world.store) :
    Prog.Leaves (exec outside) (create settings actor instanceId typeId displayName config multi
      enabled requestId) world fun _ after => Traced after.store := by
  apply Prog.leaves_lift_then
  · intro spec found
    have registered := registered_of_type (type_of_reworded found)
    apply Prog.leaves_require_then
    · intro _
      apply Keeping.leaves_reliable_then reliable
      intro read same
      have store : read.store = world.store := same
      apply Prog.leaves_require_then
      · intro absent
        have empty : world.store.instances.filter (fun row => row.id = instanceId) = [] :=
          List.isEmpty_iff.mp absent
        have free : world.store.instances.find? (fun row => row.id = instanceId) = none := by
          rw [← List.head?_filter, empty]
          rfl
        apply Prog.leaves_yields_then (fun state => state.store = world.store)
          (yields_named settings spec config) store
        · exact fun op state quick held => Conforming.quick_store outside op state quick held
        · intro split before named held
          rw [Prog.bind_eq, now, Prog.leaves_bind, Prog.leaves_perform]
          have ticked : (exec outside .clock before).2.store = world.store := held
          apply Keeping.leaves_reliable_then reliable
          intro written inserted
          apply leaves_record_then settings reliable (known_secrets registered)
          intro entry last logged appended
          rw [Prog.pure_eq, Prog.leaves_ret, appended, inserted, ticked]
          exact traced_created traced free (target_place logged rfl (by simp)) logged.before.1
            (agree_trans (created_agree registered _ named.plaintext) logged.after)
        · intro error last held
          rw [held]
          exact traced
      · intro _
        rw [store]
        exact traced
    · exact fun _ => traced
  · exact fun _ _ => traced

/-- A program that begins with the first row of an id. -/
theorem leaves_first_then {α : Type} (reliable : outside.Reliable) {instanceId : String}
    {rest : InstanceRow → Hub α} {world : World N} {post : Except PyError α → World N → Prop}
    (failed : ∀ error after, after.store = world.store → post (.error error) after)
    (done : ∀ row (after : World N),
      world.store.instances.find? (fun row => row.id = instanceId) = some row →
        after.store = world.store → Prog.Leaves (exec outside) (rest row) after post) :
    Prog.Leaves (exec outside) ((rawGet instanceId).bind rest) world post := by
  rw [rawGet, Prog.bind_eq, Prog.bind_assoc]
  apply Keeping.leaves_reliable_then reliable
  intro after same
  simp only [StoreOp.apply, List.head?_filter] at same ⊢
  cases first : world.store.instances.find? fun row => row.id = instanceId with
  | none => exact failed _ after same
  | some row => exact done row after first same

theorem traced_update (reliable : outside.Reliable) (world : World N) (actor : CurrentUser)
    (instanceId : String) (changes : Changes) (requestId : Option String)
    (conform : Conforming.AllConform settings world.store) (traced : Traced world.store) :
    Prog.Leaves (exec outside) (update settings (revokeAllForInstance settings · · ·) actor instanceId
      changes requestId) world fun _ after => Traced after.store := by
  apply leaves_first_then reliable
  · intro error after same
    rw [same]
    exact traced
  · intro before after found same
    have named : before.id = instanceId := by simpa using List.find?_some found
    subst named
    obtain ⟨spec, known, conforms⟩ := conform.rows before (List.mem_of_find?_eq_some found)
    have registered := registered_of_type known
    apply Prog.leaves_lift_then
    · intro other looked
      rw [known] at looked
      cases looked
      apply Prog.leaves_require_then
      · intro _
        apply Prog.leaves_yields_then (fun state => state.store = world.store)
          (yields_changes_named settings spec changes) same
        · exact fun op state quick held => Conforming.quick_store outside op state quick held
        · intro split middle names held
          rw [Prog.bind_eq, now, Prog.leaves_bind, Prog.leaves_perform]
          have ticked : (exec outside .clock middle).2.store = world.store := held
          apply Keeping.leaves_reliable_then reliable
          intro written updated
          apply leaves_record_then settings reliable (known_secrets registered)
          intro entry last logged appended
          have later : Traced last.store := by
            rw [appended, updated, ticked]
            -- The event shows the row as it was and as it was written.
            have merged := updated_agree registered changes actor.username
              (outside.clock middle.outside).1 conforms.publicKeys names.publicFields names.plaintext
            exact traced_updated traced found rfl (target_place logged rfl (by simp))
              (agree_trans (before_agree registered before) logged.before).1
              (agree_trans merged logged.after)
          apply traced_only _ later
          apply Prog.only_bind (Prog.only_when (Prog.only_mono (cascading_revoke_all ..)
            aside_of_cascading))
          exact fun _ => trivial
        · intro error last held
          rw [held]
          exact traced
      · intro _
        rw [same]
        exact traced
    · intro _ _
      rw [same]
      exact traced

theorem traced_delete (reliable : outside.Reliable) (world : World N) (actor : CurrentUser)
    (instanceId : String) (requestId : Option String)
    (conform : Conforming.AllConform settings world.store) (traced : Traced world.store) :
    Prog.Leaves (exec outside) (delete settings (revokeAllForInstance settings · · ·) actor instanceId
      requestId) world fun _ after => Traced after.store := by
  apply leaves_first_then reliable
  · intro error after same
    rw [same]
    exact traced
  · intro before after found same
    have named : before.id = instanceId := by simpa using List.find?_some found
    subst named
    obtain ⟨spec, known, conforms⟩ := conform.rows before (List.mem_of_find?_eq_some found)
    have registered := registered_of_type known
    -- The cascade that comes first touches neither the instances nor their log.
    have untouched : Prog.Leaves (exec outside)
        (revokeAllForInstance settings before.id "revoked-by-admin-delete" requestId) after
        fun _ later => Untouched world.store later.store := by
      rw [← same]
      apply Prog.leaves_only _ (cascading_revoke_all ..) ⟨rfl, rfl, rfl, rfl⟩
      exact fun op state cascading held => untouched_step op state (aside_of_cascading op cascading) held
    rw [Prog.bind_eq, Prog.leaves_bind]
    apply Prog.leaves_mono untouched
    intro outcome swept held
    have still := traced_untouched traced held
    cases outcome with
    | error error => exact still
    | ok count =>
        apply Keeping.leaves_reliable_then reliable
        intro removed deleted
        apply Prog.leaves_lift_then
        · intro other looked
          rw [known] at looked
          cases looked
          apply leaves_record settings reliable (known_secrets registered)
          intro entry last logged appended
          have instances : swept.store.instances = world.store.instances := held.instances
          have present : swept.store.instances.find? (fun row => row.id = before.id) = some before := by
            rw [instances]
            exact found
          rw [appended, deleted]
          exact traced_deleted still present (target_place logged rfl (by simp))
            (covers_trans (deleted_covers registered before) logged.before.1) logged.after
        · intro error looked
          rw [known] at looked
          cases looked

end Lehen.History
