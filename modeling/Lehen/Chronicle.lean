import Lehen.Drafting
import Lehen.Recording

/-!
The whole admin surface writes faithful trails: LLM updates and mapping
replacements beside the operations on instances, from the store bootstrap leaves.
-/

namespace Lehen.Chronicle

open Storage OAuth AuditService ConnectionsService Masking Trail History Drafting Recording
open Conforming (AllConform Shrinking conform_create conform_edit conform_only
  shrinking_of_diminishing shrinking_of_quick shrinking_of_logging)
open SiamService (siamId mappingOf normalize stringsOf Mapping)
open LlmService (llmConfigId auditView Side Draft rawGet applyGiven)
open Configuring (key_ne_text)

variable {N : Type} {settings : Settings} {outside : Outside N}

/-! LLM updates. -/

/-- The document an update writes from its draft. -/
def stamped (draft : Draft) (updatedBy updatedAt : String) : Dict Json :=
  (draft.merged.insert "updated_by" (.str updatedBy)).insert "updated_at" (.str updatedAt)

theorem stamped_slot (draft : Draft) (updatedBy updatedAt : String) (side : Side) (name : String) :
    (stamped draft updatedBy updatedAt).lookup (side.key name) =
      draft.merged.lookup (side.key name) := by
  have ⟨_, author, instant⟩ := key_ne_text side name
  rw [stamped, AList.lookup_insert_ne instant, AList.lookup_insert_ne author]

theorem stamped_id {draft : Draft} (steady : Steady draft) (updatedBy updatedAt : String) :
    hasId llmConfigId (stamped draft updatedBy updatedAt) = true := by
  rw [hasId, stamped, AList.lookup_insert_ne (by decide), AList.lookup_insert_ne (by decide),
    steady.id]
  rfl

theorem stamped_complete {draft : Draft} (steady : Steady draft) (updatedBy updatedAt : String) :
    Complete (stamped draft updatedBy updatedAt) := by
  constructor
  · intro side
    obtain ⟨provider, registered, found⟩ := steady.provider side
    exact ⟨provider, registered, (stamped_slot draft updatedBy updatedAt side _).trans found⟩
  · intro side name field
    obtain ⟨value, held, _⟩ := steady.shared side name (List.mem_cons_of_mem _ field)
    exact ⟨value, (stamped_slot draft updatedBy updatedAt side name).trans held⟩

/-- What an update logs as the state after is in the document it writes. -/
theorem stamped_covers {draft : Draft} (steady : Steady draft) (updatedBy updatedAt : String) :
    Covers (some (stamped draft updatedBy updatedAt)) (some draft.afterAudit) := by
  intro key open_ value found
  have member : key ∈ draft.afterAudit :=
    AList.lookup_isSome.mp (Option.isSome_iff_exists.mpr ⟨value, found⟩)
  obtain ⟨side, name, slot, rfl⟩ := steady.keys key member open_
  obtain ⟨shared, held, told⟩ := steady.shared side name slot
  rw [told] at found
  rw [stamped_slot, held, found]

/-- The snapshot taken of that document says nothing that was not logged. -/
theorem view_covered {draft : Draft} (steady : Steady draft) (updatedBy updatedAt : String) :
    Covers (some draft.afterAudit) (some (auditView (stamped draft updatedBy updatedAt))) := by
  intro key open_ value found
  obtain ⟨side, name, slot, rfl, same⟩ := view_lookup open_ found
  obtain ⟨shared, held, told⟩ := steady.shared side name slot
  rw [same shared ((stamped_slot draft updatedBy updatedAt side name).trans held)]
  exact told

theorem traced_configured {store : Store} {before : Dict Json} {draft : Draft}
    {entry : AdminAuditEvent} (updatedBy updatedAt : String) (traced : Traced store)
    (found : store.llm.find? (hasId llmConfigId) = some before) (steady : Steady draft)
    (own : targetOf entry = some .llm) (read : Covers (some (auditView before)) entry.before)
    (after : Agree (some draft.afterAudit) entry.after) :
    Traced { store with
      llm := store.llm.map fun row =>
        if hasId llmConfigId row then stamped draft updatedBy updatedAt else row
      audits := store.audits ++ [entry] } := by
  have written := Editing.find_overwritten found (stamped_id steady updatedBy updatedAt)
  apply traced_appended traced rfl own
  · intro other different
    cases other with
    | llm => exact absurd rfl different
    | place id => exact ⟨rfl, rfl⟩
    | siam => exact ⟨rfl, rfl⟩
  · rw [snapshot, found]
    exact read
  · simp only [stored, written]
    exact covers_trans (stamped_covers steady updatedBy updatedAt) after.1
  · simp only [snapshot, written]
    exact covers_trans after.2 (view_covered steady updatedBy updatedAt)
  · intro doc same
    simp only [written] at same
    obtain rfl := Option.some.inj same
    exact stamped_complete steady updatedBy updatedAt

theorem target_llm {event : AuditEvent} {entry : AdminAuditEvent} (logged : Logged event entry)
    (action : event.action = "llm.update") : targetOf entry = some .llm := by
  rw [targetOf, logged.action, action]
  rfl

theorem traced_update_llm (reliable : outside.Reliable) (world : World N) (actor : CurrentUser)
    (inference embedding : Option (Dict Json)) (requestId : Option String)
    (traced : Traced world.store) :
    Prog.Leaves (exec outside) (LlmService.update settings actor inference embedding requestId) world
      fun _ after => Traced after.store := by
  apply Prog.leaves_require_then
  · intro _
    rw [rawGet, Prog.bind_eq, Prog.bind_eq, Prog.bind_assoc]
    apply Keeping.leaves_reliable_then reliable
    intro read same
    have store : read.store = world.store := same
    simp only [StoreOp.apply, List.head?_filter]
    cases found : world.store.llm.find? (hasId llmConfigId) with
    | none =>
        rw [← store] at traced
        exact traced
    | some before =>
        have failed (error : PyError) (after : World N) (held : after.store = world.store) :
            Traced after.store := by
          rw [held]
          exact traced
        have kept (op : Op) (state : World N) (quick : Footprint.Quick op)
            (held : state.store = world.store) : (exec outside op state).2.store = world.store :=
          Conforming.quick_store outside op state quick held
        apply Prog.leaves_yields_then (fun state => state.store = world.store)
          (yields_steady settings .inference inference (steady_start (traced.complete before found)))
          store kept _ failed
        intro first between half still
        apply Prog.leaves_yields_then (fun state => state.store = world.store)
          (yields_steady settings .embedding embedding half) still kept _ failed
        intro draft middle steady held
        rw [Prog.bind_eq, now, Prog.leaves_bind, Prog.leaves_perform]
        have ticked : (exec outside .clock middle).2.store = world.store := held
        apply Keeping.leaves_reliable_then reliable
        intro written updated
        apply leaves_record_then settings reliable steady.masked
        intro entry last logged appended
        have later : Traced last.store := by
          rw [appended, updated, ticked]
          exact traced_configured actor.username _ traced found steady (target_llm logged rfl)
            logged.before.1 logged.after
        apply traced_only _ later
        apply Prog.only_bind
        · apply Prog.only_bind (Prog.only_perform trivial)
          intro rows
          split <;> trivial
        · exact fun _ => trivial
  · exact fun _ => traced

/-! The mapping. -/

theorem strings_written (ids : List String) : stringsOf (ids.map Json.str) = ids := by
  rw [stringsOf, List.filterMap_map]
  exact List.filterMap_some

theorem ids_settled (ids : List String) :
    (ids.dedup.insertionSort (· ≤ ·)).dedup.insertionSort (· ≤ ·) =
      ids.dedup.insertionSort (· ≤ ·) := by
  have distinct : (ids.dedup.insertionSort (· ≤ ·)).Nodup :=
    (List.perm_insertionSort _ _).nodup_iff.mpr (List.nodup_dedup ids)
  rw [distinct.dedup]
  exact List.Pairwise.insertionSort_eq (List.pairwise_insertionSort _ _)

theorem roles_ascend (entries : Mapping) :
    (entries.insertionSort fun left right => left.1 ≤ right.1).Pairwise
      fun left right => left.1 ≤ right.1 := by
  have total : Std.Total fun left right : String × List String => left.1 ≤ right.1 :=
    ⟨fun left right => le_total left.1 right.1⟩
  have transitive : IsTrans (String × List String) fun left right => left.1 ≤ right.1 :=
    ⟨fun _ _ _ => le_trans⟩
  exact List.pairwise_insertionSort _ _

/-- What `normalize` makes of one entry. -/
def grantOf (field : String × Json) : Option (String × List String) :=
  match field.2 with
  | .arr items => some (field.1, (stringsOf items).dedup.insertionSort (· ≤ ·))
  | _ => none

/-- A mapping that was normalized is read back as it was written. -/
theorem normalize_written (mapping : Json) :
    SiamService.normalize (SiamService.normalize mapping).toJson = SiamService.normalize mapping := by
  have settled : ∀ entry ∈ SiamService.normalize mapping,
      entry.2.dedup.insertionSort (· ≤ ·) = entry.2 := by
    intro entry member
    unfold SiamService.normalize at member
    split at member
    · rw [List.mem_insertionSort, List.mem_filterMap] at member
      obtain ⟨field, _, same⟩ := member
      split at same
      · obtain rfl := Option.some.inj same
        exact ids_settled _
      · cases same
    · cases member
  have ascending : (SiamService.normalize mapping).Pairwise fun left right => left.1 ≤ right.1 := by
    cases mapping with
    | obj fields => exact roles_ascend _
    | _ => exact .nil
  have same : ∀ entry ∈ SiamService.normalize mapping,
      some (entry.1, (stringsOf (entry.2.map Json.str)).dedup.insertionSort (· ≤ ·)) = some entry := by
    intro entry member
    rw [strings_written, settled entry member]
  have kept : ((SiamService.normalize mapping).map fun entry => (entry.1, Json.arr (entry.2.map Json.str))).filterMap
      grantOf = SiamService.normalize mapping := by
    rw [List.filterMap_map]
    exact (List.filterMap_congr same).trans List.filterMap_some
  have sorted := congrArg (List.insertionSort fun left right => left.1 ≤ right.1) kept
  exact sorted.trans (List.Pairwise.insertionSort_eq ascending)

theorem traced_mapped {store : Store} {rows : List SiamRow} {row : SiamRow} {entry : AdminAuditEvent}
    (traced : Traced store) (written : rows.find? (fun row => row.id = siamId) = some row)
    (settled : (SiamService.normalize row.mapping).toJson = row.mapping) (own : targetOf entry = some .siam)
    (read : Covers (snapshot store .siam) entry.before)
    (after : Agree (some (mappingDocument row.mapping)) entry.after) :
    Traced { store with siam := rows, audits := store.audits ++ [entry] } := by
  apply traced_appended traced rfl own
  · intro other different
    cases other with
    | siam => exact absurd rfl different
    | place id => exact ⟨rfl, rfl⟩
    | llm => exact ⟨rfl, rfl⟩
  · exact read
  · simp only [stored, written]
    exact after.1
  · have told : snapshot { store with siam := rows, audits := store.audits ++ [entry] } .siam =
        some (mappingDocument row.mapping) := by
      simp only [snapshot, SiamService.mappingOf, List.head?_filter, written, settled]
    rw [told]
    exact after.2
  · exact traced.complete

theorem target_siam {event : AuditEvent} {entry : AdminAuditEvent} (logged : Logged event entry)
    (action : event.action = "siam.update") : targetOf entry = some .siam := by
  rw [targetOf, logged.action, action]
  rfl

/-- A write of the mapping, over the rows that were there or beside them. -/
theorem leaves_saved_then {α : Type} (reliable : outside.Reliable) {doc : SiamRow}
    {rest : Unit → Hub α} {world : World N} {post : Except PyError α → World N → Prop}
    (own : doc.id = siamId)
    (done : ∀ rows (after : World N), rows.find? (fun row => row.id = siamId) = some doc →
      after.store = { world.store with siam := rows } → Prog.Leaves (exec outside) (rest ()) after post) :
    Prog.Leaves (exec outside)
      ((SiamService.save (!(world.store.siam.filter fun row => row.id = siamId).isEmpty) doc).bind rest)
      world post := by
  have matched : decide (doc.id = siamId) = true := decide_eq_true own
  cases found : world.store.siam.find? fun row => row.id = siamId with
  | none =>
      have absent : (world.store.siam.filter fun row => row.id = siamId) = [] := by
        rw [← List.head?_filter] at found
        exact List.head?_eq_none_iff.mp found
      rw [absent]
      apply Keeping.leaves_reliable_then reliable
      intro after inserted
      apply done _ after _ inserted
      rw [List.find?_append, found]
      simp [own]
  | some row =>
      have present : (world.store.siam.filter fun row => row.id = siamId) ≠ [] := by
        intro absent
        rw [← List.head?_filter, absent] at found
        cases found
      rw [List.isEmpty_eq_false_iff.mpr present]
      apply Keeping.leaves_reliable_then reliable
      intro after updated
      apply done _ after _ updated
      have overwritten := Editing.find_overwritten found matched
      simp only [decide_eq_true_eq] at overwritten
      exact overwritten

theorem leaves_mapping_then {α : Type} (reliable : outside.Reliable) {rest : Mapping → Hub α}
    {world : World N} {post : Except PyError α → World N → Prop}
    (done : ∀ after : World N, after.store = world.store →
      Prog.Leaves (exec outside) (rest (mappingOf (world.store.siam.filter fun row => row.id = siamId)))
        after post) :
    Prog.Leaves (exec outside) (SiamService.get.bind rest) world post := by
  rw [SiamService.get, Prog.bind_eq, Prog.bind_assoc]
  exact Keeping.leaves_reliable_then reliable done

theorem traced_replace (reliable : outside.Reliable) (world : World N) (actor : CurrentUser)
    (mapping : Json) (requestId : Option String) (traced : Traced world.store) :
    Prog.Leaves (exec outside) (SiamService.replace settings
      (revokeForUsersNoLongerAuthorized settings · · ·) actor mapping requestId) world
      fun _ after => Traced after.store := by
  apply leaves_mapping_then reliable
  intro first same
  rw [Prog.bind_eq, now, Prog.leaves_bind, Prog.leaves_perform]
  have ticked : (exec outside .clock first).2.store = world.store := same
  apply Keeping.leaves_reliable_then reliable
  intro second still
  have store : second.store = world.store := still.trans ticked
  simp only [StoreOp.apply, ticked]
  rw [← store]
  apply leaves_saved_then reliable rfl
  intro rows third found saved
  apply leaves_mapping_then reliable
  intro fourth kept
  have read : mappingOf (third.store.siam.filter fun row => row.id = siamId) = SiamService.normalize mapping := by
    simp only [saved, SiamService.mappingOf, List.head?_filter, found]
    exact normalize_written mapping
  rw [read]
  apply leaves_record_then settings reliable fun name listed => absurd listed List.not_mem_nil
  intro entry last logged appended
  rw [← store] at traced
  have settled := congrArg Mapping.toJson (normalize_written mapping)
  have mapped : Traced { second.store with siam := rows, audits := second.store.audits ++ [entry] } :=
    traced_mapped traced found settled (target_siam logged rfl) logged.before.1 logged.after
  have later : Traced last.store := by
    rw [appended, kept, saved]
    exact mapped
  apply traced_only _ later
  apply Prog.only_bind (Prog.only_when (Prog.only_mono (cascading_revoke_unauthorized ..)
    aside_of_cascading))
  exact fun _ => trivial

/-! Runs of admin operations. -/

/-- What an operation leaves behind does not depend on how its result is replied. -/
theorem leaves_replied {α : Type} {body : Hub α} {world : World N} {inside : World N → Prop}
    (reply : α → Reply) (held : Prog.Leaves (exec outside) body world fun _ after => inside after) :
    Prog.Leaves (exec outside) (body.bind fun value => .ret (reply value)) world
      fun _ after => inside after := by
  rw [Prog.leaves_bind]
  apply Prog.leaves_mono held
  intro outcome after reached
  cases outcome <;> exact reached

/-- The operations that only read. -/
theorem asking_list : IntegrationsService.list.Only Aside :=
  Prog.only_bind (Prog.only_perform trivial) fun _ => trivial

theorem asking_get (instanceId : String) : (IntegrationsService.get instanceId).Only Aside := by
  apply Prog.only_bind (Prog.only_perform trivial)
  intro rows
  split <;> trivial

theorem asking_llm : LlmService.get.Only Aside := by
  apply Prog.only_bind (Prog.only_perform trivial)
  intro rows
  split <;> trivial

/-- Every admin operation keeps the trails faithful. -/
theorem traced_call (reliable : outside.Reliable) (world : World N) (call : AdminCall)
    (conform : AllConform settings world.store) (traced : Traced world.store) :
    Prog.Leaves (exec outside) (administer settings call) world fun _ after => Traced after.store := by
  cases call with
  | createInstance actor instanceId typeId displayName config multi enabled requestId =>
      exact leaves_replied _ (traced_create reliable world actor instanceId typeId displayName config
        multi enabled requestId traced)
  | updateInstance actor instanceId changes requestId =>
      exact leaves_replied _ (traced_update reliable world actor instanceId changes requestId conform
        traced)
  | deleteInstance actor instanceId requestId =>
      exact leaves_replied _ (traced_delete reliable world actor instanceId requestId conform traced)
  | listInstances => exact leaves_replied _ (traced_only asking_list traced)
  | getInstance instanceId => exact leaves_replied _ (traced_only (asking_get instanceId) traced)
  | updateLlm actor inference embedding requestId =>
      exact leaves_replied _ (traced_update_llm reliable world actor inference embedding requestId traced)
  | getLlm => exact leaves_replied _ (traced_only asking_llm traced)
  | replaceMapping actor mapping requestId =>
      exact leaves_replied _ (traced_replace reliable world actor mapping requestId traced)

theorem shrinking_aside (op : Op) (aside : Aside op) : Shrinking op := by
  cases op with
  | store statement => cases statement <;> trivial
  | _ => trivial

theorem shrinking_update_llm (actor : CurrentUser) (inference embedding : Option (Dict Json))
    (requestId : Option String) :
    (LlmService.update settings actor inference embedding requestId).Only Shrinking := by
  have read : LlmService.rawGet.Only Shrinking := by
    apply Prog.only_bind (Prog.only_perform trivial)
    intro rows
    split <;> trivial
  apply Prog.only_bind (Prog.only_require _ _)
  intro _
  apply Prog.only_bind read
  intro before
  have quick {side : Side} {payload : Option (Dict Json)} {draft : Draft} :
      (applyGiven settings side payload draft).Only Shrinking :=
    Prog.only_mono (Prog.only_of_yields (Configuring.yields_given settings side payload draft))
      shrinking_of_quick
  apply Prog.only_bind quick
  intro first
  apply Prog.only_bind quick
  intro draft
  apply Prog.only_bind (Prog.only_perform trivial)
  intro instant
  apply Prog.only_bind (Prog.only_perform trivial)
  intro _
  apply Prog.only_bind (Prog.only_of_straight (Footprint.logging_record ..) shrinking_of_logging)
  intro _
  exact Prog.only_bind read fun _ => trivial

/-- Every admin operation keeps the instances conforming. -/
theorem conform_call (world : World N) (call : AdminCall)
    (conform : AllConform settings world.store) :
    Prog.Leaves (exec outside) (administer settings call) world
      fun _ after => AllConform settings after.store := by
  cases call with
  | createInstance actor instanceId typeId displayName config multi enabled requestId =>
      exact leaves_replied _ (conform_create outside world actor instanceId typeId displayName config
        multi enabled requestId conform)
  | updateInstance actor instanceId changes requestId =>
      exact leaves_replied _ (conform_edit outside world actor instanceId changes requestId conform)
  | deleteInstance actor instanceId requestId =>
      exact leaves_replied _ (conform_only
        (Prog.only_mono (Footprint.diminishing_delete ..) shrinking_of_diminishing) conform)
  | listInstances =>
      exact leaves_replied _ (conform_only (Prog.only_mono asking_list shrinking_aside) conform)
  | getInstance instanceId =>
      exact leaves_replied _ (conform_only (Prog.only_mono (asking_get instanceId) shrinking_aside)
        conform)
  | updateLlm actor inference embedding requestId =>
      exact leaves_replied _ (conform_only (shrinking_update_llm ..) conform)
  | getLlm => exact leaves_replied _ (conform_only (Prog.only_mono asking_llm shrinking_aside) conform)
  | replaceMapping actor mapping requestId =>
      exact leaves_replied _ (conform_only
        (Prog.only_mono (Footprint.diminishing_replace ..) shrinking_of_diminishing) conform)

/-- `_seed_llm_config`: the document that bootstrap writes when there is none. -/
def seedLlmConfig (instant : Time) : Dict Json :=
  Dict.ofList
    [("id", .str "default"), ("inference_provider", .str "ollama"),
      ("inference_model", .str "gemma4:e4b"),
      ("inference_base_url", .str "http://host.docker.internal:11434"),
      ("embedding_provider", .str "ollama"), ("embedding_model", .str "nomic-embed-text"),
      ("embedding_base_url", .str "http://host.docker.internal:11434"),
      ("updated_by", .str "system-bootstrap"), ("updated_at", .str (isoformat instant))]

def bootstrapStore (instant : Time) : Store := { Store.empty with llm := [seedLlmConfig instant] }

/-- Worlds that completed admin operations lead to, from what bootstrap leaves.
Between them everything may change but what the admin operations write. -/
inductive Administered (settings : Settings) (outside : Outside N) : World N → Prop where
  | bootstrap (instant : Time) (state : N) :
      Administered settings outside ⟨bootstrapStore instant, state⟩
  | call (world : World N) (call : AdminCall) (reached : Administered settings outside world) :
      Administered settings outside ((administer settings call).run (exec outside) world).2
  | elsewhere (before after : World N) (reached : Administered settings outside before)
      (same : Untouched before.store after.store) : Administered settings outside after

theorem administered_all (calls : List AdminCall) {world : World N}
    (reached : Administered settings outside world) :
    Administered settings outside (administerAll settings outside calls world).2 := by
  induction calls generalizing world with
  | nil => exact reached
  | cons call rest ih => exact ih (.call world call reached)

theorem seed_complete (instant : Time) : Complete (seedLlmConfig instant) := by
  constructor
  · intro side
    have known : LlmService.ollama ∈ LlmService.llmProviders := List.mem_cons_self
    cases side <;> exact ⟨LlmService.ollama, known, rfl⟩
  · intro side name field
    simp only [List.mem_cons, List.not_mem_nil, or_false] at field
    rcases field with rfl | rfl <;> cases side <;> exact ⟨_, rfl⟩

theorem traced_bootstrap (instant : Time) : Traced (bootstrapStore instant) where
  chained := fun _ => .nil
  current := fun _ => nofun
  ahead := fun _ => nofun
  complete := by
    intro doc found
    have seeded : doc = seedLlmConfig instant :=
      List.mem_singleton.mp (List.mem_of_find?_eq_some found)
    rw [seeded]
    exact seed_complete instant

theorem administered_kept (reliable : outside.Reliable) {world : World N}
    (reached : Administered settings outside world) :
    AllConform settings world.store ∧ Traced world.store := by
  induction reached with
  | bootstrap instant state => exact ⟨⟨nofun, List.nodup_nil⟩, traced_bootstrap instant⟩
  | call world call _ ih => exact ⟨conform_call world call ih.1, traced_call reliable world call ih.1 ih.2⟩
  | elsewhere before after _ same ih =>
      refine ⟨⟨?_, ?_⟩, traced_untouched ih.2 same⟩
      · rw [same.instances]
        exact ih.1.rows
      · rw [same.instances]
        exact ih.1.ids

/-- What an operation is about; the others only read. -/
def aboutOf : AdminCall → Option Target
  | .createInstance _ instanceId .. | .updateInstance _ instanceId .. | .deleteInstance _ instanceId .. =>
      some (.place instanceId)
  | .updateLlm .. => some .llm
  | .replaceMapping .. => some .siam
  | .listInstances | .getInstance _ | .getLlm => none

theorem deed_about (call : AdminCall) : (deedOf call).isSome = (aboutOf call).isSome := by
  cases call <;> rfl

theorem target_recorded {call : AdminCall} {deed : Deed} {event : AdminAuditEvent}
    (own : deedOf call = some deed) (names : Names deed event) : targetOf event = aboutOf call := by
  cases call <;> cases own <;> simp [targetOf, aboutOf, names.action, names.targetId]

/-- A trail gets the one event of an operation that is about its target, and no other. -/
def Extended (call : AdminCall) (target : Target) (before after : List AdminAuditEvent) : Prop :=
  if aboutOf call = some target then ∃ event, trail target after = trail target before ++ [event]
  else trail target after = trail target before

theorem trail_recorded {call : AdminCall} {value : Reply} {before after : List AdminAuditEvent}
    (recorded : Recorded call (.ok value) before after) (target : Target) :
    Extended call target before after := by
  unfold Recorded at recorded
  unfold Extended
  cases own : deedOf call with
  | none =>
      rw [own] at recorded
      have reads : aboutOf call ≠ some target := by
        intro about
        have known := deed_about call
        rw [own, about] at known
        cases known
      rw [if_neg reads, recorded]
  | some deed =>
      rw [own] at recorded
      rcases recorded with ⟨⟨error, raised⟩, _⟩ | ⟨event, names, rfl⟩
      · cases raised
      · have about := target_recorded own names
        rw [trail, List.filter_append, ← about]
        split
        · next same => exact ⟨event, by simp [trail, same]⟩
        · next other => simp [trail, other]

/-- An operation adds no event but its own, and one that returns adds it to the trail of its target. -/
def Kept (settings : Settings) (outside : Outside N) (call : AdminCall) (world : World N) : Prop :=
  Prog.Leaves (exec outside) (administer settings call) world fun outcome after =>
    Recorded call outcome world.store.audits after.store.audits ∧
      ∀ value, outcome = .ok value → ∀ target,
        Extended call target world.store.audits after.store.audits

theorem call_kept (world : World N) (call : AdminCall) : Kept settings outside call world := by
  refine Prog.leaves_mono (call_recorded settings outside world call) ?_
  intro outcome after recorded
  refine ⟨recorded, ?_⟩
  rintro value rfl
  exact trail_recorded recorded

/-- After every sequence of completed admin operations the log is a faithful
history of every target, and whatever operation is next keeps it. -/
theorem audit_trail_faithful (reliable : outside.Reliable) {world : World N}
    (reached : Administered settings outside world) :
    (∀ target, Faithful world.store target) ∧ ∀ call, Kept settings outside call world := by
  have ⟨_, traced⟩ := administered_kept reliable reached
  exact ⟨fun target => ⟨traced.chained target, traced.current target⟩, call_kept world⟩

/-- An instance that is created, renamed and deleted, between other changes. -/
def sampleCalls : List AdminCall :=
  [.createInstance sampleUser "desk" "itsm-rest-generic" "Desk" (Dict.ofList
      [("base_url", .str "http://desk"), ("api_key", .str "k")]) false true none,
    .updateLlm sampleUser (some (Dict.ofList
      [("provider", .str "ollama"), ("model", .str "gemma"), ("base_url", .str "http://llm")])) none none,
    .updateInstance sampleUser "desk" { displayName := some "Help" } none,
    .replaceMapping sampleUser (.obj [("ops", .arr [.str "desk"])]) none,
    .deleteInstance sampleUser "desk" none]

def sampleWorld : World Unit :=
  (administerAll sampleSettings (Outside.still unreachable) sampleCalls ⟨bootstrapStore 0, ()⟩).2

theorem sample_trail_faithful : (∀ target, Faithful sampleWorld.store target) ∧
    ∀ call, Kept sampleSettings (Outside.still unreachable) call sampleWorld :=
  audit_trail_faithful (still_reliable unreachable) (administered_all sampleCalls (.bootstrap 0 ()))

end Lehen.Chronicle
