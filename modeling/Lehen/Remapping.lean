import Lehen.Consistency
import Lehen.Retrying
import Lehen.Sweeping

/-!
`SIAMService.replace`, called again until it returns. The cascade compares the
mapping a call found with the one it wrote, and a call made again finds what the
one before it wrote.
-/

namespace Lehen.Remapping

open Storage OAuth AuditService SiamService ConnectionsService Footprint Administration Sweeping
open Consistency (currentMapping)
open Balance (Entries updatedIds)
open Retrying (Each left)

variable {N : Type}

def replaceBy (settings : Settings) (mapping : Json) (attempt : Attempt N) : Hub Mapping :=
  replace settings (revokeForUsersNoLongerAuthorized settings · · ·) attempt.actor mapping
    attempt.requestId

def attemptRun (settings : Settings) (outside : Outside N) (mapping : Json)
    (attempt : Attempt N) (store : Store) : Except PyError Mapping × World N :=
  (replaceBy settings mapping attempt).run (exec outside) ⟨store, attempt.outside⟩

/-- The statements of a call, with what became of them. -/
def attemptEntries (settings : Settings) (outside : Outside N) (mapping : Json)
    (attempt : Attempt N) (store : Store) : Entries :=
  (replaceBy settings mapping attempt).notes (exec outside) (statements outside)
    ⟨store, attempt.outside⟩

def storeAfter (settings : Settings) (outside : Outside N) (mapping : Json)
    (attempt : Attempt N) (store : Store) : Store :=
  (attemptRun settings outside mapping attempt store).2.store

/-- The stored mapping is the normal form of the one that was sent. -/
def Stored (mapping : Json) (store : Store) : Prop :=
  (∃ row ∈ store.siam, row.id = siamId) ∧
    ∀ row ∈ store.siam, row.id = siamId → row.mapping = (SiamService.normalize mapping).toJson

/-- Someone is connected to an instance that no role of the mapping lists. -/
def Orphaned (mapping : Json) (rows : List ConnectionRow) : Prop :=
  ∃ row ∈ rows, row.isActive = true ∧ ¬ ListedBy mapping row.integrationInstanceId

/-- Each active connection's instance is listed by some role. -/
def OnlyListed (store : Store) : Prop :=
  ∀ row ∈ store.connections, row.isActive = true →
    (currentMapping store).lists row.integrationInstanceId = true

def writesMapping : StoreOp → Prop
  | .insertSiam _ | .updateSiam _ _ => True
  | _ => False

/-- The mapping was written, whether the call learned it or not. -/
def Wrote (past : Entries) : Prop := Written writesMapping past

/-- A call that writes the mapping ends every active connection to an instance
that the mapping does not list. -/
def Finished (settings : Settings) (outside : Outside N) (mapping : Json)
    (attempt : Attempt N) (store : Store) : Prop :=
  Wrote (attemptEntries settings outside mapping attempt store) →
    ∀ row ∈ store.connections, row.isActive = true → ¬ ListedBy mapping row.integrationInstanceId →
      row.id ∈ updatedIds (attemptEntries settings outside mapping attempt store)

/-! One call. -/

/-- The mapping a call reads back. -/
def readBack (mapping : Json) : Mapping := SiamService.normalize (SiamService.normalize mapping).toJson

theorem lists_read_back (mapping : Json) (instanceId : String) :
    (readBack mapping).lists instanceId = true ↔ ListedBy mapping instanceId := by
  rw [readBack, lists_written, lists_iff]

theorem current_stored {mapping : Json} {store : Store} (stored : Stored mapping store) :
    currentMapping store = readBack mapping := by
  obtain ⟨⟨row, member, named⟩, every⟩ := stored
  have present : row ∈ store.siam.filter fun row => row.id = siamId :=
    List.mem_filter.mpr ⟨member, decide_eq_true named⟩
  rw [currentMapping, mappingOf]
  cases found : store.siam.filter fun row => row.id = siamId with
  | nil =>
      rw [found] at present
      cases present
  | cons first rest =>
      have head : first ∈ store.siam.filter fun row => row.id = siamId := by
        rw [found]
        exact List.mem_cons_self
      obtain ⟨known, same⟩ := List.mem_filter.mp head
      have sent := every first known (of_decide_eq_true same)
      rw [List.head?_cons, readBack, ← sent]

/-- What a call has made of the store. -/
structure Progress (mapping : Json) (before : Store) (past : Entries) (store : Store) : Prop where
  rows : Endured (updatedIds past) before.connections store.connections
  saved : (¬ Wrote past ∧ updatedIds past = [] ∧ store.siam = before.siam) ∨
    (Wrote past ∧ Stored mapping store)
  swept : updatedIds past = [] ∨ currentMapping before ≠ readBack mapping

/-- What it knows at a stage. -/
def Knows (mapping : Json) (before : Store) (past : Entries) (store : Store) : Stage → Prop
  | .idle => ¬ Wrote past
  | .mapped old known => ¬ Wrote past ∧ old = currentMapping before ∧
      known = !(before.siam.filter fun row => row.id = siamId).isEmpty
  | .replaced old => Wrote past ∧ old = currentMapping before
  | .reread old new => Wrote past ∧ old = currentMapping before ∧ new = readBack mapping
  | .sweeping rows => Wrote past ∧ (rows = [] ∨ currentMapping before ≠ readBack mapping) ∧
      ∀ row ∈ store.connections, row.isActive = true →
        ¬ ListedBy mapping row.integrationInstanceId →
          (currentMapping before).lists row.integrationInstanceId = true →
            row.id ∈ rows.map ConnectionRow.id
  | .failed => True
  | _ => False

/-- What a call does next, besides writing to the logs. -/
inductive ReplaceStep (mapping : Json) : Stage → Op → Prop
  | readBefore : ReplaceStep mapping .idle (.store (.selectSiam siamId))
  | readExisting (old : Mapping) (known : Bool) :
      ReplaceStep mapping (.mapped old known) (.store (.selectSiam siamId))
  | insert (old : Mapping) (doc : SiamRow) (id : doc.id = siamId)
      (sent : doc.mapping = (SiamService.normalize mapping).toJson) :
      ReplaceStep mapping (.mapped old false) (.store (.insertSiam doc))
  | update (old : Mapping) (doc : SiamRow) (id : doc.id = siamId)
      (sent : doc.mapping = (SiamService.normalize mapping).toJson) :
      ReplaceStep mapping (.mapped old true) (.store (.updateSiam siamId doc))
  | readAfter (old : Mapping) : ReplaceStep mapping (.replaced old) (.store (.selectSiam siamId))
  | lookup (old new : Mapping) :
      ReplaceStep mapping (.reread old new) (.store (.selectConnections .anyActive))
  | withdraw (row : ConnectionRow) (rest : List ConnectionRow) (ts : Time) (reason : String) :
      ReplaceStep mapping (.sweeping (row :: rest))
        (.store (.updateConnections row.id (.withdraw ts reason)))
  | log (stage : Stage) (op : Op) (logging : Logging op) : ReplaceStep mapping stage op

theorem replace_step {mapping : Json} {action : Action} {stage : Stage} {op : Op}
    (same : action = .replace mapping) (allowed : action.Allows stage op) :
    ReplaceStep mapping stage op := by
  unfold Action.Allows at allowed
  split at allowed
  · cases same
  · cases same
  · cases same
  · cases same
  · cases same
  · cases same
  · cases same
  · cases same
  · subst allowed
    exact .readBefore
  · subst allowed
    exact .readExisting _ _
  · cases same
    exact .insert _ _ allowed.1 allowed.2
  · cases same
    obtain ⟨rfl, id, sent⟩ := allowed
    exact .update _ _ id sent
  · subst allowed
    exact .readAfter _
  · exact .lookup _ _
  · subst allowed
    exact .withdraw _ _ _ _
  · exact .log _ _ allowed

/-! What a call knows is kept. -/

theorem unwritten_logging {op : Op} (logging : Logging op) (statement : StoreOp)
    (same : op = .store statement) : ¬ writesMapping statement := by
  subst same
  cases statement <;> first | exact logging.elim | exact id

theorem progress_unnoticed {mapping : Json} {before store stored : Store} {past later : Entries}
    (progress : Progress mapping before past store)
    (unnoticed : Unnoticed writesMapping past later store stored) :
    Progress mapping before later stored := by
  obtain ⟨wrote, ids, rows, _, siam⟩ := unnoticed
  change Wrote later ↔ Wrote past at wrote
  constructor
  · rw [ids, rows]
    exact progress.rows
  · rw [wrote, ids, Stored, siam]
    exact progress.saved
  · rw [ids]
    exact progress.swept

theorem knows_unnoticed {mapping : Json} {before store stored : Store} {past later : Entries}
    {stage : Stage} (knows : Knows mapping before past store stage)
    (unnoticed : Unnoticed writesMapping past later store stored) :
    Knows mapping before later stored stage := by
  obtain ⟨wrote, _, rows, _, _⟩ := unnoticed
  change Wrote later ↔ Wrote past at wrote
  cases stage <;> simp only [Knows, wrote, rows] at knows ⊢ <;> exact knows

/-- The mapping was stored, by an insert or by an update. -/
theorem save_progress {mapping : Json} {before store stored : Store} {past : Entries}
    {old : Mapping} {known : Bool} {statement : StoreOp} {fate : Fate}
    (writes : writesMapping statement) (executed : fate ≠ .refused)
    (progress : Progress mapping before past store)
    (knows : Knows mapping before past store (.mapped old known))
    (same : stored.connections = store.connections) (wanted : Stored mapping stored) :
    Progress mapping before (past ++ [(statement, fate)]) stored ∧
      Knows mapping before (past ++ [(statement, fate)]) stored (.replaced old) := by
  have wrote : Wrote (past ++ [(statement, fate)]) := written_now writes executed
  have ids : updatedIds (past ++ [(statement, fate)]) = updatedIds past :=
    updated_ids_more fun id set update => by
      rw [update] at writes
      exact writes
  obtain ⟨unwritten, current, _⟩ := knows
  constructor
  · constructor
    · rw [ids, same]
      exact progress.rows
    · exact .inr ⟨wrote, wanted⟩
    · rw [ids]
      exact progress.swept
  · exact ⟨wrote, current⟩

theorem stored_insert {mapping : Json} {store : Store} {doc : SiamRow} (id : doc.id = siamId)
    (sent : doc.mapping = (SiamService.normalize mapping).toJson)
    (none : (store.siam.filter fun row => row.id = siamId).isEmpty = true) :
    Stored mapping { store with siam := store.siam ++ [doc] } := by
  refine ⟨⟨doc, List.mem_append_right _ List.mem_cons_self, id⟩, fun row member named => ?_⟩
  rcases List.mem_append.mp member with earlier | new
  · have present : row ∈ store.siam.filter fun row => row.id = siamId :=
      List.mem_filter.mpr ⟨earlier, decide_eq_true named⟩
    rw [List.isEmpty_iff.mp none] at present
    cases present
  · rw [List.mem_singleton.mp new]
    exact sent

theorem stored_update {mapping : Json} {store : Store} {doc : SiamRow} (id : doc.id = siamId)
    (sent : doc.mapping = (SiamService.normalize mapping).toJson)
    (some : (store.siam.filter fun row => row.id = siamId).isEmpty = false) :
    Stored mapping
      { store with siam := store.siam.map fun row => if row.id = siamId then doc else row } := by
  constructor
  · cases found : store.siam.filter fun row => row.id = siamId with
    | nil =>
        rw [found] at some
        cases some
    | cons first rest =>
        have head : first ∈ store.siam.filter fun row => row.id = siamId := by
          rw [found]
          exact List.mem_cons_self
        obtain ⟨known, same⟩ := List.mem_filter.mp head
        exact ⟨doc, List.mem_map.mpr ⟨first, known, if_pos (of_decide_eq_true same)⟩, id⟩
  · intro row member named
    obtain ⟨old, _, rfl⟩ := List.mem_map.mp member
    by_cases hit : old.id = siamId
    · rw [if_pos hit]
      exact sent
    · rw [if_neg hit] at named
      exact absurd named hit

theorem withdraw_progress {mapping : Json} {before store : Store} {past : Entries}
    {row : ConnectionRow} {rest : List ConnectionRow} {fate : Fate} (ts : Time) (reason : String)
    (executed : fate ≠ .refused) (progress : Progress mapping before past store)
    (knows : Knows mapping before past store (.sweeping (row :: rest))) :
    Progress mapping before (past ++ [(.updateConnections row.id (.withdraw ts reason), fate)])
        { store with connections := setWhereId row.id (.withdraw ts reason) store.connections } ∧
      Knows mapping before (past ++ [(.updateConnections row.id (.withdraw ts reason), fate)])
        { store with connections := setWhereId row.id (.withdraw ts reason) store.connections }
        (.sweeping rest) := by
  obtain ⟨wrote, changed, due⟩ := knows
  have wroteLater : Wrote (past ++ [(.updateConnections row.id (.withdraw ts reason), fate)]) :=
    (written_more id).mpr wrote
  have different := changed.resolve_left (List.cons_ne_nil row rest)
  have stored := (progress.saved.resolve_left fun unwritten => unwritten.1 wrote).2
  constructor
  · constructor
    · rw [updated_ids_done _ _ _ executed]
      exact endured_withdraw row.id ts reason progress.rows
    · exact .inr ⟨wroteLater, stored⟩
    · exact .inr different
  · refine ⟨wroteLater, .inr different, fun other member active unlisted listed => ?_⟩
    obtain ⟨old, earlier, same⟩ := List.mem_map.mp member
    by_cases hit : old.id = row.id
    · rw [if_pos hit] at same
      subst same
      cases active
    · rw [if_neg hit] at same
      subst same
      rcases List.mem_cons.mp (due old earlier active unlisted listed) with first | later
      · exact absurd first hit
      · exact later

/-- What the rows read for the document say of the first store. -/
theorem siam_unwritten {mapping : Json} {before store : Store} {past : Entries}
    (progress : Progress mapping before past store) (unwritten : ¬ Wrote past) :
    store.siam = before.siam :=
  (progress.saved.resolve_right fun written => unwritten written.1).2.2

/-- Nothing is orphaned by a mapping that stays as it is. -/
theorem orphaned_changed (mapping : Json) (before : Store) (rows : List ConnectionRow) :
    rows.filter (isOrphaned (currentMapping before) (readBack mapping)) = [] ∨
      currentMapping before ≠ readBack mapping := by
  by_cases changed : currentMapping before = readBack mapping
  · left
    apply List.filter_eq_nil_iff.mpr
    intro row _
    simp [isOrphaned, changed]
  · exact .inr changed

/-- The rows of the servers that are listed no more are among the orphaned ones. -/
theorem orphaned_due {mapping : Json} {before : Store} {rows : List ConnectionRow} {row : ConnectionRow}
    (member : row ∈ rows) (active : row.isActive = true)
    (unlisted : ¬ ListedBy mapping row.integrationInstanceId)
    (listed : (currentMapping before).lists row.integrationInstanceId = true) :
    row ∈ (rows.filter ConnectionRow.isActive).filter (isOrphaned (currentMapping before) (readBack mapping)) := by
  apply List.mem_filter.mpr
  refine ⟨List.mem_filter.mpr ⟨member, active⟩, ?_⟩
  have absent : (readBack mapping).lists row.integrationInstanceId = false :=
    Bool.eq_false_iff.mpr fun lists => unlisted ((lists_read_back mapping _).mp lists)
  rw [isOrphaned, absent, listed]
  rfl

/-- A call whose operation raised knows nothing more. -/
theorem knows_failed {mapping : Json} {before : Store} {past : Entries} {store : Store}
    (stage : Stage) (op : Op) (error : PyError) :
    Knows mapping before past store (stage.next op (.error error)) := by
  rw [next_error]
  trivial

/-- The statement that writes the mapping: what is executed adds to the progress,
answered or not. -/
theorem save_step (outside : Outside N) {mapping : Json} {before : Store} {past : Entries}
    {world : World N} {old : Mapping} {known : Bool} {statement : StoreOp}
    (writes : writesMapping statement)
    (onward : ∀ value, (Stage.mapped old known).next (.store statement) (.ok value) = .replaced old)
    (progress : Progress mapping before past world.store)
    (knows : Knows mapping before past world.store (.mapped old known))
    (same : (statement.apply world.store).2.connections = world.store.connections)
    (wanted : Stored mapping (statement.apply world.store).2) :
    Progress mapping before (past ++ statements outside (.store statement) world)
        (exec outside (.store statement) world).2.store ∧
      Knows mapping before (past ++ statements outside (.store statement) world)
        (exec outside (.store statement) world).2.store
        ((Stage.mapped old known).next (.store statement) (exec outside (.store statement) world).1) := by
  rw [statements]
  rcases exec_fate outside statement world with ⟨fate, answer, done⟩ |
    ⟨fate, ⟨error, answer⟩, done⟩ | ⟨fate, ⟨error, answer⟩, unchanged⟩ <;> rw [fate, answer]
  · rw [done, onward]
    exact save_progress writes (by decide) progress knows same wanted
  · rw [done]
    exact ⟨(save_progress writes (by decide) progress knows same wanted).1, knows_failed ..⟩
  · exact ⟨progress_unnoticed progress (unnoticed_refused unchanged), knows_failed ..⟩

theorem replace_progress (outside : Outside N) {mapping : Json} {before : Store}
    (stage : Stage) (past : Entries) (op : Op) (world : World N)
    (inside : Progress mapping before past world.store ∧ Knows mapping before past world.store stage)
    (step : ReplaceStep mapping stage op) :
    Progress mapping before (past ++ statements outside op world) (exec outside op world).2.store ∧
      Knows mapping before (past ++ statements outside op world) (exec outside op world).2.store
        (stage.next op (exec outside op world).1) := by
  obtain ⟨progress, knows⟩ := inside
  have calm (calm : Calm op) (other : ∀ statement, op = .store statement → ¬ writesMapping statement) :=
    unnoticed_calm outside writesMapping past op world calm other
  cases step with
  | readBefore =>
      have unnoticed := calm trivial (by rintro _ ⟨⟩; exact id)
      refine ⟨progress_unnoticed progress unnoticed, ?_⟩
      rcases exec_read outside (.selectSiam siamId) world rfl with
        ⟨error, answer, same⟩ | ⟨answer, same⟩
      · rw [answer]
        exact knows_failed ..
      · rw [answer]
        refine ⟨fun wrote => knows (unnoticed.wrote.mp wrote), ?_⟩
        dsimp only [StoreOp.apply]
        rw [siam_unwritten progress knows]
        exact ⟨rfl, rfl⟩
  | readExisting old known =>
      have unnoticed := calm trivial (by rintro _ ⟨⟩; exact id)
      refine ⟨progress_unnoticed progress unnoticed, ?_⟩
      rcases exec_read outside (.selectSiam siamId) world rfl with
        ⟨error, answer, same⟩ | ⟨answer, same⟩
      · rw [answer]
        exact knows_failed ..
      · rw [answer]
        refine ⟨fun wrote => knows.1 (unnoticed.wrote.mp wrote), knows.2.1, ?_⟩
        dsimp only [StoreOp.apply]
        -- Before the write the documents are those of the first store.
        rw [siam_unwritten progress knows.1]
  | insert old doc named sent =>
      have wanted : Stored mapping ((StoreOp.insertSiam doc).apply world.store).2 := by
        apply stored_insert named sent
        rw [siam_unwritten progress knows.1]
        simpa using knows.2.2
      exact save_step outside trivial (fun _ => rfl) progress knows rfl wanted
  | update old doc named sent =>
      have wanted : Stored mapping ((StoreOp.updateSiam siamId doc).apply world.store).2 := by
        apply stored_update named sent
        rw [siam_unwritten progress knows.1]
        simpa using knows.2.2
      exact save_step outside trivial (fun _ => rfl) progress knows rfl wanted
  | readAfter old =>
      have unnoticed := calm trivial (by rintro _ ⟨⟩; exact id)
      refine ⟨progress_unnoticed progress unnoticed, ?_⟩
      rcases exec_read outside (.selectSiam siamId) world rfl with
        ⟨error, answer, same⟩ | ⟨answer, same⟩
      · rw [answer]
        exact knows_failed ..
      · rw [answer]
        refine ⟨unnoticed.wrote.mpr knows.1, knows.2, ?_⟩
        exact current_stored (progress.saved.resolve_left fun unwritten => unwritten.1 knows.1).2
  | lookup old new =>
      have unnoticed := calm trivial (by rintro _ ⟨⟩; exact id)
      refine ⟨progress_unnoticed progress unnoticed, ?_⟩
      rcases exec_read outside (.selectConnections .anyActive) world rfl with
        ⟨error, answer, same⟩ | ⟨answer, same⟩
      · rw [answer]
        exact knows_failed ..
      · rw [answer]
        obtain ⟨wrote, rfl, rfl⟩ := knows
        refine ⟨unnoticed.wrote.mpr wrote, orphaned_changed mapping before _,
          fun row member active unlisted listed => ?_⟩
        rw [unnoticed.rows] at member
        exact List.mem_map_of_mem (orphaned_due member active unlisted listed)
  | withdraw row rest ts reason =>
      rw [statements]
      rcases exec_fate outside (.updateConnections row.id (.withdraw ts reason)) world with
        ⟨fate, answer, done⟩ | ⟨fate, ⟨error, answer⟩, done⟩ | ⟨fate, ⟨error, answer⟩, same⟩ <;>
        rw [fate, answer]
      · rw [done]
        exact withdraw_progress ts reason (by decide) progress knows
      · rw [done]
        exact ⟨(withdraw_progress ts reason (by decide) progress knows).1, knows_failed ..⟩
      · exact ⟨progress_unnoticed progress (unnoticed_refused same), knows_failed ..⟩
  | log stage op logging =>
      have unnoticed := calm (calm_of_quiet op (quiet_of_logging op logging))
        (unwritten_logging logging)
      refine ⟨progress_unnoticed progress unnoticed, ?_⟩
      cases answer : (exec outside op world).1 with
      | ok value =>
          rw [next_logging stage op value logging]
          exact knows_unnoticed knows unnoticed
      | error error => exact knows_failed ..

/-! A call as a whole. -/

/-- Its outcome, with what it has made of the store. -/
theorem replace_attempt (settings : Settings) (outside : Outside N) (mapping : Json)
    (attempt : Attempt N) (store : Store) :
    Progress mapping store (attemptEntries settings outside mapping attempt store)
        (storeAfter settings outside mapping attempt store) ∧
      ((attemptRun settings outside mapping attempt store).1.isOk = true →
        Wrote (attemptEntries settings outside mapping attempt store) ∧
        ∀ row ∈ (storeAfter settings outside mapping attempt store).connections,
          row.isActive = true → ¬ ListedBy mapping row.integrationInstanceId →
            (currentMapping store).lists row.integrationInstanceId = false) := by
  have follows := replace_follows settings attempt.actor mapping attempt.requestId
  have start : Progress mapping store [] store ∧ Knows mapping store [] store .idle := by
    have unwritten : ¬ Wrote [] := fun wrote => by
      obtain ⟨entry, member, _⟩ := wrote
      cases member
    exact ⟨⟨endured_start _, .inl ⟨unwritten, rfl, rfl⟩, .inl rfl⟩, unwritten⟩
  have leaves : Prog.Leaves (exec outside) (replaceBy settings mapping attempt)
      ⟨store, attempt.outside⟩ fun outcome after => ∃ last,
        (Progress mapping store (attemptEntries settings outside mapping attempt store) after.store ∧
          Knows mapping store (attemptEntries settings outside mapping attempt store) after.store
            last) ∧ (Action.replace mapping).Ends outcome last :=
    Prog.leaves_noted (fun stage past (world : World N) =>
      Progress mapping store past world.store ∧ Knows mapping store past world.store stage)
      [] follows start fun stage past op world inside allowed =>
        replace_progress outside stage past op world inside (replace_step rfl allowed)
  obtain ⟨last, ⟨progress, knows⟩, ends⟩ := leaves
  refine ⟨progress, fun returned => ?_⟩
  rw [attemptRun] at returned
  cases outcome : ((replaceBy settings mapping attempt).run (exec outside)
      ⟨store, attempt.outside⟩).1 with
  | error error =>
      rw [outcome] at returned
      cases returned
  | ok value =>
      rw [outcome] at ends
      rcases ends with rfl | ⟨current, rfl⟩
      · refine ⟨knows.1, fun row member active unlisted => ?_⟩
        cases listed : (currentMapping store).lists row.integrationInstanceId with
        | false => rfl
        | true => cases knows.2.2 row member active unlisted listed
      · refine ⟨knows.1, fun row member active unlisted => ?_⟩
        rw [← knows.2.1, knows.2.2]
        exact Bool.eq_false_iff.mpr fun lists => unlisted ((lists_read_back mapping _).mp lists)

/-! Any number of calls. -/

/-- The mapping is stored, and someone is connected to an instance it does not list. -/
def Stuck (mapping : Json) (store : Store) : Prop :=
  Stored mapping store ∧ Orphaned mapping store.connections

/-- What the administrator wants. -/
def Settled (mapping : Json) (store : Store) : Prop :=
  Stored mapping store ∧ ¬ Orphaned mapping store.connections

section Calls

variable (settings : Settings) (outside : Outside N) (mapping : Json) (attempt : Attempt N)
  (store : Store)

theorem listed_kept (listed : OnlyListed store)
    (finished : Finished settings outside mapping attempt store) :
    OnlyListed (storeAfter settings outside mapping attempt store) := by
  have progress := (replace_attempt settings outside mapping attempt store).1
  intro row member active
  obtain ⟨old, earlier, wasActive, spared, here⟩ := endured_source progress.rows member active
  rcases progress.saved with ⟨_, _, same⟩ | ⟨wrote, stored⟩
  · rw [currentMapping, same, ← here]
    exact listed old earlier wasActive
  · rw [current_stored stored, lists_read_back, ← here]
    by_contra unlisted
    exact spared (finished wrote old earlier wasActive unlisted)

theorem stuck_after (unfinished : ¬ Finished settings outside mapping attempt store) :
    Stuck mapping (storeAfter settings outside mapping attempt store) := by
  have progress := (replace_attempt settings outside mapping attempt store).1
  simp only [Finished, not_forall] at unfinished
  obtain ⟨wrote, row, member, active, unlisted, spared⟩ := unfinished
  constructor
  · exact (progress.saved.resolve_left fun unwritten => unwritten.1 wrote).2
  · obtain ⟨later, still, stillActive, place⟩ := endured_member progress.rows member active spared
    exact ⟨later, still, stillActive, place ▸ unlisted⟩

theorem stuck_stays (stuck : Stuck mapping store) :
    Stuck mapping (storeAfter settings outside mapping attempt store) := by
  have progress := (replace_attempt settings outside mapping attempt store).1
  obtain ⟨stored, row, member, active, unlisted⟩ := stuck
  constructor
  · rcases progress.saved with ⟨_, _, same⟩ | ⟨_, later⟩
    · rw [Stored, same]
      exact stored
    · exact later
  · -- The call finds the mapping it would write, so nothing is orphaned by it.
    have nothing := progress.swept.resolve_right fun changed => changed (current_stored stored)
    obtain ⟨later, still, stillActive, place⟩ := endured_member progress.rows member active
      (by rw [nothing]; exact List.not_mem_nil)
    exact ⟨later, still, stillActive, place ▸ unlisted⟩

variable {settings outside mapping attempt store} in
theorem settled_returned (listed : OnlyListed store)
    (returned : (attemptRun settings outside mapping attempt store).1.isOk = true) :
    Settled mapping (storeAfter settings outside mapping attempt store) := by
  obtain ⟨progress, ends⟩ := replace_attempt settings outside mapping attempt store
  obtain ⟨wrote, absent⟩ := ends returned
  constructor
  · exact (progress.saved.resolve_left fun unwritten => unwritten.1 wrote).2
  · rintro ⟨row, member, active, unlisted⟩
    obtain ⟨old, earlier, wasActive, _, here⟩ := endured_source progress.rows member active
    have before := listed old earlier wasActive
    rw [here, absent row member active unlisted] at before
    cases before

end Calls

/-- From a store where each active connection's instance is listed, calls to
replace the mapping of which the last one returns leave it stored and nobody
connected to an instance it does not list, exactly if every earlier call that
wrote the mapping ended all such connections. -/
theorem settled_iff (settings : Settings) (outside : Outside N) (mapping : Json) (store : Store)
    (attempts : List (Attempt N)) (last : Attempt N) (onlyListed : OnlyListed store)
    (returned : (attemptRun settings outside mapping last
      (left (storeAfter settings outside mapping) store attempts)).1.isOk = true) :
    Settled mapping (storeAfter settings outside mapping last
        (left (storeAfter settings outside mapping) store attempts)) ↔
      Each (storeAfter settings outside mapping) (Finished settings outside mapping) store
        attempts := by
  constructor
  · intro settled
    by_contra failed
    have stuck := Retrying.left_broken (listed_kept settings outside mapping)
      (fun attempt found _ unfinished =>
        stuck_after settings outside mapping attempt found unfinished)
      (stuck_stays settings outside mapping) attempts store onlyListed failed
    exact settled.2 (stuck_stays settings outside mapping last _ stuck).2
  · intro each
    exact settled_returned (Retrying.left_kept (listed_kept settings outside mapping) attempts
      store onlyListed each) returned

/-! The sample instance is taken from every role, and the first call fails at its
audit event or right after its write. -/

def nobody : Json := .obj []

def afterRefusal (outside : Outside Bool) : Store :=
  storeAfter sampleSettings outside nobody refusedAttempt connectedStore

theorem connected_listed : OnlyListed connectedStore := by
  unfold OnlyListed
  decide +kernel

theorem later_returned (outside : Outside Bool) (known : outside ∈ [auditFailsOnce, writeLostOnce]) :
    (attemptRun sampleSettings outside nobody laterAttempt (afterRefusal outside)).1.isOk = true := by
  simp only [List.mem_cons, List.not_mem_nil, or_false] at known
  rcases known with rfl | rfl <;> decide +kernel

/-- The second call returns, and the user stays connected to the instance. -/
theorem retry_leaves_orphan :
    OnlyListed connectedStore ∧ ∀ outside ∈ [auditFailsOnce, writeLostOnce],
      (attemptRun sampleSettings outside nobody refusedAttempt connectedStore).1.isOk = false ∧
      (attemptRun sampleSettings outside nobody laterAttempt (afterRefusal outside)).1.isOk = true ∧
      ¬ Settled nobody (storeAfter sampleSettings outside nobody laterAttempt (afterRefusal outside)) := by
  refine ⟨connected_listed, fun outside known => ⟨?_, later_returned outside known, fun settled => settled.2 ?_⟩⟩
  · simp only [List.mem_cons, List.not_mem_nil, or_false] at known
    rcases known with rfl | rfl <;> decide +kernel
  · have still : ∃ row ∈ (storeAfter sampleSettings outside nobody laterAttempt
        (afterRefusal outside)).connections, row.isActive = true := by
      simp only [List.mem_cons, List.not_mem_nil, or_false] at known
      rcases known with rfl | rfl <;> decide +kernel
    obtain ⟨row, member, active⟩ := still
    refine ⟨row, member, active, ?_⟩
    rintro ⟨_, _, _, same, listed, _⟩
    obtain rfl := Json.obj.inj same
    cases listed

theorem settled_iff_retry :
    Settled nobody (storeAfter sampleSettings writeLostOnce nobody laterAttempt
        (afterRefusal writeLostOnce)) ↔
      Each (storeAfter sampleSettings writeLostOnce nobody)
        (Finished sampleSettings writeLostOnce nobody) connectedStore [refusedAttempt] :=
  settled_iff sampleSettings writeLostOnce nobody connectedStore [refusedAttempt] laterAttempt
    connected_listed (later_returned writeLostOnce (by simp))

end Lehen.Remapping
