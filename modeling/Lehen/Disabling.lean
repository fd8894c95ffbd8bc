import Lehen.Administration
import Lehen.Retrying
import Lehen.Sweeping

/-!
`update(i, enabled=False)`, called again until it returns. The cascade follows
the transition that a fresh read sees, so a call that fails after its write
leaves the others nothing to do.
-/

namespace Lehen.Disabling

open Storage OAuth AuditService ConnectionsService IntegrationsService Footprint Administration
open Sweeping
open Balance (Entries updatedIds)
open Retrying (Each left)

variable {N : Type}

def disable (settings : Settings) (instanceId : String) (attempt : Attempt N) : Hub InstanceView :=
  update settings (revokeAllForInstance settings · · ·) attempt.actor instanceId
    { enabled := some false } attempt.requestId

def attemptRun (settings : Settings) (outside : Outside N) (instanceId : String)
    (attempt : Attempt N) (store : Store) : Except PyError InstanceView × World N :=
  (disable settings instanceId attempt).run (exec outside) ⟨store, attempt.outside⟩

/-- The statements of a call, with what became of them. -/
def attemptEntries (settings : Settings) (outside : Outside N) (instanceId : String)
    (attempt : Attempt N) (store : Store) : Entries :=
  (disable settings instanceId attempt).notes (exec outside) (statements outside)
    ⟨store, attempt.outside⟩

def storeAfter (settings : Settings) (outside : Outside N) (instanceId : String)
    (attempt : Attempt N) (store : Store) : Store :=
  (attemptRun settings outside instanceId attempt store).2.store

/-- There is such an instance, and it is disabled. -/
def Disabled (instanceId : String) (store : Store) : Prop :=
  (∃ place ∈ store.instances, place.id = instanceId) ∧
    ∀ place ∈ store.instances, place.id = instanceId → place.enabled = false

def Connected (rows : List ConnectionRow) (instanceId : String) : Prop :=
  ∃ row ∈ rows, row.isActive = true ∧ row.integrationInstanceId = instanceId

/-- Only enabled instances have active connections. -/
def OnlyEnabled (store : Store) : Prop :=
  ∀ place ∈ store.instances, Connected store.connections place.id → place.enabled = true

def writesInstance (instanceId : String) : StoreOp → Prop
  | .updateInstance id _ => id = instanceId
  | _ => False

/-- The instance was written, whether the call learned it or not. -/
def Wrote (instanceId : String) (past : Entries) : Prop := Written (writesInstance instanceId) past

/-- A call that writes the instance ends every active connection of it. -/
def Finished (settings : Settings) (outside : Outside N) (instanceId : String)
    (attempt : Attempt N) (store : Store) : Prop :=
  Wrote instanceId (attemptEntries settings outside instanceId attempt store) →
    ∀ row ∈ store.connections, row.isActive = true → row.integrationInstanceId = instanceId →
      row.id ∈ updatedIds (attemptEntries settings outside instanceId attempt store)

/-! One call. -/

/-- What a call has made of the store. -/
structure Progress (instanceId : String) (before : Store) (past : Entries) (store : Store) : Prop where
  rows : Endured (updatedIds past) before.connections store.connections
  places : (¬ Wrote instanceId past ∧ updatedIds past = [] ∧ store.instances = before.instances) ∨
    (Wrote instanceId past ∧ Disabled instanceId store)
  swept : updatedIds past = [] ∨
    ∃ place ∈ before.instances, place.id = instanceId ∧ place.enabled = true

/-- What it knows at a stage. -/
def Knows (instanceId : String) (before : Store) (past : Entries) (store : Store) : Stage → Prop
  | .idle | .absent => ¬ Wrote instanceId past
  | .found row => ¬ Wrote instanceId past ∧ row ∈ before.instances ∧ row.id = instanceId
  | .kept row _ => Wrote instanceId past ∧ updatedIds past = [] ∧
      row ∈ before.instances ∧ row.id = instanceId ∧ row.enabled = false
  | .owes => Wrote instanceId past ∧
      ∃ place ∈ before.instances, place.id = instanceId ∧ place.enabled = true
  | .sweeping rows => Wrote instanceId past ∧
      (∃ place ∈ before.instances, place.id = instanceId ∧ place.enabled = true) ∧
        ∀ row ∈ store.connections, row.isActive = true → row.integrationInstanceId = instanceId →
          row.id ∈ rows.map ConnectionRow.id
  | .failed => True
  | _ => False

/-- What a call does next, besides writing to the logs. -/
inductive DisableStep (instanceId : String) : Stage → Op → Prop
  | read : DisableStep instanceId .idle (.store (.selectInstance instanceId))
  | write (row doc : InstanceRow) (id : doc.id = row.id) (off : doc.enabled = false) :
      DisableStep instanceId (.found row) (.store (.updateInstance instanceId doc))
  | lookup : DisableStep instanceId .owes (.store (.selectConnections (.onInstance instanceId)))
  | withdraw (row : ConnectionRow) (rest : List ConnectionRow) (ts : Time) (reason : String) :
      DisableStep instanceId (.sweeping (row :: rest))
        (.store (.updateConnections row.id (.withdraw ts reason)))
  | log (stage : Stage) (op : Op) (logging : Logging op) : DisableStep instanceId stage op

theorem disable_step {instanceId : String} {action : Action} {stage : Stage} {op : Op}
    (same : action = .update instanceId (some false)) (allowed : action.Allows stage op) :
    DisableStep instanceId stage op := by
  unfold Action.Allows at allowed
  split at allowed
  · cases same
  · cases same
  · cases same
    subst allowed
    exact .read
  · cases same
    obtain ⟨rfl, id, off⟩ := allowed
    exact .write _ _ id off
  · cases same
    subst allowed
    exact .lookup
  · cases same
  · cases same
  · cases same
  · cases same
  · cases same
  · cases same
  · cases same
  · cases same
  · cases same
  · subst allowed
    exact .withdraw _ _ _ _
  · exact .log _ _ allowed

/-! What a call knows is kept. -/

theorem unwritten_logging {instanceId : String} {op : Op} (logging : Logging op)
    (statement : StoreOp) (same : op = .store statement) : ¬ writesInstance instanceId statement := by
  subst same
  cases statement <;> first | exact logging.elim | exact id

theorem progress_unnoticed {instanceId : String} {before store stored : Store} {past later : Entries}
    (progress : Progress instanceId before past store)
    (unnoticed : Unnoticed (writesInstance instanceId) past later store stored) :
    Progress instanceId before later stored := by
  obtain ⟨wrote, ids, rows, places, _⟩ := unnoticed
  change Wrote instanceId later ↔ Wrote instanceId past at wrote
  constructor
  · rw [ids, rows]
    exact progress.rows
  · rw [wrote, ids, Disabled, places]
    exact progress.places
  · rw [ids]
    exact progress.swept

theorem knows_unnoticed {instanceId : String} {before store stored : Store} {past later : Entries}
    {stage : Stage} (knows : Knows instanceId before past store stage)
    (unnoticed : Unnoticed (writesInstance instanceId) past later store stored) :
    Knows instanceId before later stored stage := by
  obtain ⟨wrote, ids, rows, _, _⟩ := unnoticed
  change Wrote instanceId later ↔ Wrote instanceId past at wrote
  cases stage <;> simp only [Knows, wrote, ids, rows] at knows ⊢ <;> exact knows

theorem write_progress {instanceId : String} {before store : Store} {past : Entries}
    {row doc : InstanceRow} {fate : Fate} (id : doc.id = row.id) (off : doc.enabled = false)
    (executed : fate ≠ .refused) (progress : Progress instanceId before past store)
    (knows : Knows instanceId before past store (.found row)) :
    Progress instanceId before (past ++ [(.updateInstance instanceId doc, fate)])
        { store with
          instances := store.instances.map fun old => if old.id = instanceId then doc else old } ∧
      Knows instanceId before (past ++ [(.updateInstance instanceId doc, fate)])
        { store with
          instances := store.instances.map fun old => if old.id = instanceId then doc else old }
        ((Stage.found row).next (.store (.updateInstance instanceId doc)) (.ok ())) := by
  obtain ⟨unwritten, member, named⟩ := knows
  have wrote : Wrote instanceId (past ++ [(.updateInstance instanceId doc, fate)]) :=
    written_now rfl executed
  -- Before the write nothing was withdrawn, and the instances are those of the first store.
  obtain ⟨_, nothing, places⟩ := progress.places.resolve_right fun written =>
    unwritten written.1
  have ids : updatedIds (past ++ [(.updateInstance instanceId doc, fate)]) = [] := by
    rw [updated_ids_more (fun id set same => by cases same), nothing]
  constructor
  · constructor
    · rw [ids, ← nothing]
      exact progress.rows
    · right
      refine ⟨wrote, ⟨doc, ?_, id.trans named⟩, ?_⟩
      · rw [places]
        exact List.mem_map.mpr ⟨row, member, if_pos named⟩
      · intro place known same
        obtain ⟨old, _, rfl⟩ := List.mem_map.mp known
        by_cases hit : old.id = instanceId
        · rw [if_pos hit]
          exact off
        · rw [if_neg hit] at same
          exact absurd same hit
    · exact .inl ids
  · dsimp only [Stage.next]
    split
    · rename_i disabled
      exact ⟨wrote, row, member, named, disabled.1⟩
    · rename_i kept
      refine ⟨wrote, ids, member, named, ?_⟩
      cases enabled : row.enabled with
      | false => rfl
      | true => exact absurd ⟨enabled, off⟩ kept

theorem withdraw_progress {instanceId : String} {before store : Store} {past : Entries}
    {row : ConnectionRow} {rest : List ConnectionRow} {fate : Fate} (ts : Time) (reason : String)
    (executed : fate ≠ .refused) (progress : Progress instanceId before past store)
    (knows : Knows instanceId before past store (.sweeping (row :: rest))) :
    Progress instanceId before (past ++ [(.updateConnections row.id (.withdraw ts reason), fate)])
        { store with connections := setWhereId row.id (.withdraw ts reason) store.connections } ∧
      Knows instanceId before (past ++ [(.updateConnections row.id (.withdraw ts reason), fate)])
        { store with connections := setWhereId row.id (.withdraw ts reason) store.connections }
        (.sweeping rest) := by
  obtain ⟨wrote, enabled, due⟩ := knows
  have wroteLater : Wrote instanceId
      (past ++ [(.updateConnections row.id (.withdraw ts reason), fate)]) :=
    (written_more id).mpr wrote
  have disabled := (progress.places.resolve_left fun unwritten => unwritten.1 wrote).2
  constructor
  · constructor
    · rw [updated_ids_done _ _ _ executed]
      exact endured_withdraw row.id ts reason progress.rows
    · exact .inr ⟨wroteLater, disabled⟩
    · exact .inr enabled
  · refine ⟨wroteLater, enabled, fun other member active place => ?_⟩
    obtain ⟨old, earlier, same⟩ := List.mem_map.mp member
    by_cases hit : old.id = row.id
    · rw [if_pos hit] at same
      subst same
      cases active
    · rw [if_neg hit] at same
      subst same
      rcases List.mem_cons.mp (due old earlier active place) with first | later
      · exact absurd first hit
      · exact later

/-- A call whose operation raised knows nothing more. -/
theorem knows_failed {instanceId : String} {before : Store} {past : Entries} {store : Store}
    (stage : Stage) (op : Op) (error : PyError) :
    Knows instanceId before past store (stage.next op (.error error)) := by
  rw [next_error]
  trivial

theorem disable_progress (outside : Outside N) {instanceId : String} {before : Store}
    (stage : Stage) (past : Entries) (op : Op) (world : World N)
    (inside : Progress instanceId before past world.store ∧
      Knows instanceId before past world.store stage)
    (step : DisableStep instanceId stage op) :
    Progress instanceId before (past ++ statements outside op world) (exec outside op world).2.store ∧
      Knows instanceId before (past ++ statements outside op world) (exec outside op world).2.store
        (stage.next op (exec outside op world).1) := by
  -- What raises ends the call; a write that is executed adds to the progress, answered or not.
  obtain ⟨progress, knows⟩ := inside
  cases step with
  | read =>
      have unnoticed := unnoticed_calm outside (writesInstance instanceId) past
        (.store (.selectInstance instanceId)) world trivial (by rintro _ ⟨⟩; exact id)
      refine ⟨progress_unnoticed progress unnoticed, ?_⟩
      rcases exec_read outside (.selectInstance instanceId) world rfl with
        ⟨error, answer, same⟩ | ⟨answer, same⟩
      · rw [answer]
        exact knows_failed ..
      · rw [answer]
        have unwritten : ¬ Wrote instanceId _ := fun wrote => knows (unnoticed.wrote.mp wrote)
        dsimp only [Stage.next, StoreOp.apply]
        cases first : (world.store.instances.filter fun row => row.id = instanceId).head? with
        | none => exact unwritten
        | some row =>
            obtain ⟨_, _, places⟩ := progress.places.resolve_right fun written => knows written.1
            have found := List.mem_filter.mp (List.mem_of_head? first)
            exact ⟨unwritten, places ▸ found.1, of_decide_eq_true found.2⟩
  | write row doc id off =>
      rw [statements]
      rcases exec_fate outside (.updateInstance instanceId doc) world with ⟨fate, answer, done⟩ |
        ⟨fate, ⟨error, answer⟩, done⟩ | ⟨fate, ⟨error, answer⟩, same⟩ <;> rw [fate, answer]
      · rw [done]
        exact write_progress id off (by decide) progress knows
      · rw [done]
        exact ⟨(write_progress id off (by decide) progress knows).1, knows_failed ..⟩
      · exact ⟨progress_unnoticed progress (unnoticed_refused same), knows_failed ..⟩
  | lookup =>
      have unnoticed := unnoticed_calm outside (writesInstance instanceId) past
        (.store (.selectConnections (.onInstance instanceId))) world trivial (by rintro _ ⟨⟩; exact id)
      refine ⟨progress_unnoticed progress unnoticed, ?_⟩
      rcases exec_read outside (.selectConnections (.onInstance instanceId)) world rfl with
        ⟨error, answer, same⟩ | ⟨answer, same⟩
      · rw [answer]
        exact knows_failed ..
      · rw [answer]
        refine ⟨unnoticed.wrote.mpr knows.1, knows.2, ?_⟩
        intro row member active place
        rw [unnoticed.rows] at member
        apply List.mem_map_of_mem
        apply List.mem_filter.mpr
        simp [ConnectionWhere.holds, member, active, place]
  | withdraw row rest ts reason =>
      rw [statements]
      rcases exec_fate outside (.updateConnections row.id (.withdraw ts reason)) world with
        ⟨fate, answer, done⟩ | ⟨fate, ⟨error, answer⟩, done⟩ | ⟨fate, ⟨error, answer⟩, same⟩ <;>
        rw [fate, answer]
      · rw [done]
        exact withdraw_progress ts reason (by decide) progress knows
      · rw [done]
        exact ⟨(withdraw_progress ts reason (by decide) progress knows).1, knows_failed ..⟩
      · exact ⟨progress_unnoticed progress (unnoticed_refused same), knows_failed ..⟩
  | log stage op logging =>
      have unnoticed := unnoticed_calm outside (writesInstance instanceId) past op world
        (calm_of_quiet op (quiet_of_logging op logging)) (unwritten_logging logging)
      refine ⟨progress_unnoticed progress unnoticed, ?_⟩
      cases answer : (exec outside op world).1 with
      | ok value =>
          rw [next_logging stage op value logging]
          exact knows_unnoticed knows unnoticed
      | error error => exact knows_failed ..

/-! A call as a whole. -/

/-- Its outcome, with what it has made of the store. -/
theorem disable_attempt (settings : Settings) (outside : Outside N) (instanceId : String)
    (attempt : Attempt N) (store : Store) :
    Progress instanceId store (attemptEntries settings outside instanceId attempt store)
        (storeAfter settings outside instanceId attempt store) ∧
      ((attemptRun settings outside instanceId attempt store).1.isOk = true →
        Wrote instanceId (attemptEntries settings outside instanceId attempt store) ∧
        ((∃ place ∈ store.instances, place.id = instanceId ∧ place.enabled = false) ∨
          ¬ Connected (storeAfter settings outside instanceId attempt store).connections
            instanceId)) := by
  have follows := update_follows settings attempt.actor instanceId
    { enabled := some false } attempt.requestId
  have start : Progress instanceId store [] store ∧ Knows instanceId store [] store .idle := by
    have unwritten : ¬ Wrote instanceId [] := fun wrote => by
      obtain ⟨entry, member, _⟩ := wrote
      cases member
    exact ⟨⟨endured_start _, .inl ⟨unwritten, rfl, rfl⟩, .inl rfl⟩, unwritten⟩
  have leaves : Prog.Leaves (exec outside) (disable settings instanceId attempt)
      ⟨store, attempt.outside⟩ fun outcome after => ∃ last,
        (Progress instanceId store (attemptEntries settings outside instanceId attempt store)
            after.store ∧
          Knows instanceId store (attemptEntries settings outside instanceId attempt store)
            after.store last) ∧ (Action.update instanceId (some false)).Ends outcome last :=
    Prog.leaves_noted (fun stage past (world : World N) =>
      Progress instanceId store past world.store ∧ Knows instanceId store past world.store stage)
      [] follows start fun stage past op world inside allowed =>
        disable_progress outside stage past op world inside (disable_step rfl allowed)
  obtain ⟨last, ⟨progress, knows⟩, ends⟩ := leaves
  refine ⟨progress, fun returned => ?_⟩
  rw [attemptRun] at returned
  cases outcome : ((disable settings instanceId attempt).run (exec outside)
      ⟨store, attempt.outside⟩).1 with
  | error error =>
      rw [outcome] at returned
      cases returned
  | ok value =>
      rw [outcome] at ends
      -- It ended after the sweep, or it found the instance disabled.
      rcases ends with rfl | ⟨row, doc, rfl⟩
      · refine ⟨knows.1, .inr ?_⟩
        rintro ⟨row, member, active, place⟩
        cases knows.2.2 row member active place
      · exact ⟨knows.1, .inl ⟨row, knows.2.2.1, knows.2.2.2⟩⟩

/-! Any number of calls. -/

/-- Connections only where the instance is enabled. -/
def Intact (instanceId : String) (store : Store) : Prop :=
  Connected store.connections instanceId →
    ∀ place ∈ store.instances, place.id = instanceId → place.enabled = true

/-- The instance is disabled, and someone is connected to it. -/
def Stuck (instanceId : String) (store : Store) : Prop :=
  Disabled instanceId store ∧ Connected store.connections instanceId

/-- What the administrator wants. -/
def Closed (instanceId : String) (store : Store) : Prop :=
  Disabled instanceId store ∧ ¬ Connected store.connections instanceId

section Calls

variable (settings : Settings) (outside : Outside N) (instanceId : String) (attempt : Attempt N)
  (store : Store)

theorem intact_kept (intact : Intact instanceId store)
    (finished : Finished settings outside instanceId attempt store) :
    Intact instanceId (storeAfter settings outside instanceId attempt store) := by
  have progress := (disable_attempt settings outside instanceId attempt store).1
  rintro ⟨row, member, active, place⟩
  obtain ⟨old, earlier, wasActive, spared, here⟩ := endured_source progress.rows member active
  rcases progress.places with ⟨_, _, same⟩ | ⟨wrote, _⟩
  · rw [same]
    exact intact ⟨old, earlier, wasActive, here.trans place⟩
  · exact absurd (finished wrote old earlier wasActive (here.trans place)) spared

theorem stuck_after (unfinished : ¬ Finished settings outside instanceId attempt store) :
    Stuck instanceId (storeAfter settings outside instanceId attempt store) := by
  have progress := (disable_attempt settings outside instanceId attempt store).1
  simp only [Finished, not_forall] at unfinished
  obtain ⟨wrote, row, member, active, place, spared⟩ := unfinished
  constructor
  · exact (progress.places.resolve_left fun unwritten => unwritten.1 wrote).2
  · have still := endured_member progress.rows member active spared
    rw [place] at still
    exact still

theorem stuck_stays (stuck : Stuck instanceId store) :
    Stuck instanceId (storeAfter settings outside instanceId attempt store) := by
  have progress := (disable_attempt settings outside instanceId attempt store).1
  obtain ⟨disabled, row, member, active, place⟩ := stuck
  constructor
  · rcases progress.places with ⟨_, _, same⟩ | ⟨_, later⟩
    · rw [Disabled, same]
      exact disabled
    · exact later
  · -- The fresh read sees the instance disabled, so no cascade runs.
    have nothing : updatedIds (attemptEntries settings outside instanceId attempt store) = [] := by
      rcases progress.swept with none | ⟨found, known, named, enabled⟩
      · exact none
      · rw [disabled.2 found known named] at enabled
        cases enabled
    have still := endured_member progress.rows member active
      (by rw [nothing]; exact List.not_mem_nil)
    rw [place] at still
    exact still

variable {settings outside instanceId attempt store} in
theorem closed_returned (intact : Intact instanceId store)
    (returned : (attemptRun settings outside instanceId attempt store).1.isOk = true) :
    Closed instanceId (storeAfter settings outside instanceId attempt store) := by
  obtain ⟨progress, ends⟩ := disable_attempt settings outside instanceId attempt store
  obtain ⟨wrote, nobody⟩ := ends returned
  constructor
  · exact (progress.places.resolve_left fun unwritten => unwritten.1 wrote).2
  · rcases nobody with ⟨place, known, named, off⟩ | nobody
    · rintro ⟨row, member, active, here⟩
      obtain ⟨old, earlier, wasActive, _, same⟩ := endured_source progress.rows member active
      have enabled := intact ⟨old, earlier, wasActive, same.trans here⟩ place known named
      rw [off] at enabled
      cases enabled
    · exact nobody

end Calls

/-- From a store where only enabled instances have active connections, calls to
disable an instance of which the last one returns leave it disabled and without
active connections exactly if every earlier call that wrote the instance ended
all of them. -/
theorem closed_iff (settings : Settings) (outside : Outside N) (instanceId : String) (store : Store)
    (attempts : List (Attempt N)) (last : Attempt N) (onlyEnabled : OnlyEnabled store)
    (returned : (attemptRun settings outside instanceId last
      (left (storeAfter settings outside instanceId) store attempts)).1.isOk = true) :
    Closed instanceId (storeAfter settings outside instanceId last
        (left (storeAfter settings outside instanceId) store attempts)) ↔
      Each (storeAfter settings outside instanceId) (Finished settings outside instanceId) store
        attempts := by
  have intact : Intact instanceId store := by
    intro connected place known named
    exact onlyEnabled place known (named ▸ connected)
  constructor
  · intro closed
    by_contra failed
    have stuck := Retrying.left_broken (intact_kept settings outside instanceId)
      (fun attempt found _ unfinished =>
        stuck_after settings outside instanceId attempt found unfinished)
      (stuck_stays settings outside instanceId) attempts store intact failed
    exact closed.2 (stuck_stays settings outside instanceId last _ stuck).2
  · intro each
    exact closed_returned (Retrying.left_kept (intact_kept settings outside instanceId) attempts
      store intact each) returned

/-! A call that fails at its audit event or right after its write, and the one that
is made again. -/

def afterRefusal (outside : Outside Bool) : Store :=
  storeAfter sampleSettings outside "mail" refusedAttempt connectedStore

theorem connected_enabled : OnlyEnabled connectedStore := by
  unfold OnlyEnabled Connected
  decide +kernel

theorem later_returned (outside : Outside Bool) (known : outside ∈ [auditFailsOnce, writeLostOnce]) :
    (attemptRun sampleSettings outside "mail" laterAttempt (afterRefusal outside)).1.isOk = true := by
  simp only [List.mem_cons, List.not_mem_nil, or_false] at known
  rcases known with rfl | rfl <;> decide +kernel

/-- The second call returns, and the user stays connected to the disabled instance. -/
theorem retry_leaves_connected :
    OnlyEnabled connectedStore ∧ ∀ outside ∈ [auditFailsOnce, writeLostOnce],
      (attemptRun sampleSettings outside "mail" refusedAttempt connectedStore).1.isOk = false ∧
      (attemptRun sampleSettings outside "mail" laterAttempt (afterRefusal outside)).1.isOk = true ∧
      ¬ Closed "mail" (storeAfter sampleSettings outside "mail" laterAttempt (afterRefusal outside)) := by
  refine ⟨connected_enabled, fun outside known => ⟨?_, later_returned outside known, ?_⟩⟩
  · simp only [List.mem_cons, List.not_mem_nil, or_false] at known
    rcases known with rfl | rfl <;> decide +kernel
  · simp only [List.mem_cons, List.not_mem_nil, or_false] at known
    unfold Closed Disabled Connected
    rcases known with rfl | rfl <;> decide +kernel

theorem closed_iff_retry :
    Closed "mail" (storeAfter sampleSettings writeLostOnce "mail" laterAttempt
        (afterRefusal writeLostOnce)) ↔
      Each (storeAfter sampleSettings writeLostOnce "mail")
        (Finished sampleSettings writeLostOnce "mail") connectedStore [refusedAttempt] :=
  closed_iff sampleSettings writeLostOnce "mail" connectedStore [refusedAttempt] laterAttempt
    connected_enabled (later_returned writeLostOnce (by simp))

end Lehen.Disabling
