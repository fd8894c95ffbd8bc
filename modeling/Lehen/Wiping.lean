import Lehen.Refreshing

/-!
Token calls interleaved with the cascades: a call reads a row, waits for the
provider, and then writes the row by its id, whatever happened to it meanwhile.
-/

namespace Lehen.Wiping

open Storage OAuth ConnectionsService Footprint Refreshing Schedule

variable {N : Type} {settings : Settings}

/-- Every row of the id is disconnected and without credentials. -/
@[reducible] def Wiped (store : Store) (id : String) : Prop :=
  ∀ row ∈ store.connections, row.id = id →
    row.encryptedCredentials = none ∧ row.status = .disconnected

/-- The id whose rows an answered operation has withdrawn. -/
def withdrawn : (op : Op) × Except PyError op.Res → Option String
  | ⟨.store (.updateConnections id (.withdraw _ _)), .ok _⟩ => some id
  | _ => none

/-- A cascade sent its update of the id, and the update succeeded. -/
@[reducible] def Withdrew (task : HubTask) (id : String) : Prop := some id ∈ task.log.map withdrawn

variable (settings) in
/-- A call in flight that has read a row of the id and is still to write it. -/
def Pending (task : HubTask) (id : String) : Prop :=
  task.running ∧ ∃ row, (task.seen (tokenProtocol settings)).pending = some row ∧ row.id = id

variable (settings) in
/-- Only token calls and cascades start, and a cascade updates a row only while
no call is still to write it. -/
def WithdrawsAlone (pool : HubPool N) : Event Request → Prop
  | .start request => Concerned request
  | .resume i => ∀ (task : HubTask) (id : String) (ts : Time) (reason : String),
      pool.tasks[i]? = some task →
      task.awaits (.store (.updateConnections id (.withdraw ts reason))) →
      ∀ (j : Nat) (other : HubTask), pool.tasks[j]? = some other → ¬ Pending settings other id

/-! Effects on a wiped row. -/

theorem wiped_update {store : Store} {id target : String} {set : ConnectionSet}
    (wiped : Wiped store id) (kept : target ≠ id ∨ ∃ ts reason, set = .withdraw ts reason) :
    Wiped { store with connections := setWhereId target set store.connections } id := by
  rintro row member named
  obtain ⟨old, earlier, same⟩ := List.mem_map.mp member
  by_cases hit : old.id = target
  · rw [if_pos hit] at same
    subst same
    rcases kept with different | ⟨ts, reason, rfl⟩
    · have oldNamed : old.id = id := by cases set <;> exact named
      exact absurd (hit.symm.trans oldNamed) different
    · exact ⟨rfl, rfl⟩
  · rw [if_neg hit] at same
    subst same
    exact wiped old earlier named

/-- The update of a cascade wipes the row, whatever it was. -/
theorem wiped_by_withdraw (store : Store) (id : String) (ts : Time) (reason : String) :
    Wiped { store with connections := setWhereId id (.withdraw ts reason) store.connections } id := by
  rintro row member named
  obtain ⟨old, earlier, same⟩ := List.mem_map.mp member
  by_cases hit : old.id = id
  · rw [if_pos hit] at same
    subst same
    exact ⟨rfl, rfl⟩
  · rw [if_neg hit] at same
    subst same
    exact absurd named hit

theorem wiped_same {store stored : Store} {id : String}
    (same : stored.connections = store.connections) (wiped : Wiped store id) : Wiped stored id := by
  rw [Wiped, same]
  exact wiped

/-- A read finds no usable row under a wiped id. -/
theorem wiped_unusable {store : Store} {id : String} {rows : ConnectionWhere}
    {row : ConnectionRow} {envelope : String} (wiped : Wiped store id)
    (usable : usableRow (store.connections.filter rows.holds) = some (row, envelope)) :
    row.id ≠ id := by
  intro named
  obtain ⟨first, connected, _⟩ := usable_found usable
  have member := (List.mem_filter.mp (List.mem_of_head? first)).1
  have facts := wiped row member named
  rw [connected] at facts
  cases facts.2

/-- A row that a call has renewed is not wiped, so it was not before. -/
theorem wiped_before {store : Store} {id target : String} {set : ConnectionSet}
    (renewal : set = .stale ∨ ∃ envelope, set = .credentials envelope)
    (wiped : Wiped { store with connections := setWhereId target set store.connections } id) :
    Wiped store id := by
  rintro row member named
  have facts := wiped _ (List.mem_map_of_mem member)
  by_cases hit : row.id = target
  · rw [if_pos hit] at facts
    rcases renewal with rfl | ⟨envelope, rfl⟩
    · cases (facts named).2
    · cases (facts named).1
  · rw [if_neg hit] at facts
    exact facts named

/-- What a token call or a cascade does to the rows. -/
theorem writes_cases {request : Request} {stage : Stage} {op : Op}
    (allowed : ((tokenProtocol settings).monitor request).allowed stage op) :
    Calm op ∨ (∃ id ts reason, op = .store (.updateConnections id (.withdraw ts reason))) ∨
      ∃ row set, op = .store (.updateConnections row.id set) ∧ stage.pending = some row ∧
        (set = .stale ∨ ∃ envelope, set = .credentials envelope) := by
  have cascade (withdrawing : Withdrawing op) :
      Calm op ∨ ∃ id ts reason, op = .store (.updateConnections id (.withdraw ts reason)) := by
    unfold Withdrawing at withdrawing
    split at withdrawing
    · exact .inr ⟨_, _, _, rfl⟩
    · exact .inl withdrawing
  cases request with
  | getValidAccessToken target clockSkewSeconds nowTs =>
      rcases writes_renewal allowed with calm | renewal
      · exact .inl calm
      · exact .inr (.inr renewal)
  | _ =>
      rcases cascade allowed with calm | withdrawal
      · exact .inl calm
      · exact .inr (.inl withdrawal)

/-- The statement of a token call or a cascade keeps a wiped row wiped, unless
the call is still to write it. -/
theorem wiped_exec (outside : Outside N) (request : Request) (stage : Stage) (op : Op)
    (world : World N) (id : String) (wiped : Wiped world.store id)
    (allowed : ((tokenProtocol settings).monitor request).allowed stage op)
    (settled : ∀ row, stage.pending = some row → row.id ≠ id) :
    Wiped (exec outside op world).2.store id := by
  have writes : Calm op ∨ ∃ target set, op = .store (.updateConnections target set) ∧
      (target ≠ id ∨ ∃ ts reason, set = .withdraw ts reason) := by
    rcases writes_cases allowed with calm | ⟨target, ts, reason, rfl⟩ | ⟨row, set, rfl, pending, _⟩
    · exact .inl calm
    · exact .inr ⟨target, _, rfl, .inr ⟨ts, reason, rfl⟩⟩
    · exact .inr ⟨row.id, set, rfl, .inl (settled row pending)⟩
  rcases writes with calm | ⟨target, set, rfl, kept⟩
  · exact wiped_same (calm_tables outside op world calm).connections wiped
  · rcases exec_moves outside (.updateConnections target set) world with same | same
    · rw [same]
      exact wiped
    · rw [same]
      exact wiped_update wiped kept

/-- A row is wiped by the update of a cascade only, answered or not. -/
theorem wiped_source (outside : Outside N) (request : Request) (stage : Stage) (op : Op)
    (world : World N) (id : String) (allowed : ((tokenProtocol settings).monitor request).allowed stage op)
    (wiped : Wiped (exec outside op world).2.store id) :
    Wiped world.store id ∨ ∃ ts reason, op = .store (.updateConnections id (.withdraw ts reason)) := by
  rcases writes_cases allowed with calm | ⟨target, ts, reason, rfl⟩ | ⟨row, set, rfl, _, renewal⟩
  · exact .inl (wiped_same (calm_tables outside op world calm).connections.symm wiped)
  · by_cases own : target = id
    · subst own
      exact .inr ⟨ts, reason, rfl⟩
    · left
      rcases exec_moves outside (.updateConnections target (.withdraw ts reason)) world with
        same | same
      · exact same ▸ wiped
      · rw [same] at wiped
        intro row member named
        have facts := wiped _ (List.mem_map_of_mem member)
        rw [if_neg fun hit => own (hit.symm.trans named)] at facts
        exact facts named
  · left
    rcases exec_moves outside (.updateConnections row.id set) world with same | same
    · exact same ▸ wiped
    · rw [same] at wiped
      exact wiped_before renewal wiped

/-- An operation that has withdrawn an id is the update of a cascade, carried out. -/
theorem withdrawn_exec (outside : Outside N) (op : Op) (world : World N) {id : String}
    (done : withdrawn ⟨op, (exec outside op world).1⟩ = some id) :
    ∃ ts reason, op = .store (.updateConnections id (.withdraw ts reason)) ∧
      (exec outside op world).2.store =
        { world.store with
          connections := setWhereId id (.withdraw ts reason) world.store.connections } := by
  generalize answered : (exec outside op world).1 = answer at done
  unfold withdrawn at done
  split at done
  · rename_i target ts reason value same
    obtain ⟨rfl, matched⟩ := Sigma.mk.inj same
    obtain rfl := eq_of_heq matched
    obtain rfl := Option.some.inj done
    rcases exec_store outside (.updateConnections target (.withdraw ts reason)) world with
      ⟨_, refused, _⟩ | ⟨_, stored⟩
    · rw [refused] at answered
      cases answered
    · exact ⟨ts, reason, rfl, stored⟩
  · cases done

/-! The invariant: a row that a cascade withdrew is wiped, and no call is still to
write a wiped row. -/

variable (settings) in
structure Sealed (pool : HubPool N) : Prop where
  withdrew : ∀ (i : Nat) (task : HubTask) (id : String), pool.tasks[i]? = some task →
    Withdrew task id → Wiped pool.state.store id
  nobody : ∀ id, Wiped pool.state.store id → ∀ (j : Nat) (other : HubTask),
    pool.tasks[j]? = some other → ¬ Pending settings other id

theorem fresh_not_pending (request : Request) (id : String) :
    ¬ Pending settings ⟨request, [], serve settings request⟩ id := by
  rintro ⟨_, row, pending, _⟩
  cases pending

theorem fresh_not_withdrew (request : Request) (id : String) :
    ¬ Withdrew ⟨request, [], serve settings request⟩ id := by
  intro logged
  cases logged

theorem sealed_start {outside : Outside N} (pool : HubPool N) (request : Request)
    (guarded : Sealed settings pool) :
    Sealed settings (pool.step (exec outside) instant (serve settings) (.start request)) := by
  constructor
  · intro i task id found withdrew
    rcases get_start found with before | rfl
    · exact guarded.withdrew i task id before withdrew
    · exact absurd withdrew (fresh_not_withdrew request id)
  · intro id wiped j other present
    rcases get_start present with earlier | rfl
    · exact guarded.nobody id wiped j other earlier
    · exact fresh_not_pending request id

/-- After an operation, a task is still to write a row only if it was before,
unless it has just read one that was not wiped. -/
theorem pending_before {outside : Outside N} {world : World N} {task : HubTask} {op : Op}
    {resume : Except PyError op.Res → Hub Unit} {id : String}
    (unread : Wiped world.store id ∨ ∀ rows, op ≠ .store (.selectConnections rows))
    (left : task.prog = .await op resume)
    (pending : Pending settings ⟨task.request, task.log ++ [⟨op, (exec outside op world).1⟩],
      resume (exec outside op world).1⟩ id) : Pending settings task id := by
  obtain ⟨_, row, holds, named⟩ := pending
  rw [seen_perform] at holds
  refine ⟨⟨op, resume, left⟩, row, ?_, named⟩
  revert holds
  generalize task.seen (tokenProtocol settings) = stage
  intro holds
  cases request : task.request with
  | getValidAccessToken target clockSkewSeconds nowTs =>
      rw [request] at holds
      rcases pending_read holds with before | ⟨rows, found, envelope, same, usable⟩
      · exact before
      · obtain ⟨rfl, answered⟩ := Sigma.mk.inj same
        rcases unread with wiped | noRead
        · -- The read found a usable row of the wiped id, which there is not.
          have answer := eq_of_heq answered
          rcases exec_read outside (.selectConnections rows) world rfl with ⟨_, refused, _⟩ | ⟨read, _⟩
          · rw [refused] at answer
            cases answer
          · rw [read] at answer
            obtain rfl := Except.ok.inj answer
            exact absurd named (wiped_unusable wiped usable)
        · exact absurd rfl (noRead rows)
  | _ =>
      rw [request] at holds
      exact holds

theorem sealed_perform {outside : Outside N} (pool : HubPool N) (i : Nat) (task : HubTask) (op : Op)
    (resume : Except PyError op.Res → Hub Unit) (guarded : Sealed settings pool)
    (found : pool.tasks[i]? = some task) (left : task.prog = .await op resume)
    (allowed : ((tokenProtocol settings).monitor task.request).allowed
      (task.seen (tokenProtocol settings)) op)
    (permitted : ∀ id ts reason, op = .store (.updateConnections id (.withdraw ts reason)) →
      ∀ (j : Nat) (other : HubTask), pool.tasks[j]? = some other → ¬ Pending settings other id) :
    Sealed settings (pool.perform (exec outside) i task op resume) ∧
      ∀ id, Wiped pool.state.store id →
        Wiped (pool.perform (exec outside) i task op resume).state.store id := by
  have running : task.running := ⟨op, resume, left⟩
  -- What was wiped before stays so: no call may still write the row.
  have stays (id : String) (wiped : Wiped pool.state.store id) :
      Wiped (exec outside op pool.state).2.store id := by
    apply wiped_exec outside task.request _ op pool.state id wiped allowed
    intro row pending named
    exact guarded.nobody id wiped i task found ⟨running, row, pending, named⟩
  refine ⟨⟨?_, ?_⟩, stays⟩
  · intro k third id present withdrew
    rcases get_perform found present with ⟨rfl, rfl⟩ | ⟨_, before⟩
    · unfold Withdrew at withdrew
      rw [List.map_append, List.map_singleton] at withdrew
      rcases List.mem_append.mp withdrew with past | new
      · exact stays id (guarded.withdrew k task id found past)
      · -- This operation is the update of the cascade, and it succeeded.
        obtain ⟨ts, reason, rfl, same⟩ :=
          withdrawn_exec outside op pool.state (List.mem_singleton.mp new).symm
        rw [Pool.perform, same]
        exact wiped_by_withdraw pool.state.store id ts reason
    · exact stays id (guarded.withdrew k third id before withdrew)
  · intro id wiped j other present pending
    have unread : Wiped pool.state.store id ∨ ∀ rows, op ≠ .store (.selectConnections rows) := by
      rcases wiped_source outside task.request _ op pool.state id allowed wiped with
        before | ⟨ts, reason, rfl⟩
      · exact .inl before
      · exact .inr fun rows different => by cases different
    have nobody : ∀ (j : Nat) (other : HubTask), pool.tasks[j]? = some other →
        ¬ Pending settings other id := by
      rcases wiped_source outside task.request _ op pool.state id allowed wiped with
        before | ⟨ts, reason, rfl⟩
      · exact guarded.nobody id before
      · exact permitted id ts reason rfl
    rcases get_perform found present with ⟨rfl, rfl⟩ | ⟨_, before⟩
    · exact nobody j task found (pending_before unread left pending)
    · exact nobody j other before pending

/-- The invariant along a run, and with it a wiped row. -/
theorem sealed_kept {settings : Settings} {outside : Outside N} (pool : HubPool N)
    (events : List (Event Request)) (past : Prop) (id : String)
    (disciplined : Disciplined (exec outside) instant (serve settings) (WithdrawsAlone settings) pool
      events)
    (watched : pool.Watched (tokenProtocol settings)) (guarded : Sealed settings pool)
    (wiped : past → Wiped pool.state.store id) :
    let after := pool.play (exec outside) instant (serve settings) events
    after.Watched (tokenProtocol settings) ∧ Sealed settings after ∧
      (past → Wiped after.state.store id) := by
  apply play_kept (fun pool : HubPool N => pool.Watched (tokenProtocol settings) ∧
    Sealed settings pool ∧ (past → Wiped pool.state.store id)) _ events disciplined
    ⟨watched, guarded, wiped⟩
  rintro pool event ⟨watched, inside⟩ permitted
  apply watched_step_kept
    (fun pool : HubPool N => Sealed settings pool ∧ (past → Wiped pool.state.store id))
    (fun pool i task op => ∀ id ts reason, op = .store (.updateConnections id (.withdraw ts reason)) →
      ∀ (j : Nat) (other : HubTask), pool.tasks[j]? = some other → ¬ Pending settings other id)
  · intro pool i task op quick id ts reason update
    rw [update] at quick
    cases quick
  · intro pool i task op resume inside found left follows alone
    obtain ⟨guarded, stays⟩ := sealed_perform pool i task op resume inside.1 found left follows.1 alone
    exact ⟨guarded, fun held => stays id (inside.2 held)⟩
  · exact watched
  · exact inside
  · intro request same
    subst same
    exact token_served settings request permitted
  · intro request _
    exact ⟨sealed_start pool request inside.1, inside.2⟩
  · intro i task op same found awaits id ts reason update
    subst same
    subst update
    exact permitted task id ts reason found awaits

/-- Over any interleaving in which no cascade updates a row that a call is still
to write, a row that is wiped at some point, as one is by the update of a cascade
whether that was answered or not, stays wiped. -/
theorem wiped_rows_stay_wiped (settings : Settings) (outside : Outside N) (world : World N)
    (earlier later : List (Event Request))
    (disciplined : Disciplined (exec outside) instant (serve settings) (WithdrawsAlone settings)
      ⟨world, []⟩ (earlier ++ later))
    (id : String)
    (wiped : (∃ task ∈ ((⟨world, []⟩ : HubPool N).play (exec outside) instant (serve settings)
        earlier).tasks, Withdrew task id) ∨
      Wiped ((⟨world, []⟩ : HubPool N).play (exec outside) instant (serve settings)
        earlier).state.store id) :
    Wiped ((⟨world, []⟩ : HubPool N).play (exec outside) instant (serve settings)
      (earlier ++ later)).state.store id := by
  have initial : (⟨world, []⟩ : HubPool N).Watched (tokenProtocol settings) ∧
      Sealed settings (⟨world, []⟩ : HubPool N) := by
    constructor
    · intro i task found
      cases found
    · constructor
      · intro i task id found
        cases found
      · intro id _ j other present
        cases present
  obtain ⟨first, second⟩ := (disciplined_append _ _ _).mp disciplined
  obtain ⟨watched, guarded, _⟩ := sealed_kept _ earlier False id first initial.1 initial.2 False.elim
  rw [play_append]
  refine (sealed_kept _ later True id second watched guarded fun _ => ?_).2.2 trivial
  rcases wiped with ⟨task, started, withdrew⟩ | wiped
  · obtain ⟨i, found⟩ := List.mem_iff_getElem?.mp started
    exact guarded.withdrew i task id found withdrew
  · exact wiped

/-! A refresh that waits for its last write while a cascade sweeps the row. -/

def generous : Outside Unit :=
  Outside.still (answering (tokenAnswer "access-1" (some "refresh-1")))

def sampleSweep : Request := .revokeAllForInstance "mail" "revoked-by-admin-disable" none

def sweepDuringRefresh : List (Event Request) :=
  [.start sampleCall, .start sampleSweep,
    .resume 0, .resume 0, .resume 0, .resume 1, .resume 1, .resume 0]

def sweptPool : HubPool Unit :=
  (⟨⟨sampleStore, ()⟩, []⟩ : HubPool Unit).play (exec generous) instant
    (serve sampleSettings) sweepDuringRefresh

/-- The refresh puts credentials back on the row the cascade has wiped. -/
theorem refresh_restores_credentials :
    (∃ task ∈ sweptPool.tasks, Withdrew task "u1:mail:0") ∧
      ¬ Wiped sweptPool.state.store "u1:mail:0" := by
  decide +kernel

def awaitsWithdrawal (task : HubTask) : Bool :=
  match task.prog with
  | .await (.store (.updateConnections _ (.withdraw _ _))) _ => true
  | _ => false

/-- A task is resumed that does not update a row for a cascade, or no call is still
to write one. -/
def withdrawsAlone (pool : HubPool N) : Event Request → Bool
  | .start (.revokeAllForInstance _ _ _) | .start (.getValidAccessToken _ _ _) => true
  | .start _ => false
  | .resume i => (pool.tasks[i]?.all fun task => !awaitsWithdrawal task) ||
      pool.tasks.all fun task =>
        !decide task.running || (task.seen (tokenProtocol sampleSettings)).pending.isNone

theorem withdraws_alone (pool : HubPool N) (event : Event Request)
    (checked : withdrawsAlone pool event = true) : WithdrawsAlone sampleSettings pool event := by
  cases event with
  | start request =>
      cases request with
      | revokeAllForInstance instanceId reason requestId => exact .cascadeInstance ..
      | getValidAccessToken id clockSkewSeconds nowTs => exact .call ..
      | _ => cases checked
  | resume i =>
      rintro task id ts reason found ⟨resume, left⟩ j other present ⟨running, row, pending, _⟩
      rw [withdrawsAlone, found, Bool.or_eq_true] at checked
      rcases checked with elsewhere | nobody
      · rw [Option.all_some, awaitsWithdrawal, left] at elsewhere
        cases elsewhere
      · have idle := List.all_eq_true.mp nobody other (List.mem_of_getElem? present)
        rw [pending, decide_eq_true running] at idle
        cases idle

def sweepBeforeRefresh : List (Event Request) :=
  [.start sampleSweep, .start sampleCall, .resume 0, .resume 0]

theorem swept_before_refresh :
    Wiped ((⟨⟨sampleStore, ()⟩, []⟩ : HubPool Unit).play (exec generous) instant
      (serve sampleSettings) (sweepBeforeRefresh ++ [.resume 1])).state.store "u1:mail:0" := by
  have checked : along (exec generous) instant (serve sampleSettings) withdrawsAlone
      ⟨⟨sampleStore, ()⟩, []⟩ (sweepBeforeRefresh ++ [.resume 1]) = true := by
    decide +kernel
  apply wiped_rows_stay_wiped sampleSettings generous ⟨sampleStore, ()⟩ sweepBeforeRefresh [.resume 1]
  · exact disciplined_of_along _ _ checked withdraws_alone
  · left
    decide +kernel

end Lehen.Wiping
