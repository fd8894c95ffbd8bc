import Lehen.Consistency
import Lehen.Offering
import Mathlib.Data.List.Dedup

/-!
One `complete_grant` interleaved with one admin action that withdraws its
instance: a disabling, a deletion, or a mapping that no longer lists it. The
gates are read before the calls to the provider, the row is inserted after them.
-/

namespace Lehen.Withdrawal

open Storage OAuth AuditService SiamService ConnectionsService Footprint Granting Administration
  Consistency Schedule

variable {N : Type} {instanceId : String}

/-- The actions after which nobody may be connected to the instance. -/
inductive Withdraws (instanceId : String) : Action → Prop
  | disable : Withdraws instanceId (.update instanceId (some false))
  | delete : Withdraws instanceId (.delete instanceId)
  | unmap (mapping : Json) (unlisted : (SiamService.normalize mapping).lists instanceId = false) :
      Withdraws instanceId (.replace mapping)

@[reducible] def NoneActive (instanceId : String) (store : Store) : Prop :=
  ∀ row ∈ store.connections, row.isActive = true → row.integrationInstanceId ≠ instanceId

/-- A lookup of connection rows. An admin action makes one, for its cascade. -/
def isSweep (entry : (op : Op) × Except PyError op.Res) : Bool :=
  match entry.1 with
  | .store (.selectConnections _) => true
  | _ => false

/-- A connection row is inserted only while no other request has looked up the
rows it is to withdraw, and no further request starts. -/
def InsertsBeforeSweep (pool : HubPool N) : Event Request → Prop
  | .start _ => False
  | .resume i => ∀ (task : HubTask) (row : ConnectionRow), pool.tasks[i]? = some task →
      task.awaits (.store (.insertConnection row)) →
      ∀ (j : Nat) (other : HubTask), j ≠ i → pool.tasks[j]? = some other →
        other.log.any isSweep = false

/-- The mapping after a document with a mapping that does not list the instance
was inserted, or put in the place of the current one. -/
theorem unlisted_insert (store : Store) (doc : SiamRow)
    (unlisted : (SiamService.normalize doc.mapping).lists instanceId = false)
    (before : (currentMapping store).lists instanceId = false) :
    (currentMapping { store with siam := store.siam ++ [doc] }).lists instanceId = false := by
  simp only [currentMapping, List.filter_append] at before ⊢
  cases first : store.siam.filter fun row => row.id = siamId with
  | nil =>
      rw [List.nil_append, List.filter_singleton]
      cases decide (doc.id = siamId) with
      | true => exact unlisted
      | false => rfl
  | cons row rest =>
      rw [first] at before
      exact before

theorem unlisted_update (store : Store) (doc : SiamRow) (named : doc.id = siamId)
    (unlisted : (SiamService.normalize doc.mapping).lists instanceId = false) :
    (currentMapping { store with
      siam := store.siam.map fun row => if row.id = siamId then doc else row }).lists instanceId =
        false := by
  simp only [currentMapping]
  induction store.siam with
  | nil => rfl
  | cons row rest ih =>
      by_cases same : row.id = siamId
      · simp only [List.map_cons, if_pos same, List.filter_cons, named, decide_true, if_true]
        exact unlisted
      · simp only [List.map_cons, List.filter_cons, same, decide_false,
          Bool.false_eq_true, if_false]
        exact ih

/-! An instance that is closed at first: nobody is connected, and no grant will
find both gates open. -/

def NeverEnabled (instanceId : String) (view : GrantView) (store : Store) : Prop :=
  ¬ InstanceEnabled store instanceId ∧ ∀ row, view.gate = some row → row.enabled = false

def NeverListed (instanceId : String) (view : GrantView) (store : Store) : Prop :=
  (currentMapping store).lists instanceId = false ∧
    ∀ mapping, view.mapping = some mapping → mapping.lists instanceId = false

structure Closed (instanceId : String) (view : GrantView) (store : Store) : Prop where
  none : NoneActive instanceId store
  shut : NeverEnabled instanceId view store ∨ NeverListed instanceId view store

theorem closed_not_open {view : GrantView} {store : Store} (closed : Closed instanceId view store) :
    ¬ view.Open instanceId := by
  rintro ⟨⟨row, gate, enabled⟩, mapping, known, listed⟩
  rcases closed.shut with ⟨_, disabled⟩ | ⟨_, unlisted⟩
  · rw [disabled row gate] at enabled
    cases enabled
  · rw [unlisted mapping known] at listed
    cases listed

theorem none_active_update {store : Store} {id : String} {set : ConnectionSet}
    (none : NoneActive instanceId store) :
    NoneActive instanceId { store with connections := setWhereId id set store.connections } := by
  intro row member active
  obtain ⟨old, earlier, wasActive, _, place⟩ := active_before _ id set row member active
  rw [← place]
  exact none old earlier wasActive

/-- A grant keeps a closed instance closed: it never gets to insert a row. -/
theorem closed_grant (outside : Outside N) (userSub : String) (view : GrantView) (op : Op)
    (world : World N) (closed : Closed instanceId view world.store)
    (allowed : (grantMonitor userSub instanceId).allowed view op) :
    Closed instanceId (view.next op (exec outside op world).1) (exec outside op world).2.store := by
  rcases allowed_cases allowed with ⟨row, rfl, licensed⟩ | calm
  · exact absurd licensed.gates (closed_not_open closed)
  · have same := calm_tables outside op world calm
    have none : NoneActive instanceId (exec outside op world).2.store := by
      rw [NoneActive, same.connections]
      exact closed.none
    refine ⟨none, ?_⟩
    -- Of the reads only that of the gates is noticed, and it shows what is closed.
    rcases gates_noticed view op (exec outside op world).1 with ⟨id, rfl⟩ | ⟨id, rfl⟩ | ⟨gate, mapping⟩
    · obtain rfl : id = instanceId := allowed
      rcases exec_read outside (.selectInstance id) world rfl with ⟨_, failed, stored⟩ | ⟨answer, stored⟩
      · rw [failed, stored]
        exact closed.shut
      · rw [answer, stored]
        rcases closed.shut with ⟨disabled, _⟩ | unlisted
        · left
          refine ⟨disabled, fun row found => ?_⟩
          have member := List.mem_filter.mp (List.mem_of_head? found)
          cases enabled : row.enabled with
          | false => rfl
          | true =>
              exact absurd ⟨row, member.1, of_decide_eq_true member.2, enabled⟩ disabled
        · exact .inr unlisted
    · obtain rfl : id = siamId := allowed
      rcases exec_read outside (.selectSiam siamId) world rfl with ⟨_, failed, stored⟩ | ⟨answer, stored⟩
      · rw [failed, stored]
        exact closed.shut
      · rw [answer, stored]
        rcases closed.shut with disabled | ⟨unlisted, _⟩
        · exact .inl disabled
        · right
          refine ⟨unlisted, fun mapping read => ?_⟩
          rw [← Option.some.inj read]
          exact unlisted
    · rcases closed.shut with ⟨disabled, seen⟩ | ⟨unlisted, seen⟩
      · left
        constructor
        · simp only [InstanceEnabled, same.instances]
          exact disabled
        · rw [gate]
          exact seen
      · right
        constructor
        · simp only [currentMapping, same.siam]
          exact unlisted
        · rw [mapping]
          exact seen

/-- The writes of an action that withdraws the instance. -/
inductive Writes (instanceId : String) : Op → Prop
  | withdraw (id : String) (ts : Time) (reason : String) :
      Writes instanceId (.store (.updateConnections id (.withdraw ts reason)))
  | disable (doc : InstanceRow) (disabled : doc.enabled = false) :
      Writes instanceId (.store (.updateInstance instanceId doc))
  | delete : Writes instanceId (.store (.deleteInstance instanceId))
  | insertMapping (doc : SiamRow) (unlisted : (SiamService.normalize doc.mapping).lists instanceId = false) :
      Writes instanceId (.store (.insertSiam doc))
  | updateMapping (doc : SiamRow) (named : doc.id = siamId)
      (unlisted : (SiamService.normalize doc.mapping).lists instanceId = false) :
      Writes instanceId (.store (.updateSiam siamId doc))

theorem writes_of_allowed {action : Action} {stage : Stage} {op : Op}
    (withdraws : Withdraws instanceId action) (allowed : action.Allows stage op) :
    Calm op ∨ Writes instanceId op := by
  unfold Action.Allows at allowed
  split at allowed
  case h_2 => cases withdraws
  case h_4 =>
    cases withdraws
    obtain ⟨rfl, _, disabled⟩ := allowed
    exact .inr (.disable _ disabled)
  case h_8 =>
    cases withdraws
    obtain rfl := allowed
    exact .inr .delete
  case h_11 =>
    cases withdraws with
    | unmap mapping unlisted =>
        obtain ⟨_, written⟩ := allowed
        exact .inr (.insertMapping _ (by rw [written, lists_written]; exact unlisted))
  case h_12 =>
    cases withdraws with
    | unmap mapping unlisted =>
        obtain ⟨rfl, named, written⟩ := allowed
        exact .inr (.updateMapping _ named (by rw [written, lists_written]; exact unlisted))
  case h_15 => exact .inr (.withdraw ..)
  case h_16 => exact .inl (calm_of_quiet _ (quiet_of_logging _ allowed))
  all_goals exact .inl trivial

theorem not_enabled_disabled {store : Store} {doc : InstanceRow} (disabled : doc.enabled = false) :
    ¬ InstanceEnabled { store with
      instances := store.instances.map fun row => if row.id = instanceId then doc else row }
        instanceId := by
  rintro ⟨row, member, named, enabled⟩
  obtain ⟨old, known, same⟩ := List.mem_map.mp member
  by_cases hit : old.id = instanceId
  · rw [if_pos hit] at same
    rw [← same, disabled] at enabled
    cases enabled
  · rw [if_neg hit] at same
    rw [← same] at named
    exact hit named

/-- An action that withdraws the instance keeps it closed. -/
theorem closed_admin (outside : Outside N) (view : GrantView) (op : Op) (world : World N)
    (closed : Closed instanceId view world.store) (writes : Calm op ∨ Writes instanceId op) :
    Closed instanceId view (exec outside op world).2.store := by
  obtain ⟨none, shut⟩ := closed
  -- A write of the action may only close the instance further.
  rcases writes with calm | writes
  · have same := calm_tables outside op world calm
    constructor
    · rw [NoneActive, same.connections]
      exact none
    · simp only [NeverEnabled, NeverListed, InstanceEnabled, currentMapping, same.instances,
        same.siam]
      exact shut
  · obtain ⟨statement, rfl⟩ : ∃ statement, op = .store statement := by
      cases writes <;> exact ⟨_, rfl⟩
    rcases exec_moves outside statement world with same | same
    · rw [same]
      exact ⟨none, shut⟩
    · rw [same]
      cases writes with
      | withdraw id ts reason => exact ⟨none_active_update none, shut⟩
      | disable doc disabled =>
          refine ⟨none, ?_⟩
          rcases shut with ⟨_, seen⟩ | unlisted
          · exact .inl ⟨not_enabled_disabled disabled, seen⟩
          · exact .inr unlisted
      | delete =>
          refine ⟨none, ?_⟩
          rcases shut with ⟨never, seen⟩ | unlisted
          · left
            refine ⟨?_, seen⟩
            rintro ⟨row, member, facts⟩
            exact never ⟨row, (List.mem_filter.mp member).1, facts⟩
          · exact .inr unlisted
      | insertMapping doc unlisted =>
          refine ⟨none, ?_⟩
          rcases shut with never | ⟨before, seen⟩
          · exact .inl never
          · exact .inr ⟨unlisted_insert world.store doc unlisted before, seen⟩
      | updateMapping doc named unlisted =>
          refine ⟨none, ?_⟩
          rcases shut with never | ⟨_, seen⟩
          · exact .inl never
          · exact .inr ⟨unlisted_update world.store doc named unlisted, seen⟩

/-! An instance that is open at first: the action comes to sweep every active row
on it, as long as none is inserted afterwards. -/

/-- What an action at a stage has still to do about the instance, and has done. -/
def Due (instanceId : String) : Stage → Store → Prop
  | .idle, store => DistinctInstances store ∧ InstanceEnabled store instanceId ∧
      (currentMapping store).lists instanceId
  | .found row, _ => row.enabled = true
  | .kept _ _, _ => False
  | .mapped before known, store => before.lists instanceId ∧
      known = !(store.siam.filter fun row => row.id = siamId).isEmpty
  | .replaced before, store => before.lists instanceId ∧
      (currentMapping store).lists instanceId = false
  | .reread before after, _ => before.lists instanceId ∧ after.lists instanceId = false
  | .sweeping rows, store => ∀ row ∈ store.connections, row.isActive = true →
      row.integrationInstanceId = instanceId → row.id ∈ rows.map ConnectionRow.id
  | .gone, store => NoneActive instanceId store
  | .absent, _ | .owes, _ | .failed, _ => True

/-- The action has looked up the rows it is to withdraw. -/
def swept : Stage → Bool
  | .sweeping _ | .gone => true
  | _ => false

theorem due_same {stage : Stage} {store stored : Store} (same : SameTables store stored)
    (due : Due instanceId stage store) : Due instanceId stage stored := by
  obtain ⟨connections, instances, siam⟩ := same
  cases stage <;>
    simp only [Due, NoneActive, DistinctInstances, InstanceEnabled, currentMapping, connections,
      instances, siam] at due ⊢ <;>
    exact due

/-- A row that is inserted before the sweep will be swept. -/
theorem due_insert {stage : Stage} {store : Store} (row : ConnectionRow)
    (due : Due instanceId stage store) (early : swept stage = false) :
    Due instanceId stage { store with connections := store.connections ++ [row] } := by
  cases stage with
  | sweeping rows => cases early
  | gone => cases early
  | _ => exact due

theorem due_grant (outside : Outside N) (userSub : String) (view : GrantView) (stage : Stage)
    (op : Op) (world : World N) (due : Due instanceId stage world.store)
    (allowed : (grantMonitor userSub instanceId).allowed view op)
    (early : ∀ row, op = .store (.insertConnection row) → swept stage = false) :
    Due instanceId stage (exec outside op world).2.store := by
  rcases allowed_cases allowed with ⟨row, rfl, _⟩ | calm
  · rcases exec_moves outside (.insertConnection row) world with same | same
    · rw [same]
      exact due
    · rw [same]
      exact due_insert row due (early row rfl)
  · exact due_same (calm_tables outside op world calm) due

/-- The instance an action finds is the enabled one. -/
theorem found_enabled {store : Store} {row : InstanceRow} (distinct : DistinctInstances store)
    (enabled : InstanceEnabled store instanceId)
    (found : (store.instances.filter fun row => row.id = instanceId).head? = some row) :
    row.enabled = true := by
  obtain ⟨other, known, named, on⟩ := enabled
  have member := List.mem_filter.mp (List.mem_of_head? found)
  have one : other = row := List.inj_on_of_nodup_map distinct known member.1
    (named.trans (of_decide_eq_true member.2).symm)
  rw [← one]
  exact on

/-- A statement either fails, and ends the action, or does what it says. -/
theorem due_exec (outside : Outside N) {stage : Stage} {statement : StoreOp} {world : World N}
    (reached : Due instanceId (stage.next (.store statement) (.ok (statement.apply world.store).1))
      (statement.apply world.store).2) :
    Due instanceId (stage.next (.store statement) (exec outside (.store statement) world).1)
      (exec outside (.store statement) world).2.store := by
  rcases exec_store outside statement world with ⟨error, failed, _⟩ | ⟨answer, same⟩
  · rw [failed, next_error]
    trivial
  · rw [answer, same]
    exact reached

theorem due_find {store : Store} (due : Due instanceId .idle store) :
    Due instanceId (Stage.next .idle (.store (.selectInstance instanceId))
      (.ok (store.instances.filter fun row => row.id = instanceId))) store := by
  obtain ⟨distinct, enabled, _⟩ := due
  cases found : (store.instances.filter fun row => row.id = instanceId).head? with
  | none =>
      simp only [Stage.next, found]
      trivial
  | some row =>
      simp only [Stage.next, found]
      exact found_enabled distinct enabled found

/-- The rows the cascade of an instance selects are all its active rows. -/
theorem due_select {store : Store} :
    Due instanceId
      (.sweeping (store.connections.filter (ConnectionWhere.onInstance instanceId).holds)) store := by
  intro row member active place
  apply in_selection member
  simp only [ConnectionWhere.holds, place, active, decide_true, Bool.and_self]

theorem due_orphans {before after : Mapping} {store : Store} (listed : before.lists instanceId)
    (unlisted : after.lists instanceId = false) :
    Due instanceId
      (.sweeping ((store.connections.filter ConnectionWhere.anyActive.holds).filter
        (isOrphaned before after))) store := by
  intro row member active place
  apply List.mem_map_of_mem
  apply List.mem_filter.mpr
  refine ⟨List.mem_filter.mpr ⟨member, active⟩, ?_⟩
  rw [isOrphaned, place, listed, unlisted]
  rfl

theorem due_withdraw {row : ConnectionRow} {rows : List ConnectionRow} {store : Store} (ts : Time)
    (reason : String) (due : Due instanceId (.sweeping (row :: rows)) store) :
    Due instanceId (.sweeping rows)
      { store with connections := setWhereId row.id (.withdraw ts reason) store.connections } := by
  intro other member active place
  obtain ⟨earlier, different⟩ := active_after_withdraw _ row.id ts reason other member active
  rcases List.mem_cons.mp (due other earlier active place) with same | later
  · exact absurd same different
  · exact later

theorem due_admin (outside : Outside N) {action : Action} {stage : Stage} (op : Op) (world : World N)
    (withdraws : Withdraws instanceId action) (allowed : action.Allows stage op)
    (due : Due instanceId stage world.store) :
    Due instanceId (stage.next op (exec outside op world).1) (exec outside op world).2.store := by
  unfold Action.Allows at allowed
  split at allowed
  case h_1 => cases withdraws
  case h_2 => cases withdraws
  case h_3 =>
    cases withdraws
    obtain rfl := allowed
    exact due_exec outside (due_find due)
  case h_4 row id doc =>
    -- The write disables an instance that was enabled, so the cascade is owed.
    cases withdraws
    obtain ⟨rfl, _, disabled⟩ := allowed
    apply due_exec outside
    have owes : row.enabled = true ∧ doc.enabled = false := ⟨due, disabled⟩
    simp only [Stage.next, if_pos owes]
    trivial
  case h_5 =>
    cases withdraws
    obtain rfl := allowed
    exact due_exec outside due_select
  case h_6 =>
    cases withdraws
    obtain rfl := allowed
    exact due_exec outside (due_find due)
  case h_7 =>
    cases withdraws
    obtain rfl := allowed
    exact due_exec outside due_select
  case h_8 =>
    apply due_exec outside
    intro row member active place
    have listed := due row member active place
    cases listed
  case h_9 =>
    obtain rfl := allowed
    exact due_exec outside ⟨due.2.2, rfl⟩
  case h_10 =>
    obtain rfl := allowed
    exact due_exec outside ⟨due.1, rfl⟩
  case h_11 before doc =>
    cases withdraws with
    | unmap mapping unlisted =>
        obtain ⟨_, written⟩ := allowed
        apply due_exec outside
        refine ⟨due.1, ?_⟩
        apply unlisted_insert
        · rw [written, lists_written]
          exact unlisted
        · have none : (world.store.siam.filter fun row => row.id = siamId) = [] := by
            have known := due.2
            simpa using known
          rw [currentMapping, none]
          rfl
  case h_12 before id doc =>
    cases withdraws with
    | unmap mapping unlisted =>
        obtain ⟨rfl, named, written⟩ := allowed
        apply due_exec outside
        refine ⟨due.1, ?_⟩
        apply unlisted_update _ _ named
        rw [written, lists_written]
        exact unlisted
  case h_13 =>
    obtain rfl := allowed
    exact due_exec outside due
  case h_14 => exact due_exec outside (due_orphans due.1 due.2)
  case h_15 =>
    obtain rfl := allowed
    exact due_exec outside (due_withdraw _ _ due)
  case h_16 =>
    have same := calm_tables outside op world (calm_of_quiet op (quiet_of_logging op allowed))
    cases (exec outside op world).1 with
    | ok value =>
        rw [next_logging stage op value allowed]
        exact due_same same due
    | error error =>
        rw [next_error]
        trivial

/-- An action that has looked up the rows to withdraw has it in its log. -/
theorem swept_next {stage : Stage} {op : Op} {answer : Except PyError op.Res}
    (writes : Calm op ∨ Writes instanceId op) (now : swept (stage.next op answer) = true) :
    swept stage = true ∨ isSweep ⟨op, answer⟩ = true := by
  by_cases before : swept stage = true
  · exact .inl before
  · right
    unfold Stage.next at now
    split at now
    all_goals first | rfl | contradiction | skip
    · split at now <;> cases now
    · rcases writes with calm | impossible
      · exact calm.elim
      · cases impossible
    · split at now <;> cases now

/-! The pool: the grant at 0, the action at 1. -/

/-- The two requests, before either has begun. -/
def contest (settings : Settings) (world : World N) (grant admin : Request) : HubPool N :=
  ⟨world, [⟨grant, [], serve settings grant⟩, ⟨admin, [], serve settings admin⟩]⟩

def grantProtocolOf (userSub instanceId : String) :
    Protocol Request Op Op.Res PyError Unit GrantView :=
  { monitor := fun _ => grantMonitor userSub instanceId, initial := fun _ => {}
    post := fun _ _ _ => True }

def adminProtocolOf (action : Action) : Protocol Request Op Op.Res PyError Unit Stage :=
  { monitor := fun _ => adminMonitor action, initial := fun _ => .idle
    post := fun _ => action.Ends }

structure Contested (userSub instanceId : String) (action : Action) (pool : HubPool N) : Prop where
  two : pool.tasks.length = 2
  grant : pool.WatchedAt (grantProtocolOf userSub instanceId) 0
  admin : pool.WatchedAt (adminProtocolOf action) 1
  recorded : ∀ task : HubTask, pool.tasks[1]? = some task →
    swept (task.seen (adminProtocolOf action)) = true → task.log.any isSweep = true
  inside : ∀ granting admin : HubTask, pool.tasks[0]? = some granting →
    pool.tasks[1]? = some admin →
    Closed instanceId (granting.seen (grantProtocolOf userSub instanceId)) pool.state.store ∨
      Due instanceId (admin.seen (adminProtocolOf action)) pool.state.store

variable {userSub : String} {action : Action}

theorem contested_perform {outside : Outside N} {pool : HubPool N} {i : Nat} {task : HubTask}
    {op : Op} {resume : Except PyError op.Res → Hub Unit} (withdraws : Withdraws instanceId action)
    (contested : Contested userSub instanceId action pool) (found : pool.tasks[i]? = some task)
    (left : task.prog = .await op resume)
    (early : ∀ row, op = .store (.insertConnection row) →
      ∀ (j : Nat) (other : HubTask), j ≠ i → pool.tasks[j]? = some other →
        other.log.any isSweep = false) :
    Contested userSub instanceId action (pool.perform (exec outside) i task op resume) := by
  have bound : i < 2 := contested.two ▸ (List.getElem?_eq_some_iff.mp found).1
  have size : (pool.perform (exec outside) i task op resume).tasks.length = 2 := by
    rw [Pool.perform, List.length_set]
    exact contested.two
  have grant : (pool.perform (exec outside) i task op resume).WatchedAt
      (grantProtocolOf userSub instanceId) 0 := watched_at_perform contested.grant found left
  have admin : (pool.perform (exec outside) i task op resume).WatchedAt
      (adminProtocolOf action) 1 := watched_at_perform contested.admin found left
  rcases Nat.lt_succ_iff_lt_or_eq.mp bound with first | rfl
  · -- The grant takes the step.
    obtain rfl : i = 0 := Nat.lt_one_iff.mp first
    have allowed : (grantMonitor userSub instanceId).allowed
        (task.seen (grantProtocolOf userSub instanceId)) op :=
      (follows_of_watched contested.grant found left).1
    have other (third : HubTask)
        (present : (pool.perform (exec outside) 0 task op resume).tasks[1]? = some third) :
        pool.tasks[1]? = some third := by
      rcases get_perform found present with ⟨impossible, _⟩ | ⟨_, before⟩
      · cases impossible
      · exact before
    refine ⟨size, grant, admin, ?_, ?_⟩
    · intro third present
      exact contested.recorded third (other third present)
    · intro granting third here present
      rcases get_perform found here with ⟨_, rfl⟩ | ⟨different, _⟩
      · have before := other third present
        rw [seen_perform]
        rcases contested.inside task third found before with closed | due
        · exact .inl (closed_grant outside userSub _ op pool.state closed allowed)
        · right
          apply due_grant outside userSub _ _ op pool.state due allowed
          intro row insert
          have unswept := early row insert 1 third (by decide) before
          cases already : swept (third.seen (adminProtocolOf action)) with
          | false => rfl
          | true =>
              rw [contested.recorded third before already] at unswept
              cases unswept
      · exact absurd rfl different
  · -- The action takes the step.
    have allowed : action.Allows (task.seen (adminProtocolOf action)) op :=
      (follows_of_watched contested.admin found left).1
    have writes := writes_of_allowed withdraws allowed
    refine ⟨size, grant, admin, ?_, ?_⟩
    · intro third present now
      rcases get_perform found present with ⟨_, rfl⟩ | ⟨different, _⟩
      · rw [seen_perform] at now
        rw [List.any_append]
        rcases swept_next writes now with before | sweep
        · rw [contested.recorded task found before]
          rfl
        · rw [List.any_cons, sweep]
          simp
      · exact absurd rfl different
    · intro granting third here present
      rcases get_perform found present with ⟨_, rfl⟩ | ⟨different, _⟩
      · rcases get_perform found here with ⟨impossible, _⟩ | ⟨_, before⟩
        · cases impossible
        · rw [seen_perform]
          rcases contested.inside granting task before found with closed | due
          · exact .inl (closed_admin outside _ op pool.state closed writes)
          · exact .inr (due_admin outside op pool.state withdraws allowed due)
      · exact absurd rfl different

theorem contested_start (settings : Settings) (world : World N) (user : CurrentUser)
    (code state : String) (requestId : Option String) (admin : Request)
    (consistent : Consistent world.store) (carries : actionOf admin = some action) :
    Contested user.sub instanceId action
      (contest settings world (.completeGrant user instanceId code state requestId) admin) := by
  constructor
  · rfl
  · intro task found
    obtain rfl := Option.some.inj found
    exact follows_drop (complete_follows ..)
  · intro task found
    obtain rfl := Option.some.inj found
    exact action_served settings admin action carries
  · intro task found now
    obtain rfl := Option.some.inj found
    cases now
  · intro granting third here present
    obtain rfl := Option.some.inj here
    obtain rfl := Option.some.inj present
    by_cases enabled : InstanceEnabled world.store instanceId
    · cases listed : (currentMapping world.store).lists instanceId with
      | true => exact .inr ⟨consistent.distinct, enabled, listed⟩
      | false =>
          refine .inl ⟨fun row member active place => ?_, .inr ⟨listed, fun _ none => by cases none⟩⟩
          have backed := (consistent.backed row member active).2
          rw [place, listed] at backed
          cases backed
    · refine .inl ⟨fun row member active place => ?_, .inl ⟨enabled, fun _ none => by cases none⟩⟩
      have backed := (consistent.backed row member active).1
      rw [place] at backed
      exact enabled backed

/-- Where an action that succeeds has come to, nobody is connected. -/
theorem none_active_settled {stage : Stage} {store : Store} (withdraws : Withdraws instanceId action)
    (settled : action.Settled stage) (due : Due instanceId stage store) :
    NoneActive instanceId store := by
  have swept (same : stage = .sweeping []) : NoneActive instanceId store := by
    subst same
    intro row member active place
    cases due row member active place
  cases withdraws with
  | disable =>
      rcases settled with same | ⟨row, doc, rfl⟩
      · exact swept same
      · exact due.elim
  | delete =>
      obtain rfl : stage = .gone := settled
      exact due
  | unmap mapping unlisted =>
      rcases settled with same | ⟨known, rfl⟩
      · exact swept same
      · have impossible := due.1
        rw [due.2] at impossible
        cases impossible

/-- Over any interleaving of a grant with an action that withdraws its instance,
if the row is not inserted after the action has looked up the rows to withdraw,
the action leaves nobody connected to the instance. -/
theorem nobody_connected_after_withdrawal (settings : Settings) (outside : Outside N)
    (world : World N) (user : CurrentUser) (instanceId code state : String)
    (requestId : Option String) (admin : Request) (action : Action) (events : List (Event Request))
    (consistent : Consistent world.store) (carries : actionOf admin = some action)
    (withdraws : Withdraws instanceId action)
    (disciplined : Disciplined (exec outside) instant (serve settings) InsertsBeforeSweep
      (contest settings world (.completeGrant user instanceId code state requestId) admin) events)
    (returned : ∃ task : HubTask, ((contest settings world
        (.completeGrant user instanceId code state requestId) admin).play (exec outside) instant
          (serve settings) events).tasks[1]? = some task ∧ task.prog = .ret ()) :
    NoneActive instanceId ((contest settings world
      (.completeGrant user instanceId code state requestId) admin).play (exec outside) instant
        (serve settings) events).state.store := by
  have start : Contested user.sub instanceId action (contest settings world
      (.completeGrant user instanceId code state requestId) admin) :=
    contested_start settings world user code state requestId admin consistent carries
  have contested := play_kept (Contested user.sub instanceId action) _ events disciplined start ?_
  · obtain ⟨task, found, ended⟩ := returned
    have follows := contested.admin task found
    rw [Task.Watched, ended] at follows
    have bound : 0 < _ := Nat.lt_of_lt_of_eq Nat.zero_lt_two contested.two.symm
    -- The action has come to its end, so it owes no withdrawal.
    rcases contested.inside _ task (List.getElem?_eq_getElem bound) found with closed | due
    · exact closed.none
    · exact none_active_settled withdraws follows due
  · intro pool event contested permitted
    cases event with
    | start request => exact permitted.elim
    | resume i =>
        apply turn_kept (Contested user.sub instanceId action) pool i contested
        · intro task op resume found left
          apply contested_perform withdraws contested found left
          rintro row rfl
          exact permitted task row found ⟨resume, left⟩
        · intro pool task op resume found left quick contested
          apply contested_perform withdraws contested found left
          rintro row rfl
          cases quick

/-! A grant that passes its gates before the instance is disabled, and inserts
its row afterwards. -/

def sampleState : String :=
  match ((initiateGrant sampleSettings sampleUser "mail" "http://127.0.0.1/callback").run
    (exec (Outside.still provider)) ⟨mappedStore, ()⟩).1 with
  | .ok request => request.state
  | .error _ => ""

theorem sample_offered : sampleState = offeredState := by
  rw [offered_sealed]
  rfl

def sampleDisable : Request := .updateInstance sampleUser "mail" { enabled := some false } none

def racedPool : HubPool Unit :=
  (contest sampleSettings ⟨mappedStore, ()⟩
    (.completeGrant sampleUser "mail" "code" sampleState none) sampleDisable).play
      (exec (Outside.still provider)) instant (serve sampleSettings)
      (List.replicate 3 (.resume 0) ++ List.replicate 4 (.resume 1) ++ List.replicate 7 (.resume 0))

def returned (task : HubTask) : Bool :=
  match task.prog with
  | .ret _ => true
  | _ => false

theorem mapped_consistent : Consistent mappedStore := by
  constructor
  · exact List.nodup_singleton _
  · intro row member
    cases member

/-- Both requests succeed, and the user stays connected to the disabled instance. -/
theorem grant_outlives_disable :
    Consistent mappedStore ∧ racedPool.tasks.all returned = true ∧
      (racedPool.state.store.instances.all fun row => !row.enabled) = true ∧
      ¬ NoneActive "mail" racedPool.state.store := by
  refine ⟨mapped_consistent, ?_⟩
  unfold racedPool contest
  rw [serve_complete]
  unfold completeGrant authorize
  rw [sample_offered, decode_state_offered]
  decide +kernel

def awaitsInsert (task : HubTask) : Bool :=
  match task.prog with
  | .await (.store (.insertConnection _)) _ => true
  | _ => false

/-- `InsertsBeforeSweep`, as a check. -/
def insertsBeforeSweep (pool : HubPool N) : Event Request → Bool
  | .start _ => false
  | .resume i => !(pool.tasks[i]?.any awaitsInsert) ||
      (pool.tasks.eraseIdx i).all fun other => !other.log.any isSweep

theorem inserts_before_sweep (pool : HubPool N) (event : Event Request)
    (checked : insertsBeforeSweep pool event = true) : InsertsBeforeSweep pool event := by
  cases event with
  | start request => cases checked
  | resume i =>
      rintro task row found ⟨resume, left⟩ j other different present
      have awaits : awaitsInsert task = true := by rw [awaitsInsert, left]
      rw [insertsBeforeSweep, found, Option.any_some, awaits] at checked
      have unswept := List.all_eq_true.mp checked other
        (List.mem_eraseIdx_iff_getElem?.mpr ⟨j, different, present⟩)
      simpa using unswept

/-- The same requests, when the row is inserted before the instance is disabled. -/
def sweptEvents : List (Event Request) :=
  List.replicate 9 (.resume 0) ++ List.replicate 6 (.resume 1) ++ [.resume 0]

def inTurnPool : HubPool Unit :=
  (contest sampleSettings ⟨mappedStore, ()⟩
    (.completeGrant sampleUser "mail" "code" sampleState none) sampleDisable).play
      (exec (Outside.still provider)) instant (serve sampleSettings) sweptEvents

theorem disable_sweeps_granted : NoneActive "mail" inTurnPool.state.store := by
  have run : inTurnPool.tasks[1]?.any returned = true ∧
      along (exec (Outside.still provider)) instant (serve sampleSettings) insertsBeforeSweep
        (contest sampleSettings ⟨mappedStore, ()⟩
          (.completeGrant sampleUser "mail" "code" sampleState none) sampleDisable)
        sweptEvents = true := by
    unfold inTurnPool contest
    rw [serve_complete]
    unfold completeGrant authorize
    rw [sample_offered, decode_state_offered]
    decide +kernel
  apply nobody_connected_after_withdrawal sampleSettings (Outside.still provider)
    ⟨mappedStore, ()⟩ sampleUser "mail" "code" sampleState none sampleDisable
    (.update "mail" (some false)) sweptEvents mapped_consistent rfl .disable
  · exact disciplined_of_along _ _ run.2 inserts_before_sweep
  · obtain ⟨task, found, ended⟩ := (Option.any_eq_true _ _).mp run.1
    refine ⟨task, found, ?_⟩
    unfold returned at ended
    split at ended
    · assumption
    · cases ended

end Lehen.Withdrawal
