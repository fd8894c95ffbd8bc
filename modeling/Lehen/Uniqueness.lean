import Lehen.Granting

/-!
At most one active row for each (user, instance, external_subject), the rule of
the docstring of `user/connections_service.py`, over interleaved requests.
-/

namespace Lehen.Uniqueness

open Storage OAuth AuditService ConnectionsService Footprint Granting Schedule

variable {N : Type}

def activeRows (store : Store) (box : Mailbox) : List ConnectionRow :=
  store.connections.filter fun row => row.isActive && decide (mailbox row = box)

def AtMostOne (store : Store) : Prop := ∀ box, (activeRows store box).length ≤ 1

/-- The query of the uniqueness check. -/
def checkOf (box : Mailbox) : Op :=
  .store (.selectConnections (.ofMailbox box.userSub box.instanceId box.externalSubject))

/-- A grant in flight that passed its check for the mailbox and is still to insert. -/
def Armed (task : HubTask) (box : Mailbox) : Prop :=
  task.running ∧ (task.seen grantProtocol).checked = some box

/-- No grant makes its uniqueness check while another one is between its own
check for the same mailbox and its insert. -/
def ChecksAlone (pool : HubPool N) : Event Request → Prop
  | .start _ => True
  | .resume i => ∀ (task : HubTask) (box : Mailbox), pool.tasks[i]? = some task →
      task.request.grants → task.awaits (checkOf box) →
      ∀ (j : Nat) (other : HubTask), j ≠ i → pool.tasks[j]? = some other → ¬ Armed other box

/-! The effect of an operation on the active rows and on what a request knows. -/

theorem apply_mailbox (set : ConnectionSet) (row : ConnectionRow) :
    mailbox (set.apply row) = mailbox row := by cases set <;> rfl

theorem apply_active (set : ConnectionSet) (row : ConnectionRow)
    (active : (set.apply row).isActive = true) : row.isActive = true := by
  cases set with
  | disconnect ts => cases active
  | withdraw ts reason => cases active
  | credentials envelope => exact active
  | stale => exact active

theorem active_rows_update (store : Store) (id : String) (set : ConnectionSet) (box : Mailbox) :
    (activeRows { store with connections := setWhereId id set store.connections } box).length ≤
      (activeRows store box).length := by
  simp only [activeRows, setWhereId, ← List.countP_eq_length_filter, List.countP_map]
  apply List.countP_mono_left
  intro row _ counted
  simp only [Function.comp, Bool.and_eq_true, decide_eq_true_eq] at counted ⊢
  split at counted
  · exact ⟨apply_active set row counted.1, (apply_mailbox set row).symm.trans counted.2⟩
  · exact counted

theorem active_rows_insert (store : Store) (row : ConnectionRow) (box : Mailbox)
    (active : row.isActive = true) :
    activeRows { store with connections := store.connections ++ [row] } box =
      if mailbox row = box then activeRows store box ++ [row] else activeRows store box := by
  simp only [activeRows, List.filter_append, List.filter_singleton, active, Bool.true_and]
  split <;> simp_all

theorem check_truthful (store : Store) (box : Mailbox)
    (passed : store.connections.filter
      (ConnectionWhere.ofMailbox box.userSub box.instanceId box.externalSubject).holds = []) :
    activeRows store box = [] := by
  rw [activeRows, ← passed]
  apply List.filter_congr
  intro row _
  obtain ⟨userSub, instanceId, externalSubject⟩ := box
  simp only [ConnectionWhere.holds, mailbox, Mailbox.mk.injEq]
  grind

/-- Whatever a request does, it inserts an active row of the mailbox it checked,
or passes the check of a mailbox without active rows, or neither. -/
inductive Effect (request : Request) (view after : GrantView) (op : Op) (store stored : Store) :
    Prop
  | inserted (row : ConnectionRow) (checked : view.checked = some (mailbox row))
      (active : row.isActive = true) (cleared : after.checked = none)
      (added : stored.connections = store.connections ++ [row])
  | passed (box : Mailbox) (check : op = checkOf box) (grants : request.grants = true)
      (checked : after.checked = some box) (none : activeRows store box = [])
      (same : stored.connections = store.connections)
  | other (checked : after.checked = view.checked ∨ after.checked = Option.none)
      (fewer : ∀ box, (activeRows stored box).length ≤ (activeRows store box).length)

theorem fewer_rows (outside : Outside N) (op : Op) (world : World N) (unlicensed : Unlicensed op)
    (box : Mailbox) :
    (activeRows (exec outside op world).2.store box).length ≤
      (activeRows world.store box).length := by
  rcases unlicensed_rows outside op world unlicensed with same | ⟨id, set, updated⟩
  · rw [activeRows, same]
    exact le_refl _
  · rw [activeRows, updated]
    exact active_rows_update world.store id set box

theorem effect (outside : Outside N) (request : Request) (view : GrantView) (op : Op)
    (world : World N) (allowed : (requestMonitor request).allowed view op) :
    Effect request view ((requestMonitor request).next view op (exec outside op world).1) op
      world.store (exec outside op world).2.store := by
  rcases request_monitor_cases request with ⟨grants, userSub, instanceId, monitor⟩ | monitor
  · rw [monitor] at allowed ⊢
    have unchanged (unlicensed : Unlicensed op) (box : Mailbox) :=
      fewer_rows outside op world unlicensed box
    cases op with
    | store statement =>
        cases statement with
        | insertConnection row =>
            rcases exec_moves outside (.insertConnection row) world with same | same
            · apply Effect.other
              · exact .inr rfl
              · intro box
                rw [same]
            · exact .inserted row allowed.checked allowed.active rfl (by rw [same]; rfl)
        | selectConnections rows =>
            cases rows with
            | ofMailbox userSub instanceId externalSubject =>
                rcases exec_read outside (.selectConnections _) world rfl with
                  ⟨error, answer, same⟩ | ⟨answer, same⟩
                · apply Effect.other
                  · left
                    rw [answer]
                    rfl
                  · exact unchanged trivial
                · rw [answer]
                  -- The check has passed if it found no row.
                  cases passed : world.store.connections.filter
                      (ConnectionWhere.ofMailbox userSub instanceId externalSubject).holds with
                  | nil =>
                      apply Effect.passed ⟨userSub, instanceId, externalSubject⟩ rfl grants
                      · simp only [StoreOp.apply, passed]
                        rfl
                      · exact check_truthful world.store ⟨userSub, instanceId, externalSubject⟩ passed
                      · rw [same]
                  | cons row rest =>
                      apply Effect.other
                      · left
                        simp only [StoreOp.apply, passed]
                        rfl
                      · exact unchanged trivial
            | _ => exact .other (.inl (by cases (exec outside _ world).1 <;> rfl)) (unchanged trivial)
        | _ =>
            exact .other (.inl (by cases (exec outside _ world).1 <;> rfl)) (unchanged trivial)
    | _ => exact .other (.inl (by cases (exec outside _ world).1 <;> rfl)) (unchanged trivial)
  · rw [monitor] at allowed ⊢
    exact .other (.inl rfl) (fewer_rows outside op world allowed)

/-! The invariant: a mailbox a grant is armed for has no active row, and no other
grant is armed for it. -/

structure Guarded (pool : HubPool N) : Prop where
  one : AtMostOne pool.state.store
  free : ∀ (i : Nat) (task : HubTask) (box : Mailbox), pool.tasks[i]? = some task →
    Armed task box → activeRows pool.state.store box = []
  alone : ∀ box, pool.Exclusive fun task => Armed task box

theorem not_armed_at_start (settings : Settings) (request : Request) (box : Mailbox) :
    ¬ Armed ⟨request, [], serve settings request⟩ box := by
  rintro ⟨_, checked⟩
  cases checked

theorem guarded_start {outside : Outside N} {settings : Settings} (pool : HubPool N)
    (request : Request) (guarded : Guarded pool) :
    Guarded (pool.step (exec outside) instant (serve settings) (.start request)) := by
  constructor
  · exact guarded.one
  · intro i task box found armed
    rcases get_start found with before | rfl
    · exact guarded.free i task box before armed
    · exact absurd armed (not_armed_at_start settings request box)
  · intro box
    exact exclusive_start (guarded.alone box) (not_armed_at_start settings request box)

section Step

variable {outside : Outside N} {pool : HubPool N} {i : Nat} {task : HubTask} {op : Op}
  {resume : Except PyError op.Res → Hub Unit}

/-- What the task is armed for afterwards, in terms of its new view. -/
theorem armed_after {box : Mailbox} (armed : Armed (pool.stepped (exec outside) task op resume) box) :
    ((requestMonitor task.request).next (task.seen grantProtocol) op
      (exec outside op pool.state).1).checked = some box := by
  have checked := armed.2
  rwa [seen_stepped] at checked

theorem guarded_insert {row : ConnectionRow} (guarded : Guarded pool)
    (found : pool.tasks[i]? = some task) (mine : Armed task (mailbox row))
    (active : row.isActive = true)
    (disarmed : ∀ box, ¬ Armed (pool.stepped (exec outside) task op resume) box)
    (added : (exec outside op pool.state).2.store.connections =
      pool.state.store.connections ++ [row]) :
    Guarded (pool.perform (exec outside) i task op resume) := by
  have rows (box : Mailbox) :
      activeRows (exec outside op pool.state).2.store box =
        if mailbox row = box then activeRows pool.state.store box ++ [row]
        else activeRows pool.state.store box := by
    rw [← active_rows_insert pool.state.store row box active]
    simp only [activeRows, added]
  constructor
  · intro box
    rw [Pool.perform, rows box]
    by_cases same : mailbox row = box
    · subst same
      rw [if_pos rfl, guarded.free i task _ found mine]
      exact le_refl _
    · rw [if_neg same]
      exact guarded.one box
  · intro j other box after armed
    rcases get_perform found after with ⟨_, rfl⟩ | ⟨different, before⟩
    · exact absurd armed (disarmed box)
    · rw [Pool.perform, rows box]
      by_cases same : mailbox row = box
      · subst same
        exact absurd (guarded.alone _ j i other task before found armed mine) different
      · rw [if_neg same]
        exact guarded.free j other box before armed
  · intro box
    exact exclusive_perform (guarded.alone box) found fun armed => absurd armed (disarmed box)

theorem guarded_pass {box : Mailbox} (guarded : Guarded pool) (found : pool.tasks[i]? = some task)
    (nobody : ∀ (j : Nat) (other : HubTask), j ≠ i → pool.tasks[j]? = some other →
      ¬ Armed other box)
    (only : ∀ armedFor, Armed (pool.stepped (exec outside) task op resume) armedFor → armedFor = box)
    (none : activeRows pool.state.store box = [])
    (same : (exec outside op pool.state).2.store.connections = pool.state.store.connections) :
    Guarded (pool.perform (exec outside) i task op resume) := by
  have rows (box : Mailbox) : activeRows (exec outside op pool.state).2.store box =
      activeRows pool.state.store box := by simp only [activeRows, same]
  constructor
  · intro box
    rw [Pool.perform, rows box]
    exact guarded.one box
  · intro j other armedFor after armed
    rw [Pool.perform, rows armedFor]
    rcases get_perform found after with ⟨_, rfl⟩ | ⟨_, before⟩
    · rw [only armedFor armed]
      exact none
    · exact guarded.free j other armedFor before armed
  · intro armedFor
    apply exclusive_perform (guarded.alone armedFor) found
    intro armed
    rw [only armedFor armed]
    exact .inr nobody

theorem guarded_other (guarded : Guarded pool) (found : pool.tasks[i]? = some task)
    (earlier : ∀ box, Armed (pool.stepped (exec outside) task op resume) box → Armed task box)
    (fewer : ∀ box, (activeRows (exec outside op pool.state).2.store box).length ≤
      (activeRows pool.state.store box).length) :
    Guarded (pool.perform (exec outside) i task op resume) := by
  constructor
  · intro box
    exact le_trans (fewer box) (guarded.one box)
  · intro j other box after armed
    have none : activeRows pool.state.store box = [] := by
      rcases get_perform found after with ⟨_, rfl⟩ | ⟨_, before⟩
      · exact guarded.free i task box found (earlier box armed)
      · exact guarded.free j other box before armed
    have bound := fewer box
    rw [none] at bound
    exact List.eq_nil_of_length_eq_zero (Nat.le_zero.mp bound)
  · intro box
    exact exclusive_perform (guarded.alone box) found fun armed => .inl (earlier box armed)

theorem guarded_perform (guarded : Guarded pool) (found : pool.tasks[i]? = some task)
    (left : task.prog = .await op resume)
    (allowed : (requestMonitor task.request).allowed (task.seen grantProtocol) op)
    (permitted : ∀ box, task.request.grants → op = checkOf box →
      ∀ (j : Nat) (other : HubTask), j ≠ i → pool.tasks[j]? = some other → ¬ Armed other box) :
    Guarded (pool.perform (exec outside) i task op resume) := by
  have running : task.running := ⟨op, resume, left⟩
  cases effect outside task.request _ op pool.state allowed with
  | inserted row checked active cleared added =>
      apply guarded_insert guarded found ⟨running, checked⟩ active _ added
      intro box armed
      rw [armed_after armed] at cleared
      cases cleared
  | passed box check grants checked none same =>
      apply guarded_pass guarded found (permitted box grants check) _ none same
      intro armedFor armed
      rw [armed_after armed] at checked
      exact Option.some.inj checked
  | other checked fewer =>
      apply guarded_other guarded found _ fewer
      intro box armed
      have now := armed_after armed
      rcases checked with kept | cleared
      · exact ⟨running, kept ▸ now⟩
      · rw [now] at cleared
        cases cleared

end Step

theorem guarded_step {outside : Outside N} {settings : Settings} (pool : HubPool N)
    (event : Event Request)
    (inside : pool.Watched grantProtocol ∧ Guarded pool) (permitted : ChecksAlone pool event) :
    (pool.step (exec outside) instant (serve settings) event).Watched grantProtocol ∧
      Guarded (pool.step (exec outside) instant (serve settings) event) := by
  apply watched_step_kept Guarded
    (fun pool i task op => ∀ box, task.request.grants → op = checkOf box →
      ∀ (j : Nat) (other : HubTask), j ≠ i → pool.tasks[j]? = some other → ¬ Armed other box)
  · intro pool i task op quick box _ check
    rw [check] at quick
    cases quick
  · intro pool i task op resume guarded found left follows alone
    exact guarded_perform guarded found left follows.1 alone
  · exact inside.1
  · exact inside.2
  · intro request _
    exact grant_served settings request
  · intro request _
    exact guarded_start pool request inside.2
  · intro i task op same found awaits box grants check
    subst same
    subst check
    exact permitted task box found grants awaits

/-- Over any interleaving in which no two grants are between check and insert
for one mailbox, each mailbox keeps at most one active row. -/
theorem at_most_one_active (settings : Settings) (outside : Outside N) (world : World N)
    (events : List (Event Request)) (start : AtMostOne world.store)
    (disciplined : Disciplined (exec outside) instant (serve settings) ChecksAlone ⟨world, []⟩
      events) :
    AtMostOne ((⟨world, []⟩ : HubPool N).play (exec outside) instant (serve settings)
      events).state.store := by
  have initial : (⟨world, []⟩ : HubPool N).Watched grantProtocol ∧
      Guarded (⟨world, []⟩ : HubPool N) := by
    refine ⟨?_, start, ?_, fun box => exclusive_empty world _⟩
    · intro i task found
      cases found
    · intro i task box found
      cases found
  exact (play_kept _ _ events disciplined initial guarded_step).2.one

/-! Two grants that both check before either inserts. -/

def sampleGrant : Request := .grant sampleUser "mail" defaultPrivacyClass "" "" none

def overlappingGrants : List (Event Request) :=
  [.start sampleGrant, .start sampleGrant,
    .resume 0, .resume 0, .resume 0, .resume 1, .resume 1, .resume 1,
    .resume 0, .resume 0, .resume 1, .resume 1]

/-- Both requests pass the check on an empty table, so both rows are inserted. -/
theorem overlapping_grants_duplicate :
    AtMostOne mappedStore ∧
    ¬ AtMostOne ((⟨⟨mappedStore, ()⟩, []⟩ : HubPool Unit).play (exec (Outside.still unreachable))
      instant (serve sampleSettings) overlappingGrants).state.store := by
  constructor
  · intro box
    exact Nat.zero_le 1
  · intro unique
    have two := unique ⟨"u1", "mail", ""⟩
    revert two
    decide

def awaitsCheck (task : HubTask) : Bool :=
  match task.prog with
  | .await (.store (.selectConnections (.ofMailbox _ _ _))) _ => true
  | _ => false

/-- A request is resumed that does not wait for its check, or no grant is between
its check and its insert. -/
def checksAlone (pool : HubPool N) : Event Request → Bool
  | .start _ => true
  | .resume i => (pool.tasks[i]?.all fun task => !awaitsCheck task) ||
      pool.tasks.all fun task => !decide task.running || (task.seen grantProtocol).checked.isNone

theorem checks_alone (pool : HubPool N) (event : Event Request) (held : checksAlone pool event = true) :
    ChecksAlone pool event := by
  cases event with
  | start request => trivial
  | resume i =>
      rintro task box found _ ⟨resume, left⟩ j other _ present ⟨running, checked⟩
      rw [checksAlone, found, Bool.or_eq_true] at held
      rcases held with elsewhere | nobody
      · rw [Option.all_some, awaitsCheck, left] at elsewhere
        cases elsewhere
      · have idle := List.all_eq_true.mp nobody other (List.mem_of_getElem? present)
        rw [checked, decide_eq_true running] at idle
        cases idle

def secondMailbox : Request := .grant sampleUser "mail" defaultPrivacyClass "b@example.org" "" none

/-- All three requests are in flight when the first one goes on. -/
def grantsInTurn : List (Event Request) :=
  [.start sampleGrant, .start sampleGrant, .start secondMailbox] ++
    List.replicate 5 (.resume 0) ++ List.replicate 5 (.resume 1) ++ List.replicate 5 (.resume 2)

def grantedPool : HubPool Unit :=
  (⟨⟨mappedStore, ()⟩, []⟩ : HubPool Unit).play (exec (Outside.still unreachable)) instant
    (serve sampleSettings) grantsInTurn

theorem grants_in_turn_at_most_one :
    AtMostOne grantedPool.state.store ∧
      grantedPool.state.store.connections.map ConnectionRow.externalSubject = ["", "b@example.org"] := by
  have checked : along (exec (Outside.still unreachable)) instant (serve sampleSettings) checksAlone
      ⟨⟨mappedStore, ()⟩, []⟩ grantsInTurn = true := by
    decide +kernel
  constructor
  · apply at_most_one_active sampleSettings (Outside.still unreachable) ⟨mappedStore, ()⟩ grantsInTurn
    · intro box
      exact Nat.zero_le 1
    · exact disciplined_of_along _ _ checked checks_alone
  · decide +kernel

end Lehen.Uniqueness
