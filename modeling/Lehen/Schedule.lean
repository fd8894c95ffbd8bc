import Lehen.Program
import Mathlib.Data.List.Basic

/-!
Requests interleaved at their awaits. A task is a request with the program
that is left of it and the log of what it awaited so far. An `instant`
operation (a clock, random bytes) is answered without giving up the turn: a
turn performs the operation the task waits for and runs on to its next await.
-/

namespace Lehen.Schedule

open Prog (Monitor)

structure Task (Req Op : Type) (Res : Op → Type) (Err α : Type) where
  request : Req
  log : List ((op : Op) × Except Err (Res op))
  prog : Prog Op Res Err α

structure Pool (σ Req Op : Type) (Res : Op → Type) (Err α : Type) where
  state : σ
  tasks : List (Task Req Op Res Err α)

inductive Event (Req : Type) where
  | start (request : Req)
  | resume (i : Nat)

variable {Op : Type} {Res : Op → Type} {Err α σ Req ghost : Type}

def Task.running (task : Task Req Op Res Err α) : Prop :=
  ∃ op resume, task.prog = .await op resume

def Task.awaits (task : Task Req Op Res Err α) (op : Op) : Prop :=
  ∃ resume, task.prog = .await op resume

instance (task : Task Req Op Res Err α) : Decidable task.running :=
  match left : task.prog with
  | .await op resume => .isTrue ⟨op, resume, left⟩
  | .ret _ => .isFalse fun ⟨op, resume, awaits⟩ => by rw [left] at awaits; cases awaits
  | .raise _ => .isFalse fun ⟨op, resume, awaits⟩ => by rw [left] at awaits; cases awaits

/-- What is at a place of a list after one place was set. -/
theorem get_set {γ : Type} {items : List γ} {i j : Nat} {next other : γ}
    (after : (items.set i next)[j]? = some other) :
    (j = i ∧ other = next) ∨ (j ≠ i ∧ items[j]? = some other) := by
  by_cases same : j = i
  · subst same
    rw [List.getElem?_set] at after
    simp only [if_true] at after
    split at after
    · exact .inl ⟨rfl, (Option.some.inj after).symm⟩
    · cases after
  · rw [List.getElem?_set_ne fun flipped => same flipped.symm] at after
    exact .inr ⟨same, after⟩

section Playing

variable (exec : (op : Op) → σ → Except Err (Res op) × σ) (instant : Op → Bool)
  (serve : Req → Prog Op Res Err α)

/-- Runs on through instant operations. -/
def settle (request : Req) (log : List ((op : Op) × Except Err (Res op))) :
    Prog Op Res Err α → σ → Task Req Op Res Err α × σ
  | .ret value, state => (⟨request, log, .ret value⟩, state)
  | .raise error, state => (⟨request, log, .raise error⟩, state)
  | .await op resume, state =>
      if instant op then
        settle request (log ++ [⟨op, (exec op state).1⟩]) (resume (exec op state).1) (exec op state).2
      else (⟨request, log, .await op resume⟩, state)

def Task.turn (task : Task Req Op Res Err α) (state : σ) : Task Req Op Res Err α × σ :=
  match task.prog with
  | .await op resume =>
      settle exec instant task.request (task.log ++ [⟨op, (exec op state).1⟩])
        (resume (exec op state).1) (exec op state).2
  | _ => (task, state)

def Pool.turn (pool : Pool σ Req Op Res Err α) (i : Nat) : Pool σ Req Op Res Err α :=
  match pool.tasks[i]? with
  | some task =>
      ⟨(task.turn exec instant pool.state).2,
        pool.tasks.set i (task.turn exec instant pool.state).1⟩
  | none => pool

def Pool.step (pool : Pool σ Req Op Res Err α) : Event Req → Pool σ Req Op Res Err α
  | .start request => { pool with tasks := pool.tasks ++ [⟨request, [], serve request⟩] }
  | .resume i => pool.turn exec instant i

def Pool.play (pool : Pool σ Req Op Res Err α) (events : List (Event Req)) :
    Pool σ Req Op Res Err α :=
  events.foldl (fun pool event => pool.step exec instant serve event) pool

/-- Every event of a run meets the condition in the pool it finds. -/
def Disciplined (permits : Pool σ Req Op Res Err α → Event Req → Prop) :
    Pool σ Req Op Res Err α → List (Event Req) → Prop
  | _, [] => True
  | pool, event :: rest =>
      permits pool event ∧ Disciplined permits (pool.step exec instant serve event) rest

/-- One operation of one task, for proofs: a turn is a sequence of these. -/
def Pool.perform (pool : Pool σ Req Op Res Err α) (i : Nat) (task : Task Req Op Res Err α) (op : Op)
    (resume : Except Err (Res op) → Prog Op Res Err α) : Pool σ Req Op Res Err α :=
  ⟨(exec op pool.state).2, pool.tasks.set i
    ⟨task.request, task.log ++ [⟨op, (exec op pool.state).1⟩], resume (exec op pool.state).1⟩⟩

/-- A task of the pool after that operation. -/
def Pool.stepped (pool : Pool σ Req Op Res Err α) (task : Task Req Op Res Err α) (op : Op)
    (resume : Except Err (Res op) → Prog Op Res Err α) : Task Req Op Res Err α :=
  ⟨task.request, task.log ++ [⟨op, (exec op pool.state).1⟩], resume (exec op pool.state).1⟩

variable {exec instant serve}

theorem set_found {entries : List α} {i : Nat} {entry : α} (found : entries[i]? = some entry) :
    entries.set i entry = entries := by
  obtain ⟨bound, rfl⟩ := List.getElem?_eq_some_iff.mp found
  exact List.set_getElem_self bound

theorem settle_kept (inside : Pool σ Req Op Res Err α → Prop) (i : Nat)
    (onward : ∀ pool task op resume, pool.tasks[i]? = some task → task.prog = .await op resume →
      instant op → inside pool → inside (pool.perform exec i task op resume))
    (request : Req) (log : List ((op : Op) × Except Err (Res op))) (prog : Prog Op Res Err α)
    (pool : Pool σ Req Op Res Err α) (found : pool.tasks[i]? = some ⟨request, log, prog⟩)
    (start : inside pool) :
    inside ⟨(settle exec instant request log prog pool.state).2,
      pool.tasks.set i (settle exec instant request log prog pool.state).1⟩ := by
  induction prog generalizing log pool with
  | ret value =>
      rw [settle, set_found found]
      exact start
  | raise error =>
      rw [settle, set_found found]
      exact start
  | await op resume ih =>
      by_cases quick : instant op
      · have moved := onward pool _ op resume found rfl quick start
        have bound : i < pool.tasks.length := (List.getElem?_eq_some_iff.mp found).1
        have again := ih _ _ (pool.perform exec i ⟨request, log, .await op resume⟩ op resume)
          (List.getElem?_set_self bound) moved
        rw [settle, if_pos quick]
        rw [Pool.perform, List.set_set] at again
        exact again
      · rw [settle, if_neg quick, set_found found]
        exact start

/-- A turn of a task that awaits is its first operation and instant operations. -/
theorem turn_performed (inside : Pool σ Req Op Res Err α → Prop) (pool : Pool σ Req Op Res Err α)
    (i : Nat) {task : Task Req Op Res Err α} {op : Op} {resume : Except Err (Res op) → Prog Op Res Err α}
    (found : pool.tasks[i]? = some task) (left : task.prog = .await op resume)
    (moved : inside (pool.perform exec i task op resume))
    (onward : ∀ pool task op resume, pool.tasks[i]? = some task → task.prog = .await op resume →
      instant op → inside pool → inside (pool.perform exec i task op resume)) :
    inside (pool.turn exec instant i) := by
  have bound : i < pool.tasks.length := (List.getElem?_eq_some_iff.mp found).1
  have again := settle_kept inside i onward task.request
    (task.log ++ [⟨op, (exec op pool.state).1⟩]) (resume (exec op pool.state).1)
    (pool.perform exec i task op resume)
    (by rw [Pool.perform]; exact List.getElem?_set_self bound) moved
  simp only [Pool.turn, found, Task.turn, left]
  simp only [Pool.perform, List.set_set] at again
  exact again

/-- A task that has ended takes no turn. -/
theorem turn_ended (pool : Pool σ Req Op Res Err α) (i : Nat)
    (ended : ∀ task op resume, pool.tasks[i]? = some task → task.prog ≠ .await op resume) :
    pool.turn exec instant i = pool := by
  unfold Pool.turn
  cases found : pool.tasks[i]? with
  | none => rfl
  | some task =>
      cases left : task.prog with
      | ret value => simp only [Task.turn, left, set_found found]
      | raise error => simp only [Task.turn, left, set_found found]
      | await op resume => exact absurd left (ended task op resume found)

/-- A turn keeps what its first operation and every instant operation keep. -/
theorem turn_kept (inside : Pool σ Req Op Res Err α → Prop) (pool : Pool σ Req Op Res Err α) (i : Nat)
    (start : inside pool)
    (first : ∀ task op resume, pool.tasks[i]? = some task → task.prog = .await op resume →
      inside (pool.perform exec i task op resume))
    (onward : ∀ pool task op resume, pool.tasks[i]? = some task → task.prog = .await op resume →
      instant op → inside pool → inside (pool.perform exec i task op resume)) :
    inside (pool.turn exec instant i) := by
  by_cases running : ∃ task op resume, pool.tasks[i]? = some task ∧ task.prog = .await op resume
  · obtain ⟨task, op, resume, found, left⟩ := running
    exact turn_performed inside pool i found left (first task op resume found left) onward
  · rw [turn_ended pool i fun task op resume found left => running ⟨task, op, resume, found, left⟩]
    exact start

theorem settle_settled (request : Req) (log : List ((op : Op) × Except Err (Res op)))
    (prog : Prog Op Res Err α) (state : σ) {op : Op}
    (awaits : (settle exec instant request log prog state).1.awaits op) : instant op = false := by
  induction prog generalizing log state with
  | ret value =>
      obtain ⟨resume, left⟩ := awaits
      cases left
  | raise error =>
      obtain ⟨resume, left⟩ := awaits
      cases left
  | await next resume ih =>
      by_cases quick : instant next
      · rw [settle, if_pos quick] at awaits
        exact ih _ _ _ awaits
      · rw [settle, if_neg quick] at awaits
        obtain ⟨_, left⟩ := awaits
        injection left with same
        rw [← same]
        simpa using quick

/-- After its turn a task is not about to perform an instant operation. -/
theorem turn_settled {pool : Pool σ Req Op Res Err α} {i : Nat} {task : Task Req Op Res Err α} {op : Op}
    (after : (pool.turn exec instant i).tasks[i]? = some task) (awaits : task.awaits op) :
    instant op = false := by
  unfold Pool.turn at after
  cases found : pool.tasks[i]? with
  | none =>
      rw [found] at after
      dsimp only at after
      rw [found] at after
      cases after
  | some before =>
      have bound : i < pool.tasks.length := (List.getElem?_eq_some_iff.mp found).1
      rw [found] at after
      dsimp only at after
      rw [List.getElem?_set_self bound] at after
      obtain rfl := Option.some.inj after
      unfold Task.turn at awaits
      split at awaits
      · exact settle_settled _ _ _ _ awaits
      · next idle =>
          obtain ⟨resume, left⟩ := awaits
          exact absurd left (idle op resume)

/-- The other tasks of a pool take no part in a turn. -/
theorem turn_others {pool : Pool σ Req Op Res Err α} {i j : Nat} (different : j ≠ i) :
    (pool.turn exec instant i).tasks[j]? = pool.tasks[j]? := by
  unfold Pool.turn
  cases pool.tasks[i]? with
  | none => rfl
  | some task => exact List.getElem?_set_ne fun same => different same.symm

theorem settle_request (request : Req) (log : List ((op : Op) × Except Err (Res op)))
    (prog : Prog Op Res Err α) (state : σ) :
    (settle exec instant request log prog state).1.request = request := by
  induction prog generalizing log state with
  | ret value => rfl
  | raise error => rfl
  | await next resume ih =>
      rw [settle]
      split
      · exact ih _ _ _
      · rfl

/-- A task stays in its place, and one that has ended stays as it is. -/
theorem step_place {pool : Pool σ Req Op Res Err α} {k : Nat} {task : Task Req Op Res Err α}
    (found : pool.tasks[k]? = some task) (event : Event Req) :
    ∃ later, (pool.step exec instant serve event).tasks[k]? = some later ∧
      later.request = task.request ∧ (¬ task.running → later = task) := by
  cases event with
  | start request =>
      refine ⟨task, ?_, rfl, fun _ => rfl⟩
      rw [Pool.step, List.getElem?_append_left (List.getElem?_eq_some_iff.mp found).1]
      exact found
  | resume i =>
      by_cases own : k = i
      · subst own
        have bound : k < pool.tasks.length := (List.getElem?_eq_some_iff.mp found).1
        refine ⟨(task.turn exec instant pool.state).1, ?_, ?_, ?_⟩
        · simp only [Pool.step, Pool.turn, found]
          exact List.getElem?_set_self bound
        · unfold Task.turn
          split
          · exact settle_request _ _ _ _
          · rfl
        · intro ended
          unfold Task.turn
          split
          · next op resume left => exact absurd ⟨op, resume, left⟩ ended
          · rfl
      · exact ⟨task, (turn_others own).trans found, rfl, fun _ => rfl⟩

theorem play_place {pool : Pool σ Req Op Res Err α} {k : Nat} {task : Task Req Op Res Err α}
    (found : pool.tasks[k]? = some task) (events : List (Event Req)) :
    ∃ later, (pool.play exec instant serve events).tasks[k]? = some later ∧
      later.request = task.request ∧ (¬ task.running → later = task) := by
  induction events generalizing pool task with
  | nil => exact ⟨task, found, rfl, fun _ => rfl⟩
  | cons event rest ih =>
      obtain ⟨next, place, same, ended⟩ := @step_place _ _ _ _ _ _ exec instant serve _ _ _ found event
      obtain ⟨last, place', same', ended'⟩ := ih place
      refine ⟨last, place', same'.trans same, fun finished => ?_⟩
      have unmoved := ended finished
      subst unmoved
      exact ended' finished

/-- What holds at first and is kept by every permitted event holds after a
disciplined run. -/
theorem play_kept {permits : Pool σ Req Op Res Err α → Event Req → Prop}
    (inside : Pool σ Req Op Res Err α → Prop) (pool : Pool σ Req Op Res Err α)
    (events : List (Event Req)) (disciplined : Disciplined exec instant serve permits pool events)
    (start : inside pool)
    (kept : ∀ pool event, inside pool → permits pool event →
      inside (pool.step exec instant serve event)) :
    inside (pool.play exec instant serve events) := by
  induction events generalizing pool with
  | nil => exact start
  | cons event rest ih =>
      exact ih _ disciplined.2 (kept pool event start disciplined.1)

/-- What every operation keeps of the state. -/
theorem play_state (inside : σ → Prop) (kept : ∀ op state, inside state → inside (exec op state).2)
    (pool : Pool σ Req Op Res Err α) (events : List (Event Req)) (start : inside pool.state) :
    inside (pool.play exec instant serve events).state := by
  induction events generalizing pool with
  | nil => exact start
  | cons event rest ih =>
      apply ih
      cases event with
      | start request => exact start
      | resume i =>
          apply turn_kept (fun pool => inside pool.state) pool i start
          · exact fun task op resume _ _ => kept op pool.state start
          · exact fun pool task op resume _ _ _ held => kept op pool.state held

variable (exec) in
/-- The logs hold what the environment answered. -/
def Pool.Answered (pool : Pool σ Req Op Res Err α) : Prop :=
  ∀ task ∈ pool.tasks, ∀ entry ∈ task.log, ∃ during, entry.2 = (exec entry.1 during).1

theorem answered_perform (pool : Pool σ Req Op Res Err α) (i : Nat) (task : Task Req Op Res Err α)
    (op : Op) (resume : Except Err (Res op) → Prog Op Res Err α) (found : pool.tasks[i]? = some task)
    (answered : pool.Answered exec) : (pool.perform exec i task op resume).Answered exec := by
  intro other member entry logged
  rcases List.mem_or_eq_of_mem_set member with before | same
  · exact answered other before entry logged
  · rw [same] at logged
    rcases List.mem_append.mp logged with earlier | last
    · exact answered task (List.mem_of_getElem? found) entry earlier
    · rw [List.mem_singleton.mp last]
      exact ⟨pool.state, rfl⟩

theorem play_answered (pool : Pool σ Req Op Res Err α) (events : List (Event Req))
    (answered : pool.Answered exec) : (pool.play exec instant serve events).Answered exec := by
  induction events generalizing pool with
  | nil => exact answered
  | cons event rest ih =>
      apply ih
      cases event with
      | start request =>
          intro task member
          rcases List.mem_append.mp member with before | last
          · exact answered task before
          · rw [List.mem_singleton.mp last]
            exact fun entry logged => absurd logged List.not_mem_nil
      | resume i =>
          apply turn_kept (fun pool => pool.Answered exec) pool i answered
          · exact fun task op resume found _ => answered_perform pool i task op resume found answered
          · exact fun pool task op resume found _ _ held => answered_perform pool i task op resume found held

theorem play_append (pool : Pool σ Req Op Res Err α) (first second : List (Event Req)) :
    pool.play exec instant serve (first ++ second) =
      (pool.play exec instant serve first).play exec instant serve second :=
  List.foldl_append ..

theorem disciplined_append {permits : Pool σ Req Op Res Err α → Event Req → Prop}
    (pool : Pool σ Req Op Res Err α) (first second : List (Event Req)) :
    Disciplined exec instant serve permits pool (first ++ second) ↔
      Disciplined exec instant serve permits pool first ∧
        Disciplined exec instant serve permits (pool.play exec instant serve first) second := by
  induction first generalizing pool with
  | nil => exact ⟨fun held => ⟨trivial, held⟩, And.right⟩
  | cons event rest ih =>
      simp only [List.cons_append, Disciplined, ih, and_assoc]
      rfl

variable (exec instant serve) in
/-- A condition that is checked before each event of a run. -/
def along (check : Pool σ Req Op Res Err α → Event Req → Bool) :
    Pool σ Req Op Res Err α → List (Event Req) → Bool
  | _, [] => true
  | pool, event :: rest =>
      check pool event && along check (pool.step exec instant serve event) rest

theorem disciplined_of_along {permits : Pool σ Req Op Res Err α → Event Req → Prop}
    {check : Pool σ Req Op Res Err α → Event Req → Bool} (pool : Pool σ Req Op Res Err α)
    (events : List (Event Req)) (checked : along exec instant serve check pool events = true)
    (sound : ∀ pool event, check pool event = true → permits pool event) :
    Disciplined exec instant serve permits pool events := by
  induction events generalizing pool with
  | nil => trivial
  | cons event rest ih =>
      rw [along, Bool.and_eq_true] at checked
      exact ⟨sound pool event checked.1, ih _ checked.2⟩

/-! Tasks under protocols. A protocol gives every request the monitor its
program follows, where the monitor begins, and what it knows at the end. -/

structure Protocol (Req Op : Type) (Res : Op → Type) (Err α ghost : Type) where
  monitor : Req → Monitor Op Res Err ghost
  initial : Req → ghost
  post : Req → Except Err α → ghost → Prop

variable (protocol : Protocol Req Op Res Err α ghost)

/-- What the monitor of a task makes of its log. -/
def Task.seen (task : Task Req Op Res Err α) : ghost :=
  Prog.watch (protocol.monitor task.request) (protocol.initial task.request) task.log

def Task.Watched (task : Task Req Op Res Err α) : Prop :=
  task.prog.Follows (protocol.monitor task.request) (protocol.post task.request)
    (task.seen protocol)

def Pool.WatchedAt (pool : Pool σ Req Op Res Err α) (i : Nat) : Prop :=
  ∀ task : Task Req Op Res Err α, pool.tasks[i]? = some task → task.Watched protocol

def Pool.Watched (pool : Pool σ Req Op Res Err α) : Prop := ∀ i, pool.WatchedAt protocol i

def Protocol.Served (protocol : Protocol Req Op Res Err α ghost) (serve : Req → Prog Op Res Err α)
    (request : Req) : Prop :=
  (serve request).Follows (protocol.monitor request) (protocol.post request)
    (protocol.initial request)

variable {protocol}

theorem seen_perform (task : Task Req Op Res Err α) (op : Op) (prog : Prog Op Res Err α)
    (answer : Except Err (Res op)) :
    (⟨task.request, task.log ++ [⟨op, answer⟩], prog⟩ : Task Req Op Res Err α).seen protocol =
      (protocol.monitor task.request).next (task.seen protocol) op answer := by
  simp only [Task.seen, Prog.watch, List.foldl_append, List.foldl_cons, List.foldl_nil]

theorem seen_stepped (pool : Pool σ Req Op Res Err α) (task : Task Req Op Res Err α) (op : Op)
    (resume : Except Err (Res op) → Prog Op Res Err α) :
    (pool.stepped exec task op resume).seen protocol =
      (protocol.monitor task.request).next (task.seen protocol) op (exec op pool.state).1 :=
  seen_perform task op _ _

/-- A task after an operation, found in the pool after it. -/
theorem get_perform {pool : Pool σ Req Op Res Err α} {i j : Nat} {task other : Task Req Op Res Err α}
    {op : Op} {resume : Except Err (Res op) → Prog Op Res Err α}
    (found : pool.tasks[i]? = some task)
    (after : (pool.perform exec i task op resume).tasks[j]? = some other) :
    (j = i ∧ other =
      ⟨task.request, task.log ++ [⟨op, (exec op pool.state).1⟩], resume (exec op pool.state).1⟩) ∨
      (j ≠ i ∧ pool.tasks[j]? = some other) := by
  have bound : i < pool.tasks.length := (List.getElem?_eq_some_iff.mp found).1
  by_cases same : j = i
  · subst same
    rw [Pool.perform, List.getElem?_set_self bound] at after
    exact .inl ⟨rfl, (Option.some.inj after).symm⟩
  · rw [Pool.perform, List.getElem?_set_ne (fun h => same h.symm)] at after
    exact .inr ⟨same, after⟩

/-- A task of the pool after an event that starts another is an old one or the new one. -/
theorem get_start {pool : Pool σ Req Op Res Err α} {j : Nat} {request : Req}
    {other : Task Req Op Res Err α}
    (after : (pool.step exec instant serve (.start request)).tasks[j]? = some other) :
    pool.tasks[j]? = some other ∨ other = ⟨request, [], serve request⟩ := by
  rw [Pool.step] at after
  rcases Nat.lt_or_ge j pool.tasks.length with earlier | later
  · rw [List.getElem?_append_left earlier] at after
    exact .inl after
  · rw [List.getElem?_append_right later, List.getElem?_singleton] at after
    split at after
    · exact .inr (Option.some.inj after).symm
    · cases after

/-! At most one task is busy: kept when a task becomes busy only while no task is. -/

def Pool.Exclusive (pool : Pool σ Req Op Res Err α) (Busy : Task Req Op Res Err α → Prop) : Prop :=
  ∀ (i j : Nat) (task other : Task Req Op Res Err α), pool.tasks[i]? = some task →
    pool.tasks[j]? = some other → Busy task → Busy other → i = j

theorem exclusive_empty (state : σ) (Busy : Task Req Op Res Err α → Prop) :
    (⟨state, []⟩ : Pool σ Req Op Res Err α).Exclusive Busy := by
  intro i j task other found
  cases found

theorem exclusive_start {pool : Pool σ Req Op Res Err α} {Busy : Task Req Op Res Err α → Prop}
    {request : Req} (exclusive : pool.Exclusive Busy) (idle : ¬ Busy ⟨request, [], serve request⟩) :
    (pool.step exec instant serve (.start request)).Exclusive Busy := by
  intro i j task other found present busy busy'
  rcases get_start found with before | rfl
  · rcases get_start present with before' | rfl
    · exact exclusive i j task other before before' busy busy'
    · exact absurd busy' idle
  · exact absurd busy idle

/-- A task may begin busy while nobody else is. -/
theorem exclusive_start_alone {pool : Pool σ Req Op Res Err α} {Busy : Task Req Op Res Err α → Prop}
    {request : Req} (nobody : ∀ task ∈ pool.tasks, ¬ Busy task) :
    (pool.step exec instant serve (.start request)).Exclusive Busy := by
  intro i j task other found present busy busy'
  have place {k : Nat} {third : Task Req Op Res Err α}
      (entry : (pool.tasks ++ [⟨request, [], serve request⟩])[k]? = some third)
      (busy : Busy third) : k = pool.tasks.length := by
    rcases Nat.lt_or_ge k pool.tasks.length with earlier | later
    · rw [List.getElem?_append_left earlier] at entry
      exact absurd busy (nobody third (List.mem_of_getElem? entry))
    · obtain ⟨bound, _⟩ := List.getElem?_eq_some_iff.mp entry
      rw [List.length_append, List.length_singleton] at bound
      omega
  rw [place found busy, place present busy']

theorem exclusive_perform {pool : Pool σ Req Op Res Err α} {Busy : Task Req Op Res Err α → Prop}
    {i : Nat} {task : Task Req Op Res Err α} {op : Op}
    {resume : Except Err (Res op) → Prog Op Res Err α} (exclusive : pool.Exclusive Busy)
    (found : pool.tasks[i]? = some task)
    (kept : Busy ⟨task.request, task.log ++ [⟨op, (exec op pool.state).1⟩],
        resume (exec op pool.state).1⟩ →
      Busy task ∨ ∀ (j : Nat) (other : Task Req Op Res Err α), j ≠ i →
        pool.tasks[j]? = some other → ¬ Busy other) :
    (pool.perform exec i task op resume).Exclusive Busy := by
  -- Of two busy tasks only one can be the task that took the step.
  have alone (j : Nat) (other : Task Req Op Res Err α) (different : j ≠ i)
      (before : pool.tasks[j]? = some other) (busy : Busy other)
      (stepped : Busy ⟨task.request, task.log ++ [⟨op, (exec op pool.state).1⟩],
        resume (exec op pool.state).1⟩) : False := by
    rcases kept stepped with earlier | nobody
    · exact different (exclusive j i other task before found busy earlier)
    · exact nobody j other different before busy
  intro j k other third present present' busy busy'
  rcases get_perform found present with ⟨rfl, rfl⟩ | ⟨different, before⟩
  · rcases get_perform found present' with ⟨rfl, _⟩ | ⟨different', before'⟩
    · rfl
    · exact (alone k third different' before' busy' busy).elim
  · rcases get_perform found present' with ⟨rfl, rfl⟩ | ⟨_, before'⟩
    · exact (alone j other different before busy busy').elim
    · exact exclusive j k other third before before' busy busy'

theorem watched_at_perform {pool : Pool σ Req Op Res Err α} {i j : Nat}
    {task : Task Req Op Res Err α} {op : Op} {resume : Except Err (Res op) → Prog Op Res Err α}
    (watched : pool.WatchedAt protocol j) (found : pool.tasks[i]? = some task)
    (left : task.prog = .await op resume) :
    (pool.perform exec i task op resume).WatchedAt protocol j := by
  intro other after
  rcases get_perform found after with ⟨rfl, rfl⟩ | ⟨different, before⟩
  · have follows := watched task found
    rw [Task.Watched, left, Prog.follows_await] at follows
    rw [Task.Watched, seen_perform]
    exact follows.2 _
  · exact watched other before

/-- A watched task keeps to its protocol from the operation it waits for. -/
theorem follows_of_watched {pool : Pool σ Req Op Res Err α} {i : Nat} {task : Task Req Op Res Err α}
    {op : Op} {resume : Except Err (Res op) → Prog Op Res Err α}
    (watched : pool.WatchedAt protocol i) (found : pool.tasks[i]? = some task)
    (left : task.prog = .await op resume) :
    (Prog.await op resume).Follows (protocol.monitor task.request) (protocol.post task.request)
      (task.seen protocol) := by
  have follows := watched task found
  rw [Task.Watched, left] at follows
  exact follows

theorem watched_start {pool : Pool σ Req Op Res Err α} {request : Req}
    (watched : pool.Watched protocol) (served : protocol.Served serve request) :
    (pool.step exec instant serve (.start request)).Watched protocol := by
  intro j other after
  rcases get_start after with before | rfl
  · exact watched j other before
  · exact served

/-- An invariant of watched tasks: a permitted event keeps it when starting a
task does and every operation the monitor allows does. The condition of a run
constrains the operation a turn begins with; instant operations need none. -/
theorem watched_step_kept (inside : Pool σ Req Op Res Err α → Prop)
    (permits : Pool σ Req Op Res Err α → Nat → Task Req Op Res Err α → Op → Prop)
    (free : ∀ pool i task op, instant op → permits pool i task op)
    (performed : ∀ pool i task op resume, inside pool →
      pool.tasks[i]? = some task → task.prog = .await op resume →
      (Prog.await op resume).Follows (protocol.monitor task.request) (protocol.post task.request)
        (task.seen protocol) → permits pool i task op → inside (pool.perform exec i task op resume))
    (pool : Pool σ Req Op Res Err α) (event : Event Req)
    (watched : pool.Watched protocol) (holds : inside pool)
    (served : ∀ request, event = .start request → protocol.Served serve request)
    (started : ∀ request, event = .start request →
      inside (pool.step exec instant serve (.start request)))
    (permitted : ∀ i task op, event = .resume i → pool.tasks[i]? = some task → task.awaits op →
      permits pool i task op) :
    (pool.step exec instant serve event).Watched protocol ∧
      inside (pool.step exec instant serve event) := by
  cases event with
  | start request =>
      exact ⟨watched_start watched (served request rfl), started request rfl⟩
  | resume i =>
      apply turn_kept (fun pool => pool.Watched protocol ∧ inside pool)
      · exact ⟨watched, holds⟩
      · intro task op resume found left
        constructor
        · exact fun j => watched_at_perform (watched j) found left
        · exact performed pool i task op resume holds found left
            (follows_of_watched (watched i) found left)
            (permitted i task op rfl found ⟨resume, left⟩)
      · intro pool task op resume found left quick both
        constructor
        · exact fun j => watched_at_perform (both.1 j) found left
        · exact performed pool i task op resume both.2 found left
            (follows_of_watched (both.1 i) found left) (free pool i task op quick)

/-- The same along a run whose turns need no condition. -/
theorem play_watched (inside : Pool σ Req Op Res Err α → Prop)
    (served : ∀ request, protocol.Served serve request)
    (started : ∀ pool request, inside pool →
      inside (pool.step exec instant serve (.start request)))
    (performed : ∀ pool i task op resume, inside pool →
      pool.tasks[i]? = some task → task.prog = .await op resume →
      (Prog.await op resume).Follows (protocol.monitor task.request) (protocol.post task.request)
        (task.seen protocol) → inside (pool.perform exec i task op resume))
    (pool : Pool σ Req Op Res Err α) (events : List (Event Req)) (watched : pool.Watched protocol)
    (holds : inside pool) :
    (pool.play exec instant serve events).Watched protocol ∧
      inside (pool.play exec instant serve events) := by
  induction events generalizing pool with
  | nil => exact ⟨watched, holds⟩
  | cons event rest ih =>
      have both := watched_step_kept inside (fun _ _ _ _ => True) (fun _ _ _ _ _ => trivial)
        (fun pool i task op resume holds found left follows _ =>
          performed pool i task op resume holds found left follows)
        pool event watched holds (fun request _ => served request)
        (fun request _ => started pool request holds) (fun _ _ _ _ _ _ => trivial)
      exact ih _ both.1 both.2

end Playing

end Lehen.Schedule
