import Lehen.Schedule

/-!
Tasks that read a document, change it in memory and write the whole of it back.
Where no task reads while another one is between its read and its write, the
document carries the change of every task that wrote, as long as each change
leaves what the others set.
-/

namespace Lehen.Overwriting

open Prog Schedule

variable {Op : Type} {Res : Op → Type} {Err α σ Req Doc : Type}

/-- How far a task has come. -/
inductive Stage (Doc : Type) where
  | fresh
  | holds (before : Doc)
  | wrote
  | finished

/-- A document in the state, the operations the tasks keep to and those that read
and write it, and what each request makes of it. -/
structure Cell (Req Op : Type) (Res : Op → Type) (Err Doc σ : Type) where
  document : σ → Option Doc
  within : Op → Prop
  reads : (op : Op) → Except Err (Res op) → Option Doc
  writes : Op → Option Doc
  edits : Req → Doc → Doc → Prop
  carries : Req → Doc → Prop

variable (cell : Cell Req Op Res Err Doc σ)

/-- What an operation does to the document, and what its answer says of it. -/
structure Cell.Lawful (exec : (op : Op) → σ → Except Err (Res op) × σ) (instant : Op → Bool) :
    Prop where
  shown : ∀ op state doc, cell.reads op (exec op state).1 = some doc →
    cell.document state = some doc
  quiet : ∀ op state, cell.within op → cell.writes op = none →
    cell.document (exec op state).2 = cell.document state
  stored : ∀ request op state before doc, cell.document state = some before →
    cell.within op → cell.writes op = some doc → cell.edits request before doc →
    cell.document (exec op state).2 = some doc ∨
      cell.document (exec op state).2 = cell.document state ∧ ∃ error, (exec op state).1 = .error error
  unread : ∀ op answer, instant op → cell.reads op answer = none

/-- Two requests whose edits leave what the other one set. -/
def Cell.Apart (first second : Req) : Prop :=
  ∀ before doc, cell.edits first before doc → cell.carries second before → cell.carries second doc

def Stage.next (seen : Stage Doc) (op : Op) (answer : Except Err (Res op)) : Stage Doc :=
  match seen with
  | .fresh =>
      match cell.reads op answer with
      | some doc => .holds doc
      | none => .fresh
  | .holds before =>
      match cell.writes op, answer with
      | none, _ => .holds before
      | some _, .ok _ => .wrote
      | some _, .error _ => .finished
  | .wrote => .wrote
  | .finished => .finished

/-- Only a task that has read writes, and what it writes is its own edit of what
it read. -/
def Stage.Allows (request : Req) (seen : Stage Doc) (op : Op) : Prop :=
  cell.within op ∧ ∀ doc, cell.writes op = some doc →
    ∃ before, seen = .holds before ∧ cell.edits request before doc

/-- A task that returns has written. -/
def Stage.Ends (seen : Stage Doc) (outcome : Except Err α) : Prop :=
  ∀ value, outcome = .ok value → seen = .wrote

def Cell.monitor (request : Req) : Monitor Op Res Err (Stage Doc) :=
  { allowed := fun seen op => seen.Allows cell request op
    next := fun seen op answer => seen.next cell op answer }

def savingProtocol : Protocol Req Op Res Err α (Stage Doc) :=
  { monitor := cell.monitor, initial := fun _ => .fresh, post := fun _ outcome seen => seen.Ends outcome }

/-- What is left of a request at a stage keeps to the protocol. -/
def Saves (request : Req) (seen : Stage Doc) (body : Prog Op Res Err α) : Prop :=
  body.Follows (cell.monitor request) (fun outcome seen => seen.Ends outcome) seen

/-! How a request is shown to keep to the protocol. -/
section Rules

variable {cell} {request : Req} {before doc : Doc} {allowed : Op → Prop} {β : Type}

theorem idle_allowed {seen : Stage Doc} {op : Op} (within : cell.within op)
    (idle : cell.writes op = none) : seen.Allows cell request op := by
  constructor
  · exact within
  · intro doc writes
    rw [idle] at writes
    cases writes

theorem saves_read_then {op : Op} {next : Res op → Prog Op Res Err α} (within : cell.within op)
    (idle : cell.writes op = none)
    (found : ∀ value before, cell.reads op (.ok value) = some before →
      Saves cell request (.holds before) (next value))
    (missing : ∀ value, cell.reads op (.ok value) = none →
      Saves cell request .fresh (next value)) :
    Saves cell request .fresh ((perform op).bind next) := by
  apply follows_perform_then
  · exact idle_allowed within idle
  · intro value
    cases shown : cell.reads op (.ok value) with
    | none =>
        simp only [Cell.monitor, Stage.next, shown]
        exact missing value shown
    | some before =>
        simp only [Cell.monitor, Stage.next, shown]
        exact found value before shown
  · exact fun _ => nofun

theorem saves_held_then {body : Prog Op Res Err β} {next : β → Prog Op Res Err α}
    {middle : β → Prop} (yields : body.Yields allowed middle)
    (idle : ∀ op, allowed op → cell.within op ∧ cell.writes op = none)
    (rest : ∀ value, middle value → Saves cell request (.holds before) (next value)) :
    Saves cell request (.holds before) (body.bind next) := by
  apply follows_yields_then yields
  · intro op fits
    constructor
    · exact idle_allowed (idle op fits).1 (idle op fits).2
    · intro answer
      simp only [Cell.monitor, Stage.next, (idle op fits).2]
  · exact rest
  · exact fun _ => nofun

theorem saves_write_then {op : Op} {next : Res op → Prog Op Res Err α} (within : cell.within op)
    (writes : cell.writes op = some doc) (edits : cell.edits request before doc)
    (rest : ∀ value, Saves cell request .wrote (next value)) :
    Saves cell request (.holds before) ((perform op).bind next) := by
  apply follows_perform_then
  · refine ⟨within, fun other same => ⟨before, rfl, ?_⟩⟩
    rw [writes] at same
    exact Option.some.inj same ▸ edits
  · intro value
    simp only [Cell.monitor, Stage.next, writes]
    exact rest value
  · exact fun _ => nofun

/-- What follows the write does not write again. -/
theorem saves_wrote {body : Prog Op Res Err α} (confined : body.Only allowed)
    (idle : ∀ op, allowed op → cell.within op ∧ cell.writes op = none) :
    Saves cell request .wrote body := by
  apply follows_only confined
  · intro op fits
    constructor
    · exact idle_allowed (idle op fits).1 (idle op fits).2
    · exact fun _ => rfl
  · exact fun _ _ _ => rfl

end Rules

def Mid (task : Task Req Op Res Err α) : Prop :=
  task.running ∧ ∃ before, task.seen (savingProtocol cell) = .holds before

/-- A task that has not read goes on only while no other one is between its read
and its write. -/
def ReadsAlone (pool : Pool σ Req Op Res Err α) : Event Req → Prop
  | .start _ => False
  | .resume i => ∀ task, pool.tasks[i]? = some task → task.seen (savingProtocol cell) = .fresh →
      ∀ (j : Nat) (other : Task Req Op Res Err α), pool.tasks[j]? = some other → ¬ Mid cell other

def Returned (task : Task Req Op Res Err α) : Prop := ∃ value, task.prog = .ret value

instance (task : Task Req Op Res Err α) : Decidable (Returned task) :=
  match left : task.prog with
  | .ret value => .isTrue ⟨value, left⟩
  | .raise _ => .isFalse fun ⟨value, same⟩ => by rw [left] at same; cases same
  | .await _ _ => .isFalse fun ⟨value, same⟩ => by rw [left] at same; cases same

/-- A task between its read and its write holds the document as it is, and the
document carries what the finished ones set. -/
structure Saving (pool : Pool σ Req Op Res Err α) : Prop where
  alone : pool.Exclusive (Mid cell)
  apart : ∀ (i j : Nat) (task other : Task Req Op Res Err α), i ≠ j → pool.tasks[i]? = some task →
    pool.tasks[j]? = some other → cell.Apart task.request other.request
  current : ∀ (i : Nat) (task : Task Req Op Res Err α) before, pool.tasks[i]? = some task →
    task.running → task.seen (savingProtocol cell) = .holds before →
    cell.document pool.state = some before
  kept : ∀ (i : Nat) (task : Task Req Op Res Err α), pool.tasks[i]? = some task →
    task.seen (savingProtocol cell) = .wrote →
    ∃ doc, cell.document pool.state = some doc ∧ cell.carries task.request doc

section Step

variable {cell} {exec : (op : Op) → σ → Except Err (Res op) × σ} {instant : Op → Bool}
  {pool : Pool σ Req Op Res Err α} {i : Nat} {task : Task Req Op Res Err α} {op : Op}
  {resume : Except Err (Res op) → Prog Op Res Err α}

theorem apart_perform (saving : Saving cell pool) (found : pool.tasks[i]? = some task) (j k : Nat)
    (third other : Task Req Op Res Err α) (different : j ≠ k)
    (present : (pool.perform exec i task op resume).tasks[j]? = some third)
    (present' : (pool.perform exec i task op resume).tasks[k]? = some other) :
    cell.Apart third.request other.request := by
  rcases get_perform found present with ⟨rfl, rfl⟩ | ⟨_, before⟩
  · rcases get_perform found present' with ⟨rfl, _⟩ | ⟨_, before'⟩
    · exact absurd rfl different
    · exact saving.apart j k task other different found before'
  · rcases get_perform found present' with ⟨rfl, rfl⟩ | ⟨_, before'⟩
    · exact saving.apart j k third task different before found
    · exact saving.apart j k third other different before before'

/-- A step that leaves the document, of a task that stays where it is or fails. -/
theorem saving_unmoved (saving : Saving cell pool) (found : pool.tasks[i]? = some task)
    (left : task.prog = .await op resume)
    (same : cell.document (exec op pool.state).2 = cell.document pool.state)
    (stays : (pool.stepped exec task op resume).seen (savingProtocol cell) =
        task.seen (savingProtocol cell) ∨
      (pool.stepped exec task op resume).seen (savingProtocol cell) = .finished) :
    Saving cell (pool.perform exec i task op resume) := by
  have back (stage : Stage Doc) (reached : stage ≠ .finished)
      (seen : (pool.stepped exec task op resume).seen (savingProtocol cell) = stage) :
      task.seen (savingProtocol cell) = stage := by
    rcases stays with equal | failed
    · exact equal.symm.trans seen
    · exact absurd (seen.symm.trans failed) reached
  have running : task.running := ⟨op, resume, left⟩
  constructor
  · apply exclusive_perform saving.alone found
    rintro ⟨_, before, seen⟩
    exact .inl ⟨running, before, back _ nofun seen⟩
  · exact apart_perform saving found
  · intro j other before present busy seen
    rcases get_perform found present with ⟨rfl, rfl⟩ | ⟨_, earlier⟩
    · exact same.trans (saving.current j task before found running (back _ nofun seen))
    · exact same.trans (saving.current j other before earlier busy seen)
  · intro j other present seen
    rcases get_perform found present with ⟨rfl, rfl⟩ | ⟨_, earlier⟩
    · obtain ⟨doc, shown, carried⟩ := saving.kept j task found (back _ nofun seen)
      exact ⟨doc, same.trans shown, carried⟩
    · obtain ⟨doc, shown, carried⟩ := saving.kept j other earlier seen
      exact ⟨doc, same.trans shown, carried⟩

/-- The read of a task while no other one is between its read and its write. -/
theorem saving_read {doc : Doc} (saving : Saving cell pool) (found : pool.tasks[i]? = some task)
    (nobody : ∀ (j : Nat) (other : Task Req Op Res Err α), pool.tasks[j]? = some other →
      ¬ Mid cell other)
    (same : cell.document (exec op pool.state).2 = cell.document pool.state)
    (shown : cell.document pool.state = some doc)
    (reads : (pool.stepped exec task op resume).seen (savingProtocol cell) = .holds doc) :
    Saving cell (pool.perform exec i task op resume) := by
  constructor
  · exact exclusive_perform saving.alone found fun _ => .inr fun j other _ before =>
      nobody j other before
  · exact apart_perform saving found
  · intro j other before present busy seen
    rcases get_perform found present with ⟨rfl, rfl⟩ | ⟨_, earlier⟩
    · obtain rfl := Stage.holds.inj (reads.symm.trans seen)
      exact same.trans shown
    · exact absurd ⟨busy, before, seen⟩ (nobody j other earlier)
  · intro j other present seen
    rcases get_perform found present with ⟨rfl, rfl⟩ | ⟨_, earlier⟩
    · cases reads.symm.trans seen
    · obtain ⟨doc, shown, carried⟩ := saving.kept j other earlier seen
      exact ⟨doc, same.trans shown, carried⟩

/-- The write of a task, over the document it holds, whether or not it was answered. -/
theorem saving_write {before doc : Doc} (saving : Saving cell pool)
    (found : pool.tasks[i]? = some task) (left : task.prog = .await op resume)
    (held : task.seen (savingProtocol cell) = .holds before)
    (edits : cell.edits task.request before doc) (own : cell.carries task.request doc)
    (stored : cell.document (exec op pool.state).2 = some doc)
    (past : ∀ before, (pool.stepped exec task op resume).seen (savingProtocol cell) ≠ .holds before) :
    Saving cell (pool.perform exec i task op resume) := by
  have mid : Mid cell task := ⟨⟨op, resume, left⟩, before, held⟩
  constructor
  · exact exclusive_perform saving.alone found fun _ => .inl mid
  · exact apart_perform saving found
  · intro j other before' present busy seen
    rcases get_perform found present with ⟨rfl, rfl⟩ | ⟨different, earlier⟩
    · exact absurd seen (past before')
    · exact absurd (saving.alone j i other task earlier found ⟨busy, before', seen⟩ mid) different
  · intro j other present seen
    refine ⟨doc, stored, ?_⟩
    rcases get_perform found present with ⟨rfl, rfl⟩ | ⟨different, earlier⟩
    · exact own
    · obtain ⟨last, shown, carried⟩ := saving.kept j other earlier seen
      rw [saving.current i task before found mid.1 held] at shown
      obtain rfl := Option.some.inj shown
      exact saving.apart i j task other (fun h => different h.symm) found earlier _ doc edits carried

theorem idle_of_allowed {request : Req} {seen : Stage Doc} (allowed : seen.Allows cell request op)
    (unheld : ∀ before, seen ≠ .holds before) : cell.writes op = none := by
  cases writes : cell.writes op with
  | none => rfl
  | some doc =>
      obtain ⟨before, holds, _⟩ := allowed.2 doc writes
      exact absurd holds (unheld before)

theorem saving_perform (lawful : cell.Lawful exec instant)
    (own : ∀ request before doc, cell.edits request before doc → cell.carries request doc)
    (saving : Saving cell pool) (found : pool.tasks[i]? = some task)
    (left : task.prog = .await op resume)
    (allowed : (task.seen (savingProtocol cell)).Allows cell task.request op)
    (permitted : ¬ instant op → task.seen (savingProtocol cell) = .fresh →
      ∀ (j : Nat) (other : Task Req Op Res Err α), pool.tasks[j]? = some other → ¬ Mid cell other) :
    Saving cell (pool.perform exec i task op resume) := by
  have seen : (pool.stepped exec task op resume).seen (savingProtocol cell) =
      (task.seen (savingProtocol cell)).next cell op (exec op pool.state).1 :=
    seen_stepped pool task op resume
  cases stage : task.seen (savingProtocol cell) with
  | fresh =>
      rw [stage] at seen allowed
      have idle := idle_of_allowed allowed nofun
      have same := lawful.quiet op pool.state allowed.1 idle
      cases reads : cell.reads op (exec op pool.state).1 with
      | none =>
          apply saving_unmoved saving found left same
          left
          simp only [seen, Stage.next, reads, stage]
      | some doc =>
          -- A read takes a turn of its own, and then nobody is between read and write.
          have slow : ¬ instant op := by
            intro quick
            rw [lawful.unread op _ quick] at reads
            cases reads
          apply saving_read saving found (permitted slow stage) same
            (lawful.shown op pool.state doc reads)
          simp only [seen, Stage.next, reads]
  | holds before =>
      rw [stage] at seen allowed
      cases writes : cell.writes op with
      | none =>
          apply saving_unmoved saving found left (lawful.quiet op pool.state allowed.1 writes)
          left
          simp only [seen, Stage.next, writes, stage]
      | some doc =>
          -- What is written was made of the document that is still there.
          obtain ⟨_, holds, edits⟩ := allowed.2 doc writes
          obtain rfl := Stage.holds.inj holds
          have running : task.running := ⟨op, resume, left⟩
          have past (other : Doc) :
              (pool.stepped exec task op resume).seen (savingProtocol cell) ≠ .holds other := by
            rw [seen]
            cases answer : (exec op pool.state).1 <;> simp [Stage.next, writes]
          rcases lawful.stored task.request op pool.state before doc
            (saving.current i task before found running stage) allowed.1 writes edits with
            stored | ⟨same, error, answer⟩
          · exact saving_write saving found left stage edits (own _ _ _ edits) stored past
          · apply saving_unmoved saving found left same
            right
            simp only [seen, Stage.next, writes, answer]
  | wrote =>
      rw [stage] at seen allowed
      apply saving_unmoved saving found left
      · exact lawful.quiet op pool.state allowed.1 (idle_of_allowed allowed nofun)
      · left
        simp only [seen, Stage.next, stage]
  | finished =>
      rw [stage] at seen allowed
      apply saving_unmoved saving found left
      · exact lawful.quiet op pool.state allowed.1 (idle_of_allowed allowed nofun)
      · left
        simp only [seen, Stage.next, stage]

end Step

/-- Requests of which none has begun. -/
def begun (serve : Req → Prog Op Res Err α) (state : σ) (requests : List Req) :
    Pool σ Req Op Res Err α :=
  ⟨state, requests.map fun request => ⟨request, [], serve request⟩⟩

variable {exec : (op : Op) → σ → Except Err (Res op) × σ} {instant : Op → Bool}
  {serve : Req → Prog Op Res Err α} {cell : Cell Req Op Res Err Doc σ}

theorem get_begun {state : σ} {requests : List Req} {i : Nat} {task : Task Req Op Res Err α}
    (found : (begun serve state requests).tasks[i]? = some task) :
    ∃ request, requests[i]? = some request ∧ task = ⟨request, [], serve request⟩ := by
  simp only [begun, List.getElem?_map, Option.map_eq_some_iff] at found
  obtain ⟨request, member, rfl⟩ := found
  exact ⟨request, member, rfl⟩

theorem saving_begun {state : σ} {requests : List Req}
    (apart : ∀ (i j : Nat) (first second : Req), i ≠ j → requests[i]? = some first →
      requests[j]? = some second → cell.Apart first second) :
    Saving cell (begun serve state requests) := by
  constructor
  · rintro i j task other found _ ⟨_, before, seen⟩
    obtain ⟨request, _, rfl⟩ := get_begun found
    cases seen
  · intro i j task other different found present
    obtain ⟨first, member, rfl⟩ := get_begun found
    obtain ⟨second, member', rfl⟩ := get_begun present
    exact apart i j first second different member member'
  · intro i task before found _ seen
    obtain ⟨request, _, rfl⟩ := get_begun found
    cases seen
  · intro i task found seen
    obtain ⟨request, _, rfl⟩ := get_begun found
    cases seen

/-- Over any schedule in which no task reads while another one is between its
read and its write, the document carries the change of every task that returned. -/
theorem returned_carried (lawful : cell.Lawful exec instant)
    (own : ∀ request before doc, cell.edits request before doc → cell.carries request doc)
    (state : σ) (requests : List Req) (events : List (Event Req))
    (served : ∀ request, (savingProtocol cell).Served serve request)
    (apart : ∀ (i j : Nat) (first second : Req), i ≠ j → requests[i]? = some first →
      requests[j]? = some second → cell.Apart first second)
    (disciplined : Disciplined exec instant serve (ReadsAlone cell) (begun serve state requests)
      events)
    (task : Task Req Op Res Err α)
    (member : task ∈ ((begun serve state requests).play exec instant serve events).tasks)
    (returned : Returned task) :
    ∃ doc, cell.document ((begun serve state requests).play exec instant serve events).state =
        some doc ∧ cell.carries task.request doc := by
  have initial : (begun serve state requests).Watched (savingProtocol cell) ∧
      Saving cell (begun serve state requests) := by
    constructor
    · intro i task found
      obtain ⟨request, _, rfl⟩ := get_begun found
      exact served request
    · exact saving_begun apart
  have kept := play_kept
    (fun pool => pool.Watched (savingProtocol cell) ∧ Saving cell pool) _ events disciplined
    initial ?_
  · obtain ⟨i, found⟩ := List.getElem?_of_mem member
    obtain ⟨value, done⟩ := returned
    -- A task that returned has written.
    have follows := kept.1 i task found
    rw [Task.Watched, done] at follows
    exact kept.2.kept i task found (follows value rfl)
  · rintro pool event ⟨watched, saving⟩ permitted
    cases event with
    | start request => exact permitted.elim
    | resume i =>
        apply watched_step_kept (Saving cell)
          (fun pool i task op => ¬ instant op → task.seen (savingProtocol cell) = .fresh →
            ∀ (j : Nat) (other : Task Req Op Res Err α), pool.tasks[j]? = some other →
              ¬ Mid cell other)
        · exact fun _ _ _ _ quick slow => absurd quick slow
        · intro pool i task op resume saving found left follows alone
          exact saving_perform lawful own saving found left follows.1 alone
        · exact watched
        · exact saving
        · rintro _ ⟨⟩
        · rintro _ ⟨⟩
        · rintro j task op same found _ _ fresh
          cases same
          exact permitted task found fresh

/-- No event of such a run starts a task. -/
theorem play_requests (state : σ) (requests : List Req) (events : List (Event Req))
    (disciplined : Disciplined exec instant serve (ReadsAlone cell) (begun serve state requests)
      events) :
    ((begun serve state requests).play exec instant serve events).tasks.map Task.request =
      requests := by
  have moved (pool : Pool σ Req Op Res Err α) (i : Nat) (task : Task Req Op Res Err α) (op : Op)
      (resume : Except Err (Res op) → Prog Op Res Err α) (found : pool.tasks[i]? = some task)
      (same : pool.tasks.map Task.request = requests) :
      (pool.perform exec i task op resume).tasks.map Task.request = requests := by
    have present : (pool.tasks.map Task.request)[i]? = some task.request := by
      simp [found]
    rw [Pool.perform, List.map_set, set_found present]
    exact same
  apply play_kept (fun pool => pool.tasks.map Task.request = requests) _ events disciplined
  · simp [begun, Function.comp_def]
  · intro pool event same permitted
    cases event with
    | start request => exact permitted.elim
    | resume i =>
        apply turn_kept (fun pool => pool.tasks.map Task.request = requests) pool i same
        · exact fun task op resume found _ => moved pool i task op resume found same
        · exact fun pool task op resume found _ _ same => moved pool i task op resume found same

/-- When all have returned, the one document carries every change. -/
theorem all_carried (lawful : cell.Lawful exec instant)
    (own : ∀ request before doc, cell.edits request before doc → cell.carries request doc)
    (state : σ) (requests : List Req) (events : List (Event Req))
    (served : ∀ request, (savingProtocol cell).Served serve request)
    (apart : ∀ (i j : Nat) (first second : Req), i ≠ j → requests[i]? = some first →
      requests[j]? = some second → cell.Apart first second)
    (disciplined : Disciplined exec instant serve (ReadsAlone cell) (begun serve state requests)
      events)
    (finished : ∀ task ∈ ((begun serve state requests).play exec instant serve events).tasks,
      Returned task)
    (request : Req) (member : request ∈ requests) :
    ∃ doc, cell.document ((begun serve state requests).play exec instant serve events).state =
        some doc ∧ cell.carries request doc := by
  rw [← play_requests state requests events disciplined] at member
  obtain ⟨task, present, rfl⟩ := List.mem_map.mp member
  exact returned_carried lawful own state requests events served apart disciplined task present
    (finished task present)

theorem apart_pair {first second : Req} (forth : cell.Apart first second)
    (back : cell.Apart second first) (i j : Nat) (one other : Req) (different : i ≠ j)
    (found : [first, second][i]? = some one) (present : [first, second][j]? = some other) :
    cell.Apart one other := by
  match i, j with
  | 0, 0 => exact absurd rfl different
  | 0, 1 =>
      cases found
      cases present
      exact forth
  | 1, 0 =>
      cases found
      cases present
      exact back
  | 1, 1 => exact absurd rfl different
  | _ + 2, _ => simp at found
  | 0, _ + 2 => simp at present
  | 1, _ + 2 => simp at present

/-! The condition as a check. -/

def Stage.isHeld : Stage Doc → Bool
  | .holds _ => true
  | _ => false

def Stage.isFresh : Stage Doc → Bool
  | .fresh => true
  | _ => false

variable (cell) in
def readsAlone (pool : Pool σ Req Op Res Err α) : Event Req → Bool
  | .start _ => false
  | .resume i =>
      (pool.tasks.all fun task => !(task.seen (savingProtocol cell)).isHeld) ||
        (pool.tasks[i]?.all fun task => !(task.seen (savingProtocol cell)).isFresh)

theorem reads_alone_sound (pool : Pool σ Req Op Res Err α) (event : Event Req)
    (checked : readsAlone cell pool event = true) : ReadsAlone cell pool event := by
  cases event with
  | start request => cases checked
  | resume i =>
      intro task found fresh j other present mid
      obtain ⟨_, before, held⟩ := mid
      simp only [readsAlone, Bool.or_eq_true] at checked
      rcases checked with nobody | begun
      · have free := List.all_eq_true.mp nobody other (List.mem_of_getElem? present)
        simp [held, Stage.isHeld] at free
      · simp [found, fresh, Stage.isFresh] at begun

end Lehen.Overwriting
