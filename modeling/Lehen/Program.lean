import Mathlib.Logic.Basic
import Mathlib.Tactic.Common

/-!
Programs that await an environment. A program returns, raises, or awaits one
operation and resumes with the answer, so an await is the only place where
another program may run. Operations, answers and errors are parameters.
-/

namespace Lehen

inductive Prog (Op : Type) (Res : Op → Type) (Err : Type) (α : Type) : Type where
  | ret (value : α)
  | raise (error : Err)
  | await (op : Op) (resume : Except Err (Res op) → Prog Op Res Err α)

namespace Prog

variable {Op : Type} {Res : Op → Type} {Err α β γ σ ghost : Type}

def bind : Prog Op Res Err α → (α → Prog Op Res Err β) → Prog Op Res Err β
  | .ret value, next => next value
  | .raise error, _ => .raise error
  | .await op resume, next => .await op fun answer => (resume answer).bind next

/-- `try: body except ...`: the handler also sees the errors of operations
awaited inside the body. -/
def handle (body : Prog Op Res Err α) (handler : Err → Prog Op Res Err α) :
    Prog Op Res Err α :=
  match body with
  | .ret value => .ret value
  | .raise error => handler error
  | .await op resume => .await op fun answer => (resume answer).handle handler

instance : Monad (Prog Op Res Err) where
  pure := .ret
  bind := bind

instance : MonadExceptOf Err (Prog Op Res Err) where
  throw := .raise
  tryCatch := handle

def perform (op : Op) : Prog Op Res Err (Res op) :=
  .await op fun
    | .ok value => .ret value
    | .error error => .raise error

/-- `if not condition: raise error`. -/
def require (condition : Prop) [Decidable condition] (error : Err) : Prog Op Res Err Unit :=
  if condition then .ret () else .raise error

/-- `if condition: body`, whose result is dropped. -/
def when (condition : Prop) [Decidable condition] (body : Prog Op Res Err α) :
    Prog Op Res Err Unit :=
  if condition then body.bind fun _ => .ret () else .ret ()

/-- The program without its result. -/
def drop (body : Prog Op Res Err α) : Prog Op Res Err Unit := body.bind fun _ => .ret ()

def lift : Except Err α → Prog Op Res Err α
  | .ok value => .ret value
  | .error error => .raise error

/-- The body, and after it what is made of its outcome. -/
def resolve (body : Prog Op Res Err α) (finish : Except Err α → Prog Op Res Err β) :
    Prog Op Res Err β :=
  match body with
  | .ret value => finish (.ok value)
  | .raise error => finish (.error error)
  | .await op resume => .await op fun answer => (resume answer).resolve finish

def forEach (items : List γ) (body : γ → Prog Op Res Err Unit) : Prog Op Res Err Unit :=
  match items with
  | [] => .ret ()
  | item :: rest => (body item).bind fun _ => forEach rest body

@[simp] theorem pure_eq (value : α) : (pure value : Prog Op Res Err α) = .ret value := rfl

@[simp] theorem bind_eq (body : Prog Op Res Err α) (next : α → Prog Op Res Err β) :
    (body >>= next) = body.bind next := rfl

@[simp] theorem throw_eq (error : Err) :
    (throw error : Prog Op Res Err α) = .raise error := rfl

@[simp] theorem bind_ret (value : α) (next : α → Prog Op Res Err β) :
    (Prog.ret value).bind next = next value := rfl

@[simp] theorem bind_raise (error : Err) (next : α → Prog Op Res Err β) :
    (Prog.raise error : Prog Op Res Err α).bind next = .raise error := rfl

@[simp] theorem bind_await (op : Op) (resume : Except Err (Res op) → Prog Op Res Err α)
    (next : α → Prog Op Res Err β) :
    (Prog.await op resume).bind next = .await op fun answer => (resume answer).bind next := rfl

theorem bind_assoc (body : Prog Op Res Err α) (next : α → Prog Op Res Err β)
    (last : β → Prog Op Res Err γ) :
    (body.bind next).bind last = body.bind fun value => (next value).bind last := by
  induction body with
  | ret value => rfl
  | raise error => rfl
  | await op resume ih =>
      simp only [bind_await]
      congr 1
      funext answer
      exact ih answer

theorem bind_resolve (body : Prog Op Res Err α) (next : α → Prog Op Res Err β) :
    body.bind next = body.resolve fun
      | .ok value => next value
      | .error error => .raise error := by
  induction body with
  | ret value => rfl
  | raise error => rfl
  | await op resume ih =>
      simp only [bind_await, resolve]
      congr 1
      funext answer
      exact ih answer

theorem handle_resolve (body : Prog Op Res Err α) (handler : Err → Prog Op Res Err α) :
    body.handle handler = body.resolve fun
      | .ok value => .ret value
      | .error error => handler error := by
  induction body with
  | ret value => rfl
  | raise error => rfl
  | await op resume ih =>
      simp only [handle, resolve]
      congr 1
      funext answer
      exact ih answer

theorem resolve_resolve (body : Prog Op Res Err α) (finish : Except Err α → Prog Op Res Err β)
    (last : Except Err β → Prog Op Res Err γ) :
    (body.resolve finish).resolve last = body.resolve fun outcome => (finish outcome).resolve last := by
  induction body with
  | ret value => rfl
  | raise error => rfl
  | await op resume ih =>
      simp only [resolve]
      congr 1
      funext answer
      exact ih answer

/-! Running a program alone. `exec` answers one operation and moves the state. -/
section Running

variable (exec : (op : Op) → σ → Except Err (Res op) × σ)

def run : Prog Op Res Err α → σ → Except Err α × σ
  | .ret value, state => (.ok value, state)
  | .raise error, state => (.error error, state)
  | .await op resume, state => (resume (exec op state).1).run (exec op state).2

/-- The operations a run performs, each with the answer it got. -/
def trace : Prog Op Res Err α → σ → List ((op : Op) × Except Err (Res op))
  | .ret _, _ => []
  | .raise _, _ => []
  | .await op resume, state =>
      ⟨op, (exec op state).1⟩ :: (resume (exec op state).1).trace (exec op state).2

/-- What is noted of the operations of a run, each in the state it meets. -/
def notes (note : Op → σ → List γ) : Prog Op Res Err α → σ → List γ
  | .ret _, _ => []
  | .raise _, _ => []
  | .await op resume, state =>
      note op state ++ (resume (exec op state).1).notes note (exec op state).2

/-- What holds of the outcome and of the state a completed run leaves. -/
def Leaves (body : Prog Op Res Err α) (state : σ) (post : Except Err α → σ → Prop) : Prop :=
  post (body.run exec state).1 (body.run exec state).2

/-- The same of the operations as well, which come after those of the past. -/
def Tells (body : Prog Op Res Err α) (past : List ((op : Op) × Except Err (Res op))) (state : σ)
    (post : Except Err α → List ((op : Op) × Except Err (Res op)) → σ → Prop) : Prop :=
  post (body.run exec state).1 (past ++ body.trace exec state) (body.run exec state).2

@[simp] theorem run_ret (value : α) (state : σ) :
    (Prog.ret value : Prog Op Res Err α).run exec state = (.ok value, state) := rfl

@[simp] theorem run_raise (error : Err) (state : σ) :
    (Prog.raise error : Prog Op Res Err α).run exec state = (.error error, state) := rfl

theorem run_await (op : Op) (resume : Except Err (Res op) → Prog Op Res Err α) (state : σ) :
    (Prog.await op resume).run exec state =
      (resume (exec op state).1).run exec (exec op state).2 := rfl

theorem run_bind (body : Prog Op Res Err α) (next : α → Prog Op Res Err β) (state : σ) :
    (body.bind next).run exec state =
      match body.run exec state with
      | (.ok value, after) => (next value).run exec after
      | (.error error, after) => (.error error, after) := by
  induction body generalizing state with
  | ret value => rfl
  | raise error => rfl
  | await op resume ih => exact ih _ _

variable {exec}

@[simp] theorem leaves_ret (value : α) (state : σ) (post : Except Err α → σ → Prop) :
    Leaves exec (.ret value : Prog Op Res Err α) state post ↔ post (.ok value) state := Iff.rfl

@[simp] theorem leaves_raise (error : Err) (state : σ) (post : Except Err α → σ → Prop) :
    Leaves exec (.raise error : Prog Op Res Err α) state post ↔ post (.error error) state := Iff.rfl

theorem leaves_await (op : Op) (resume : Except Err (Res op) → Prog Op Res Err α) (state : σ)
    (post : Except Err α → σ → Prop) :
    Leaves exec (.await op resume) state post ↔
      Leaves exec (resume (exec op state).1) (exec op state).2 post := Iff.rfl

theorem leaves_bind (body : Prog Op Res Err α) (next : α → Prog Op Res Err β) (state : σ)
    (post : Except Err β → σ → Prop) :
    Leaves exec (body.bind next) state post ↔
      Leaves exec body state fun outcome after =>
        match outcome with
        | .ok value => Leaves exec (next value) after post
        | .error error => post (.error error) after := by
  unfold Leaves
  rw [run_bind]
  rcases body.run exec state with ⟨outcome | outcome, after⟩ <;> rfl

theorem leaves_perform (op : Op) (state : σ) (post : Except Err (Res op) → σ → Prop) :
    Leaves exec (perform op) state post ↔ post (exec op state).1 (exec op state).2 := by
  rw [perform, leaves_await]
  cases (exec op state).1 <;> rfl

theorem leaves_lift (outcome : Except Err α) (state : σ) (post : Except Err α → σ → Prop) :
    Leaves exec (lift outcome : Prog Op Res Err α) state post ↔ post outcome state := by
  cases outcome <;> rfl

theorem leaves_lift_then {outcome : Except Err α} {next : α → Prog Op Res Err β} {state : σ}
    {post : Except Err β → σ → Prop}
    (rest : ∀ value, outcome = .ok value → Leaves exec (next value) state post)
    (failed : ∀ error, outcome = .error error → post (.error error) state) :
    Leaves exec ((lift outcome).bind next) state post := by
  cases outcome with
  | ok value => exact rest value rfl
  | error error => exact failed error rfl

theorem trace_notes (body : Prog Op Res Err α) (state : σ) :
    body.trace exec state = body.notes exec (fun op state => [⟨op, (exec op state).1⟩]) state := by
  induction body generalizing state with
  | ret value => rfl
  | raise error => rfl
  | await op resume ih =>
      simp only [trace, notes, List.singleton_append]
      rw [ih]

/-- What is noted of a run was noted of an operation in some state. -/
theorem notes_noted {note : Op → σ → List γ} {body : Prog Op Res Err α} {state : σ} {entry : γ}
    (member : entry ∈ body.notes exec note state) : ∃ op during, entry ∈ note op during := by
  induction body generalizing state with
  | ret value => cases member
  | raise error => cases member
  | await op resume ih =>
      rcases List.mem_append.mp member with first | later
      · exact ⟨op, state, first⟩
      · exact ih _ later

theorem leaves_mono {body : Prog Op Res Err α} {state : σ}
    {strong weak : Except Err α → σ → Prop} (held : Leaves exec body state strong)
    (weaker : ∀ outcome after, strong outcome after → weak outcome after) :
    Leaves exec body state weak :=
  weaker _ _ held

theorem leaves_drop {body : Prog Op Res Err α} {state : σ} {inside : σ → Prop}
    (held : Leaves exec body state fun _ after => inside after) :
    Leaves exec body.drop state fun _ after => inside after := by
  rw [drop, leaves_bind]
  apply leaves_mono held
  intro outcome after reached
  cases outcome <;> exact reached

theorem leaves_require_then {condition : Prop} [Decidable condition] {error : Err}
    {next : Unit → Prog Op Res Err β} {state : σ} {post : Except Err β → σ → Prop}
    (holds : condition → Leaves exec (next ()) state post)
    (refused : ¬ condition → post (.error error) state) :
    Leaves exec ((require condition error).bind next) state post := by
  unfold require
  split
  · exact holds ‹_›
  · exact refused ‹_›

theorem leaves_handle (body : Prog Op Res Err α) (handler : Err → Prog Op Res Err α) (state : σ)
    (post : Except Err α → σ → Prop) :
    Leaves exec (body.handle handler) state post ↔
      Leaves exec body state fun outcome after =>
        match outcome with
        | .ok value => post (.ok value) after
        | .error error => Leaves exec (handler error) after post := by
  induction body generalizing state with
  | ret value => rfl
  | raise error => rfl
  | await op resume ih => exact ih _ _

/-! The rules for a run with its operations. -/

theorem tells_ret (value : α) (past : List ((op : Op) × Except Err (Res op))) (state : σ)
    (post : Except Err α → List ((op : Op) × Except Err (Res op)) → σ → Prop) :
    Tells exec (.ret value : Prog Op Res Err α) past state post ↔ post (.ok value) past state := by
  rw [Tells, trace, List.append_nil, run_ret]

theorem tells_raise (error : Err) (past : List ((op : Op) × Except Err (Res op))) (state : σ)
    (post : Except Err α → List ((op : Op) × Except Err (Res op)) → σ → Prop) :
    Tells exec (.raise error : Prog Op Res Err α) past state post ↔ post (.error error) past state := by
  rw [Tells, trace, List.append_nil, run_raise]

theorem tells_await (op : Op) (resume : Except Err (Res op) → Prog Op Res Err α)
    (past : List ((op : Op) × Except Err (Res op))) (state : σ)
    (post : Except Err α → List ((op : Op) × Except Err (Res op)) → σ → Prop) :
    Tells exec (.await op resume) past state post ↔
      Tells exec (resume (exec op state).1) (past ++ [⟨op, (exec op state).1⟩]) (exec op state).2 post := by
  rw [Tells, Tells, trace, run_await, List.append_assoc, List.singleton_append]

theorem tells_bind (body : Prog Op Res Err α) (next : α → Prog Op Res Err β)
    (past : List ((op : Op) × Except Err (Res op))) (state : σ)
    (post : Except Err β → List ((op : Op) × Except Err (Res op)) → σ → Prop) :
    Tells exec (body.bind next) past state post ↔
      Tells exec body past state fun outcome log after =>
        match outcome with
        | .ok value => Tells exec (next value) log after post
        | .error error => post (.error error) log after := by
  induction body generalizing past state with
  | ret value => rw [bind_ret, tells_ret]
  | raise error => rw [bind_raise, tells_raise, tells_raise]
  | await op resume ih =>
      rw [bind_await, tells_await, tells_await]
      exact ih _ _ _

/-- In front of another program, an operation that succeeds. -/
theorem tells_perform_then {op : Op} {next : Res op → Prog Op Res Err β} {value : Res op} {state : σ}
    {past : List ((op : Op) × Except Err (Res op))}
    {post : Except Err β → List ((op : Op) × Except Err (Res op)) → σ → Prop}
    (answer : (exec op state).1 = .ok value)
    (rest : Tells exec (next value) (past ++ [⟨op, .ok value⟩]) (exec op state).2 post) :
    Tells exec ((perform op).bind next) past state post := by
  rw [perform, bind_await, tells_await, answer]
  exact rest

theorem tells_mono {body : Prog Op Res Err α} {past : List ((op : Op) × Except Err (Res op))} {state : σ}
    {strong weak : Except Err α → List ((op : Op) × Except Err (Res op)) → σ → Prop}
    (held : Tells exec body past state strong)
    (weaker : ∀ outcome log after, strong outcome log after → weak outcome log after) :
    Tells exec body past state weak :=
  weaker _ _ _ held

/-! What a run that returned a value went through. -/

theorem run_bind_ok {body : Prog Op Res Err α} {next : α → Prog Op Res Err β} {state after : σ}
    {value : β} (returned : (body.bind next).run exec state = (.ok value, after)) :
    ∃ middle between, body.run exec state = (.ok middle, between) ∧
      (next middle).run exec between = (.ok value, after) := by
  rw [run_bind] at returned
  rcases first : body.run exec state with ⟨error | middle, between⟩
  · rw [first] at returned
    cases returned
  · rw [first] at returned
    exact ⟨middle, between, rfl, returned⟩

theorem run_lift_ok {outcome : Except Err α} {state after : σ} {value : α}
    (returned : (lift outcome : Prog Op Res Err α).run exec state = (.ok value, after)) :
    outcome = .ok value ∧ after = state := by
  cases outcome with
  | ok middle =>
      cases returned
      exact ⟨rfl, rfl⟩
  | error error => cases returned

theorem run_require_ok {condition : Prop} [Decidable condition] {error : Err} {state after : σ}
    {value : Unit}
    (returned : (require condition error : Prog Op Res Err Unit).run exec state = (.ok value, after)) :
    condition ∧ after = state := by
  by_cases holds : condition
  · rw [require, if_pos holds] at returned
    cases returned
    exact ⟨holds, rfl⟩
  · rw [require, if_neg holds] at returned
    cases returned

theorem run_perform_ok {op : Op} {state after : σ} {value : Res op}
    (returned : (perform op : Prog Op Res Err (Res op)).run exec state = (.ok value, after)) :
    exec op state = (.ok value, after) := by
  rw [perform, run_await] at returned
  rcases answered : exec op state with ⟨error | answer, next⟩
  · rw [answered] at returned
    cases returned
  · rw [answered] at returned
    cases returned
    rfl

/-- A handler that never returns leaves only the body to return. -/
theorem run_handle_ok {body : Prog Op Res Err α} {handler : Err → Prog Op Res Err α} {state after : σ}
    {value : α} (returned : (body.handle handler).run exec state = (.ok value, after))
    (raises : ∀ error between, ¬ ∃ value after, (handler error).run exec between = (.ok value, after)) :
    body.run exec state = (.ok value, after) := by
  induction body generalizing state with
  | ret value => exact returned
  | raise error => exact absurd ⟨value, after, returned⟩ (raises error state)
  | await op resume ih => exact ih _ returned

theorem run_handle {body : Prog Op Res Err α} {handler : Err → Prog Op Res Err α} {state after : σ}
    {value : α} (returned : body.run exec state = (.ok value, after)) :
    (body.handle handler).run exec state = (.ok value, after) := by
  induction body generalizing state with
  | ret value => exact returned
  | raise error => cases returned
  | await op resume ih => exact ih _ returned

theorem trace_perform {op : Op} {state after : σ} {value : Res op}
    (returned : (perform op : Prog Op Res Err (Res op)).run exec state = (.ok value, after)) :
    ⟨op, .ok value⟩ ∈ (perform op : Prog Op Res Err (Res op)).trace exec state := by
  rw [perform, trace, run_perform_ok returned]
  exact List.mem_cons_self

theorem trace_first {body : Prog Op Res Err α} {next : α → Prog Op Res Err β} {state : σ}
    {entry : (op : Op) × Except Err (Res op)} (member : entry ∈ body.trace exec state) :
    entry ∈ (body.bind next).trace exec state := by
  induction body generalizing state with
  | ret value => cases member
  | raise error => cases member
  | await op resume ih =>
      rcases List.mem_cons.mp member with rfl | later
      · exact List.mem_cons_self
      · exact List.mem_cons_of_mem _ (ih _ later)

theorem trace_then {body : Prog Op Res Err α} {next : α → Prog Op Res Err β} {state between : σ}
    {middle : α} {entry : (op : Op) × Except Err (Res op)}
    (returned : body.run exec state = (.ok middle, between))
    (member : entry ∈ (next middle).trace exec between) :
    entry ∈ (body.bind next).trace exec state := by
  induction body generalizing state with
  | ret value =>
      cases returned
      exact member
  | raise error => cases returned
  | await op resume ih => exact List.mem_cons_of_mem _ (ih _ returned)

/-- Two programs that do the same from a state, step by step. -/
def Mirrors (exec : (op : Op) → σ → Except Err (Res op) × σ) (body other : Prog Op Res Err α) (state : σ) :
    Prop :=
  body.run exec state = other.run exec state ∧ body.trace exec state = other.trace exec state

theorem mirrors_then {body : Prog Op Res Err α} {next next' : α → Prog Op Res Err β} {state : σ}
    (same : ∀ value after, body.run exec state = (.ok value, after) →
      Mirrors exec (next value) (next' value) after) :
    Mirrors exec (body.bind next) (body.bind next') state := by
  induction body generalizing state with
  | ret value => exact same value state rfl
  | raise error => exact ⟨rfl, rfl⟩
  | await op resume ih =>
      obtain ⟨outcome, operations⟩ := ih _ same
      refine ⟨outcome, ?_⟩
      simp only [Prog.bind, trace, operations]

theorem trace_handle {body : Prog Op Res Err α} {handler : Err → Prog Op Res Err α} {state : σ}
    {entry : (op : Op) × Except Err (Res op)} (member : entry ∈ body.trace exec state) :
    entry ∈ (body.handle handler).trace exec state := by
  induction body generalizing state with
  | ret value => cases member
  | raise error => cases member
  | await op resume ih =>
      rcases List.mem_cons.mp member with rfl | later
      · exact List.mem_cons_self
      · exact List.mem_cons_of_mem _ (ih _ later)

end Running

/-! Programs confined to some operations, whatever the answers are. -/
section Confined

variable (allowed : Op → Prop)

def Only : Prog Op Res Err α → Prop
  | .ret _ => True
  | .raise _ => True
  | .await op resume => allowed op ∧ ∀ answer, (resume answer).Only

variable {allowed}

theorem only_bind {body : Prog Op Res Err α} {next : α → Prog Op Res Err β}
    (first : body.Only allowed) (then_ : ∀ value, (next value).Only allowed) :
    (body.bind next).Only allowed := by
  induction body with
  | ret value => exact then_ value
  | raise error => trivial
  | await op resume ih => exact ⟨first.1, fun answer => ih answer (first.2 answer)⟩

theorem only_handle {body : Prog Op Res Err α} {handler : Err → Prog Op Res Err α}
    (first : body.Only allowed) (caught : ∀ error, (handler error).Only allowed) :
    (body.handle handler).Only allowed := by
  induction body with
  | ret value => trivial
  | raise error => exact caught error
  | await op resume ih => exact ⟨first.1, fun answer => ih answer (first.2 answer)⟩

theorem only_perform {op : Op} (fits : allowed op) :
    (perform op : Prog Op Res Err (Res op)).Only allowed := by
  constructor
  · exact fits
  · intro answer
    cases answer <;> trivial

theorem only_require (condition : Prop) [Decidable condition] (error : Err) :
    (require condition error : Prog Op Res Err Unit).Only allowed := by
  unfold require
  split <;> trivial

theorem only_lift (outcome : Except Err α) : (lift outcome : Prog Op Res Err α).Only allowed := by
  cases outcome <;> trivial

theorem only_when {condition : Prop} [Decidable condition] {body : Prog Op Res Err α}
    (inside : body.Only allowed) : (when condition body).Only allowed := by
  unfold when
  split
  · exact only_bind inside fun _ => trivial
  · trivial

theorem only_forEach {items : List γ} {body : γ → Prog Op Res Err Unit}
    (each : ∀ item, (body item).Only allowed) : (forEach items body).Only allowed := by
  induction items with
  | nil => trivial
  | cons item rest ih => exact only_bind (each item) fun _ => ih

theorem only_any (body : Prog Op Res Err α) : body.Only fun _ => True := by
  induction body with
  | ret value => trivial
  | raise error => trivial
  | await op resume ih => exact ⟨trivial, ih⟩

theorem only_mono {body : Prog Op Res Err α} {weaker : Op → Prop}
    (inside : body.Only allowed) (weaken : ∀ op, allowed op → weaker op) : body.Only weaker := by
  induction body with
  | ret value => trivial
  | raise error => trivial
  | await op resume ih =>
      exact ⟨weaken op inside.1, fun answer => ih answer (inside.2 answer)⟩

/-- Confined, and without handlers: an operation's error ends the program.
`raises` says whether the program may also raise errors of its own. -/
def Straight (allowed : Op → Prop) (raises : Prop) : Prog Op Res Err α → Prop
  | .ret _ => True
  | .raise _ => raises
  | .await op resume =>
      allowed op ∧ (∀ value, (resume (.ok value)).Straight allowed raises) ∧
        ∀ error, ∃ passed, resume (.error error) = .raise passed

theorem straight_bind {raises : Prop} {body : Prog Op Res Err α} {next : α → Prog Op Res Err β}
    (first : body.Straight allowed raises) (rest : ∀ value, (next value).Straight allowed raises) :
    (body.bind next).Straight allowed raises := by
  induction body with
  | ret value => exact rest value
  | raise error => exact first
  | await op resume ih =>
      refine ⟨first.1, fun value => ih (.ok value) (first.2.1 value), fun error => ?_⟩
      obtain ⟨passed, same⟩ := first.2.2 error
      exact ⟨passed, by dsimp only; rw [same, bind_raise]⟩

theorem straight_perform {raises : Prop} {op : Op} (fits : allowed op) :
    (perform op : Prog Op Res Err (Res op)).Straight allowed raises :=
  ⟨fits, fun _ => trivial, fun error => ⟨error, rfl⟩⟩

theorem straight_require (condition : Prop) [Decidable condition] (error : Err) :
    (require condition error : Prog Op Res Err Unit).Straight allowed True := by
  unfold require
  split <;> trivial

theorem straight_lift (outcome : Except Err α) :
    (lift outcome : Prog Op Res Err α).Straight allowed True := by
  cases outcome <;> trivial

theorem straight_lift_ok {raises : Prop} (value : α) :
    (lift (.ok value) : Prog Op Res Err α).Straight allowed raises := trivial

theorem straight_mono {body : Prog Op Res Err α} {weaker : Op → Prop} {raises more : Prop}
    (inside : body.Straight allowed raises) (weaken : ∀ op, allowed op → weaker op)
    (also : raises → more) : body.Straight weaker more := by
  induction body with
  | ret value => trivial
  | raise error => exact also inside
  | await op resume ih =>
      exact ⟨weaken op inside.1, fun value => ih _ (inside.2.1 value), inside.2.2⟩

/-- A straight program that raises nothing returns where every operation succeeds. -/
theorem straight_succeeds {exec : (op : Op) → σ → Except Err (Res op) × σ} {body : Prog Op Res Err α}
    {state : σ} (straight : body.Straight allowed False)
    (succeeds : ∀ op state, allowed op → ∃ value, (exec op state).1 = .ok value) :
    ∃ value, (body.run exec state).1 = .ok value := by
  induction body generalizing state with
  | ret value => exact ⟨value, rfl⟩
  | raise error => exact straight.elim
  | await op resume ih =>
      obtain ⟨value, answer⟩ := succeeds op state straight.1
      rw [run_await, answer]
      exact ih _ (straight.2.1 value)

theorem only_of_straight {body : Prog Op Res Err α} {weaker : Op → Prop} {raises : Prop}
    (inside : body.Straight allowed raises) (weaken : ∀ op, allowed op → weaker op) :
    body.Only weaker := by
  induction body with
  | ret value => trivial
  | raise error => trivial
  | await op resume ih =>
      refine ⟨weaken op inside.1, fun answer => ?_⟩
      cases answer with
      | ok value => exact ih _ (inside.2.1 value)
      | error error =>
          obtain ⟨passed, same⟩ := inside.2.2 error
          rw [same]
          trivial

/-- A relation to the first state that the allowed operations keep still holds
of the last one. -/
theorem leaves_only {exec : (op : Op) → σ → Except Err (Res op) × σ} {body : Prog Op Res Err α}
    {state : σ} (inside : σ → Prop) (confined : body.Only allowed) (start : inside state)
    (kept : ∀ op state, allowed op → inside state → inside (exec op state).2) :
    Leaves exec body state fun _ after => inside after := by
  induction body generalizing state with
  | ret value => exact start
  | raise error => exact start
  | await op resume ih => exact ih _ (confined.2 _) (kept op state confined.1 start)

/-- A run performs only what its program is confined to. -/
theorem only_trace {exec : (op : Op) → σ → Except Err (Res op) × σ} {body : Prog Op Res Err α}
    {state : σ} (only : body.Only allowed) {entry : (op : Op) × Except Err (Res op)}
    (member : entry ∈ body.trace exec state) : allowed entry.1 := by
  induction body generalizing state with
  | ret value => cases member
  | raise error => cases member
  | await op resume ih =>
      rcases List.mem_cons.mp member with rfl | later
      · exact only.1
      · exact ih _ (only.2 _) later

/-! Programs that keep an invariant, put together from programs that do. -/

/-- Every run that begins inside the invariant ends inside it. -/
def Keeps (exec : (op : Op) → σ → Except Err (Res op) × σ) (inside : σ → Prop)
    (body : Prog Op Res Err α) : Prop :=
  ∀ state, inside state → Leaves exec body state fun _ after => inside after

section Keeping

variable {exec : (op : Op) → σ → Except Err (Res op) × σ} {inside : σ → Prop}

theorem keeps_only {body : Prog Op Res Err α} (confined : body.Only allowed)
    (kept : ∀ op state, allowed op → inside state → inside (exec op state).2) :
    Keeps exec inside body :=
  fun _ start => leaves_only inside confined start kept

theorem keeps_bind {body : Prog Op Res Err α} {next : α → Prog Op Res Err β}
    (first : Keeps exec inside body) (rest : ∀ value, Keeps exec inside (next value)) :
    Keeps exec inside (body.bind next) := by
  intro state start
  rw [leaves_bind]
  apply leaves_mono (first state start)
  intro outcome after held
  cases outcome with
  | ok value => exact rest value after held
  | error error => exact held

theorem keeps_ret (value : α) : Keeps exec inside (.ret value : Prog Op Res Err α) :=
  fun _ start => start

theorem keeps_drop {body : Prog Op Res Err α} (keeps : Keeps exec inside body) :
    Keeps exec inside body.drop :=
  fun state start => leaves_drop (keeps state start)

theorem keeps_of_drop {body : Prog Op Res Err α} (keeps : Keeps exec inside body.drop) :
    Keeps exec inside body := by
  intro state start
  have held := keeps state start
  rw [drop, leaves_bind] at held
  apply leaves_mono held
  intro outcome after reached
  cases outcome with
  | ok value => exact reached
  | error error => exact reached

theorem keeps_when {condition : Prop} [Decidable condition] {body : Prog Op Res Err α}
    (keeps : Keeps exec inside body) : Keeps exec inside (when condition body) := by
  unfold when
  split
  · exact keeps_drop keeps
  · exact keeps_ret ()

theorem keeps_perform {op : Op} (kept : ∀ state, inside state → inside (exec op state).2) :
    Keeps exec inside (perform op) := by
  intro state start
  rw [leaves_perform]
  exact kept state start

theorem keeps_forEach {items : List γ} {body : γ → Prog Op Res Err Unit}
    (each : ∀ item ∈ items, Keeps exec inside (body item)) :
    Keeps exec inside (forEach items body) := by
  induction items with
  | nil => exact keeps_ret ()
  | cons item rest ih =>
      apply keeps_bind (each item List.mem_cons_self)
      exact fun _ => ih fun other later => each other (List.mem_cons_of_mem _ later)

end Keeping

end Confined

/-! Programs confined to some operations, and what every value they may return
meets, whatever the answers are. -/
section Yielding

variable {allowed : Op → Prop}

def Yields (allowed : Op → Prop) (post : α → Prop) : Prog Op Res Err α → Prop
  | .ret value => post value
  | .raise _ => True
  | .await op resume => allowed op ∧ ∀ answer, (resume answer).Yields allowed post

theorem yields_bind {body : Prog Op Res Err α} {next : α → Prog Op Res Err β} {middle : α → Prop}
    {post : β → Prop} (first : body.Yields allowed middle)
    (rest : ∀ value, middle value → (next value).Yields allowed post) :
    (body.bind next).Yields allowed post := by
  induction body with
  | ret value => exact rest value first
  | raise error => trivial
  | await op resume ih => exact ⟨first.1, fun answer => ih answer (first.2 answer)⟩

theorem yields_perform_then {op : Op} {next : Res op → Prog Op Res Err β} {post : β → Prop}
    (fits : allowed op) (rest : ∀ value, (next value).Yields allowed post) :
    ((perform op).bind next).Yields allowed post := by
  constructor
  · exact fits
  · intro answer
    cases answer with
    | ok value => exact rest value
    | error error => trivial

theorem yields_lift {outcome : Except Err α} {post : α → Prop}
    (returned : ∀ value, outcome = .ok value → post value) :
    (lift outcome : Prog Op Res Err α).Yields allowed post := by
  cases outcome with
  | ok value => exact returned value rfl
  | error error => trivial

theorem yields_require_then {condition : Prop} [Decidable condition] {error : Err}
    {next : Unit → Prog Op Res Err β} {post : β → Prop}
    (rest : condition → (next ()).Yields allowed post) :
    ((require condition error).bind next).Yields allowed post := by
  unfold require
  split
  · exact rest ‹_›
  · trivial

theorem yields_mono {body : Prog Op Res Err α} {strong weak : α → Prop}
    (yields : body.Yields allowed strong) (weaker : ∀ value, strong value → weak value) :
    body.Yields allowed weak := by
  induction body with
  | ret value => exact weaker value yields
  | raise error => trivial
  | await op resume ih => exact ⟨yields.1, fun answer => ih answer (yields.2 answer)⟩

theorem yields_and {body : Prog Op Res Err α} {first second : α → Prop}
    (left : body.Yields allowed first) (right : body.Yields allowed second) :
    body.Yields allowed fun value => first value ∧ second value := by
  induction body with
  | ret value => exact ⟨left, right⟩
  | raise error => trivial
  | await op resume ih => exact ⟨left.1, fun answer => ih answer (left.2 answer) (right.2 answer)⟩

theorem only_yields_then {body : Prog Op Res Err α} {next : α → Prog Op Res Err β} {middle : α → Prop}
    (first : body.Yields allowed middle) (rest : ∀ value, middle value → (next value).Only allowed) :
    (body.bind next).Only allowed := by
  induction body with
  | ret value => exact rest value first
  | raise error => trivial
  | await op resume ih => exact ⟨first.1, fun answer => ih answer (first.2 answer)⟩

theorem yields_weaken {body : Prog Op Res Err α} {weaker : Op → Prop} {post : α → Prop}
    (yields : body.Yields allowed post) (weaken : ∀ op, allowed op → weaker op) :
    body.Yields weaker post := by
  induction body with
  | ret value => exact yields
  | raise error => trivial
  | await op resume ih => exact ⟨weaken op yields.1, fun answer => ih answer (yields.2 answer)⟩

theorem only_of_yields {body : Prog Op Res Err α} {post : α → Prop}
    (yields : body.Yields allowed post) : body.Only allowed := by
  induction body with
  | ret value => trivial
  | raise error => trivial
  | await op resume ih => exact ⟨yields.1, fun answer => ih answer (yields.2 answer)⟩

theorem yields_of_only {body : Prog Op Res Err α} (confined : body.Only allowed) :
    body.Yields allowed fun _ => True := by
  induction body with
  | ret value => trivial
  | raise error => trivial
  | await op resume ih => exact ⟨confined.1, fun answer => ih answer (confined.2 answer)⟩

/-- In front of another program, one whose operations keep an invariant. -/
theorem leaves_yields_then {exec : (op : Op) → σ → Except Err (Res op) × σ}
    {body : Prog Op Res Err α} {next : α → Prog Op Res Err β} {middle : α → Prop} {state : σ}
    {post : Except Err β → σ → Prop} (inside : σ → Prop) (yields : body.Yields allowed middle)
    (start : inside state)
    (kept : ∀ op state, allowed op → inside state → inside (exec op state).2)
    (rest : ∀ value after, middle value → inside after → Leaves exec (next value) after post)
    (failed : ∀ error after, inside after → post (.error error) after) :
    Leaves exec (body.bind next) state post := by
  induction body generalizing state with
  | ret value => exact rest value state yields start
  | raise error => exact failed error state start
  | await op resume ih => exact ih _ (yields.2 _) (kept op state yields.1 start)

/-- In front of another program, a straight one whose operations all succeed. -/
theorem leaves_straight_then {exec : (op : Op) → σ → Except Err (Res op) × σ}
    {body : Prog Op Res Err α} {next : α → Prog Op Res Err β} {middle : α → Prop} {state : σ}
    {post : Except Err β → σ → Prop} (inside : σ → Prop) (straight : body.Straight allowed False)
    (yields : body.Yields allowed middle) (start : inside state)
    (succeeds : ∀ op state, allowed op → ∃ value, (exec op state).1 = .ok value)
    (kept : ∀ op state, allowed op → inside state → inside (exec op state).2)
    (rest : ∀ value after, middle value → inside after → Leaves exec (next value) after post) :
    Leaves exec (body.bind next) state post := by
  induction body generalizing state with
  | ret value => exact rest value state yields start
  | raise error => exact straight.elim
  | await op resume ih =>
      obtain ⟨value, answer⟩ := succeeds op state straight.1
      have onward : (resume (exec op state).1).Straight allowed False := by
        rw [answer]
        exact straight.2.1 value
      exact ih _ onward (yields.2 _) (kept op state straight.1 start)

end Yielding

/-! Protocols. A monitor follows the operations of one program and the answers
it gets; `Follows` says that, whatever the answers are, every operation is one
the monitor allows at that point and the outcome is one `post` accepts. -/

structure Monitor (Op : Type) (Res : Op → Type) (Err ghost : Type) where
  allowed : ghost → Op → Prop
  next : ghost → (op : Op) → Except Err (Res op) → ghost

section Monitoring

variable (monitor : Monitor Op Res Err ghost)

def Follows (post : Except Err α → ghost → Prop) : Prog Op Res Err α → ghost → Prop
  | .ret value, seen => post (.ok value) seen
  | .raise error, seen => post (.error error) seen
  | .await op resume, seen =>
      monitor.allowed seen op ∧
        ∀ answer, (resume answer).Follows post (monitor.next seen op answer)

variable {monitor}

@[simp] theorem follows_ret (value : α) (seen : ghost) (post : Except Err α → ghost → Prop) :
    (Prog.ret value : Prog Op Res Err α).Follows monitor post seen ↔ post (.ok value) seen := Iff.rfl

@[simp] theorem follows_raise (error : Err) (seen : ghost) (post : Except Err α → ghost → Prop) :
    (Prog.raise error : Prog Op Res Err α).Follows monitor post seen ↔ post (.error error) seen :=
  Iff.rfl

theorem follows_await (op : Op) (resume : Except Err (Res op) → Prog Op Res Err α) (seen : ghost)
    (post : Except Err α → ghost → Prop) :
    (Prog.await op resume).Follows monitor post seen ↔
      monitor.allowed seen op ∧
        ∀ answer, (resume answer).Follows monitor post (monitor.next seen op answer) := Iff.rfl

theorem follows_mono {body : Prog Op Res Err α} {seen : ghost}
    {strong weak : Except Err α → ghost → Prop} (follows : body.Follows monitor strong seen)
    (weaker : ∀ outcome after, strong outcome after → weak outcome after) :
    body.Follows monitor weak seen := by
  induction body generalizing seen with
  | ret value => exact weaker _ _ follows
  | raise error => exact weaker _ _ follows
  | await op resume ih => exact ⟨follows.1, fun answer => ih answer (follows.2 answer)⟩

theorem follows_bind (body : Prog Op Res Err α) (next : α → Prog Op Res Err β) (seen : ghost)
    (post : Except Err β → ghost → Prop) :
    (body.bind next).Follows monitor post seen ↔
      body.Follows monitor (fun outcome after =>
        match outcome with
        | .ok value => (next value).Follows monitor post after
        | .error error => post (.error error) after) seen := by
  induction body generalizing seen with
  | ret value => rfl
  | raise error => rfl
  | await op resume ih => exact and_congr_right fun _ => forall_congr' fun answer => ih answer _

theorem follows_handle (body : Prog Op Res Err α) (handler : Err → Prog Op Res Err α)
    (seen : ghost) (post : Except Err α → ghost → Prop) :
    (body.handle handler).Follows monitor post seen ↔
      body.Follows monitor (fun outcome after =>
        match outcome with
        | .ok value => post (.ok value) after
        | .error error => (handler error).Follows monitor post after) seen := by
  induction body generalizing seen with
  | ret value => rfl
  | raise error => rfl
  | await op resume ih => exact and_congr_right fun _ => forall_congr' fun answer => ih answer _

theorem follows_perform (op : Op) (seen : ghost) (post : Except Err (Res op) → ghost → Prop) :
    (perform op : Prog Op Res Err (Res op)).Follows monitor post seen ↔
      monitor.allowed seen op ∧ ∀ answer, post answer (monitor.next seen op answer) := by
  refine and_congr_right fun _ => forall_congr' fun answer => ?_
  cases answer <;> rfl

theorem follows_lift (outcome : Except Err α) (seen : ghost)
    (post : Except Err α → ghost → Prop) :
    (lift outcome : Prog Op Res Err α).Follows monitor post seen ↔ post outcome seen := by
  cases outcome <;> rfl

/-! One rule for each way a sequence begins. -/

theorem follows_then {body : Prog Op Res Err α} {next : α → Prog Op Res Err β} {seen : ghost}
    {middle : Except Err α → ghost → Prop} {post : Except Err β → ghost → Prop}
    (first : body.Follows monitor middle seen)
    (rest : ∀ value after, middle (.ok value) after → (next value).Follows monitor post after)
    (failed : ∀ error after, middle (.error error) after → post (.error error) after) :
    (body.bind next).Follows monitor post seen := by
  rw [follows_bind]
  apply follows_mono first
  intro outcome after held
  cases outcome with
  | ok value => exact rest value after held
  | error error => exact failed error after held

theorem follows_perform_then {op : Op} {next : Res op → Prog Op Res Err β} {seen : ghost}
    {post : Except Err β → ghost → Prop} (fits : monitor.allowed seen op)
    (rest : ∀ value, (next value).Follows monitor post (monitor.next seen op (.ok value)))
    (failed : ∀ error, post (.error error) (monitor.next seen op (.error error))) :
    ((perform op).bind next).Follows monitor post seen := by
  constructor
  · exact fits
  · intro answer
    cases answer with
    | ok value => exact rest value
    | error error => exact failed error

theorem follows_require_then {condition : Prop} [Decidable condition] {error : Err}
    {next : Unit → Prog Op Res Err β} {seen : ghost} {post : Except Err β → ghost → Prop}
    (holds : condition → (next ()).Follows monitor post seen)
    (refused : ¬ condition → post (.error error) seen) :
    ((require condition error).bind next).Follows monitor post seen := by
  unfold require
  split
  · exact holds ‹_›
  · exact refused ‹_›

theorem follows_lift_then {outcome : Except Err α} {next : α → Prog Op Res Err β} {seen : ghost}
    {post : Except Err β → ghost → Prop}
    (rest : ∀ value, outcome = .ok value → (next value).Follows monitor post seen)
    (failed : ∀ error, outcome = .error error → post (.error error) seen) :
    ((lift outcome).bind next).Follows monitor post seen := by
  cases outcome with
  | ok value => exact rest value rfl
  | error error => exact failed error rfl

/-- A program confined to operations the monitor takes no notice of. -/
theorem follows_only {allowed : Op → Prop} {body : Prog Op Res Err α} {seen : ghost}
    {post : Except Err α → ghost → Prop} (confined : body.Only allowed)
    (unnoticed : ∀ op, allowed op → monitor.allowed seen op ∧
      ∀ answer, monitor.next seen op answer = seen)
    (any : ∀ outcome, post outcome seen) : body.Follows monitor post seen := by
  induction body with
  | ret value => exact any _
  | raise error => exact any _
  | await op resume ih =>
      constructor
      · exact (unnoticed op confined.1).1
      · intro answer
        rw [(unnoticed op confined.1).2 answer]
        exact ih answer (confined.2 answer)

/-- In front of another program, one confined to operations the monitor takes no
notice of. -/
theorem follows_yields_then {allowed : Op → Prop} {body : Prog Op Res Err α}
    {next : α → Prog Op Res Err β} {seen : ghost} {middle : α → Prop}
    {post : Except Err β → ghost → Prop} (yields : body.Yields allowed middle)
    (unnoticed : ∀ op, allowed op → monitor.allowed seen op ∧
      ∀ answer, monitor.next seen op answer = seen)
    (rest : ∀ value, middle value → (next value).Follows monitor post seen)
    (raised : ∀ error, post (.error error) seen) : (body.bind next).Follows monitor post seen := by
  induction body with
  | ret value => exact rest value yields
  | raise error => exact raised error
  | await op resume ih =>
      constructor
      · exact (unnoticed op yields.1).1
      · intro answer
        rw [(unnoticed op yields.1).2 answer]
        exact ih answer (yields.2 answer)

/-- A straight program under a monitor that notices only failures. -/
theorem follows_straight {allowed : Op → Prop} {raises : Prop} {body : Prog Op Res Err α}
    {seen : ghost} {post : Except Err α → ghost → Prop} (straight : body.Straight allowed raises)
    (unnoticed : ∀ op, allowed op → monitor.allowed seen op ∧
      ∀ value, monitor.next seen op (.ok value) = seen)
    (returned : ∀ value, post (.ok value) seen) (raised : raises → ∀ error, post (.error error) seen)
    (failed : ∀ op error passed, allowed op →
      post (.error passed) (monitor.next seen op (.error error))) :
    body.Follows monitor post seen := by
  induction body with
  | ret value => exact returned value
  | raise error => exact raised straight error
  | await op resume ih =>
      refine ⟨(unnoticed op straight.1).1, fun answer => ?_⟩
      cases answer with
      | ok value =>
          rw [(unnoticed op straight.1).2 value]
          exact ih _ (straight.2.1 value)
      | error error =>
          obtain ⟨passed, same⟩ := straight.2.2 error
          rw [same]
          exact failed op error passed straight.1

/-- A straight program in front of another, where every failure leads the
monitor to one place. -/
theorem follows_straight_then {allowed : Op → Prop} {raises : Prop} {body : Prog Op Res Err α}
    {next : α → Prog Op Res Err β} {seen broken : ghost} {post : Except Err β → ghost → Prop}
    (straight : body.Straight allowed raises)
    (unnoticed : ∀ op, allowed op → monitor.allowed seen op ∧
      (∀ value, monitor.next seen op (.ok value) = seen) ∧
      ∀ error, monitor.next seen op (.error error) = broken)
    (rest : ∀ value, (next value).Follows monitor post seen)
    (raised : raises → ∀ error, post (.error error) seen)
    (failed : ∀ error, post (.error error) broken) : (body.bind next).Follows monitor post seen := by
  induction body with
  | ret value => exact rest value
  | raise error => exact raised straight error
  | await op resume ih =>
      obtain ⟨fits, onward, broke⟩ := unnoticed op straight.1
      refine ⟨fits, fun answer => ?_⟩
      cases answer with
      | ok value =>
          rw [onward value]
          exact ih _ (straight.2.1 value)
      | error error =>
          obtain ⟨passed, same⟩ := straight.2.2 error
          rw [broke error]
          dsimp only
          rw [same, bind_raise]
          exact failed passed

/-- A program confined to operations the monitor allows at any point. -/
theorem follows_confined {allowed : Op → Prop} {body : Prog Op Res Err α} {seen : ghost}
    {post : Except Err α → ghost → Prop} (confined : body.Only allowed)
    (fits : ∀ seen op, allowed op → monitor.allowed seen op)
    (any : ∀ outcome seen, post outcome seen) : body.Follows monitor post seen := by
  induction body generalizing seen with
  | ret value => exact any _ _
  | raise error => exact any _ _
  | await op resume ih =>
      exact ⟨fits seen op confined.1, fun answer => ih answer (confined.2 answer)⟩

variable (monitor) in
/-- What a monitor makes of a sequence of answered operations. -/
def watch (seen : ghost) (entries : List ((op : Op) × Except Err (Res op))) : ghost :=
  entries.foldl (fun seen entry => monitor.next seen entry.1 entry.2) seen

/-- What a monitor knows of the state along a run, and what the steps it allows
keep, holds when the run ends. -/
theorem leaves_follows {exec : (op : Op) → σ → Except Err (Res op) × σ} {body : Prog Op Res Err α}
    {seen : ghost} {state : σ} {post : Except Err α → ghost → Prop} (inside : ghost → σ → Prop)
    (follows : body.Follows monitor post seen) (start : inside seen state)
    (kept : ∀ seen op state, inside seen state → monitor.allowed seen op →
      inside (monitor.next seen op (exec op state).1) (exec op state).2) :
    Leaves exec body state fun outcome after =>
      inside (watch monitor seen (body.trace exec state)) after ∧
        post outcome (watch monitor seen (body.trace exec state)) := by
  induction body generalizing seen state with
  | ret value => exact ⟨start, follows⟩
  | raise error => exact ⟨start, follows⟩
  | await op resume ih => exact ih _ (follows.2 _) (kept seen op state start follows.1)

/-- The same with what is noted of the operations so far, which a failure does not
make forgotten. -/
theorem leaves_noted {exec : (op : Op) → σ → Except Err (Res op) × σ} {body : Prog Op Res Err α}
    {seen : ghost} {state : σ} {post : Except Err α → ghost → Prop} {note : Op → σ → List γ}
    (inside : ghost → List γ → σ → Prop) (past : List γ) (follows : body.Follows monitor post seen)
    (start : inside seen past state)
    (kept : ∀ seen past op state, inside seen past state → monitor.allowed seen op →
      inside (monitor.next seen op (exec op state).1) (past ++ note op state) (exec op state).2) :
    Leaves exec body state fun outcome after =>
      ∃ last, inside last (past ++ body.notes exec note state) after ∧ post outcome last := by
  induction body generalizing seen state past with
  | ret value => exact ⟨seen, (List.append_nil past).symm ▸ start, follows⟩
  | raise error => exact ⟨seen, (List.append_nil past).symm ▸ start, follows⟩
  | await op resume ih =>
      have rest := ih _ (past ++ note op state) (follows.2 _)
        (kept seen past op state start follows.1)
      rw [List.append_assoc] at rest
      exact rest

/-- The same with the answered operations. -/
theorem leaves_past {exec : (op : Op) → σ → Except Err (Res op) × σ} {body : Prog Op Res Err α}
    {seen : ghost} {state : σ} {post : Except Err α → ghost → Prop}
    (inside : ghost → List ((op : Op) × Except Err (Res op)) → σ → Prop)
    (past : List ((op : Op) × Except Err (Res op))) (follows : body.Follows monitor post seen)
    (start : inside seen past state)
    (kept : ∀ seen past op state, inside seen past state → monitor.allowed seen op →
      inside (monitor.next seen op (exec op state).1) (past ++ [⟨op, (exec op state).1⟩])
        (exec op state).2) :
    Leaves exec body state fun outcome after =>
      ∃ last, inside last (past ++ body.trace exec state) after ∧ post outcome last := by
  rw [trace_notes]
  exact leaves_noted inside past follows start kept

/-- A relation between what the monitor knows and the operations so far. -/
theorem watch_kept {exec : (op : Op) → σ → Except Err (Res op) × σ} {body : Prog Op Res Err α}
    {seen : ghost} {state : σ} {post : Except Err α → ghost → Prop}
    (relation : ghost → List ((op : Op) × Except Err (Res op)) → Prop)
    (follows : body.Follows monitor post seen)
    (past : List ((op : Op) × Except Err (Res op))) (start : relation seen past)
    (kept : ∀ seen op answer past, relation seen past → monitor.allowed seen op →
      relation (monitor.next seen op answer) (past ++ [⟨op, answer⟩])) :
    relation (watch monitor seen (body.trace exec state)) (past ++ body.trace exec state) := by
  induction body generalizing seen state past with
  | ret value => exact (List.append_nil past).symm ▸ start
  | raise error => exact (List.append_nil past).symm ▸ start
  | await op resume ih =>
      have extended := kept seen op (exec op state).1 past start follows.1
      have rest : relation _ (_ ++ (resume (exec op state).1).trace exec (exec op state).2) :=
        ih _ (follows.2 _) _ extended
      rw [List.append_assoc] at rest
      exact rest

/-- The monitor that keeps everything: what is allowed depends on all that was done
and answered before. -/
def recording (allowed : List ((op : Op) × Except Err (Res op)) → Op → Prop) :
    Monitor Op Res Err (List ((op : Op) × Except Err (Res op))) where
  allowed := allowed
  next past op answer := past ++ [⟨op, answer⟩]

theorem leaves_recorded {exec : (op : Op) → σ → Except Err (Res op) × σ} {body : Prog Op Res Err α}
    {allowed : List ((op : Op) × Except Err (Res op)) → Op → Prop} {state : σ}
    {post : Except Err α → List ((op : Op) × Except Err (Res op)) → Prop}
    (follows : body.Follows (recording allowed) post []) :
    (∀ past op answer later, body.trace exec state = past ++ ⟨op, answer⟩ :: later → allowed past op) ∧
      post (body.run exec state).1 (body.trace exec state) := by
  have kept : Leaves exec body state fun outcome _ => ∃ last,
      (last = [] ++ body.trace exec state ∧ ∀ earlier op answer later,
        [] ++ body.trace exec state = earlier ++ ⟨op, answer⟩ :: later → allowed earlier op) ∧
      post outcome last := by
    refine leaves_past (fun seen past _ => seen = past ∧
      ∀ earlier op answer later, past = earlier ++ ⟨op, answer⟩ :: later → allowed earlier op) []
      follows ⟨rfl, fun _ _ _ _ none => by simp at none⟩ ?_
    rintro seen past op now ⟨rfl, each⟩ fits
    refine ⟨rfl, ?_⟩
    intro earlier other answer later split
    rcases List.eq_nil_or_concat later with rfl | ⟨front, last, rfl⟩
    · obtain ⟨rfl, same⟩ := List.append_inj' split rfl
      obtain ⟨rfl, _⟩ := Sigma.mk.inj (List.head_eq_of_cons_eq same)
      exact fits
    · refine each earlier other answer front ?_
      rw [List.concat_eq_append, ← List.cons_append, ← List.append_assoc] at split
      exact (List.append_inj' split rfl).1
  obtain ⟨last, ⟨same, each⟩, held⟩ := kept
  rw [List.nil_append] at same each
  exact ⟨each, same ▸ held⟩

end Monitoring

end Prog

end Lehen
