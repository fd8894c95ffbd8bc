import Lehen.Schedule
import Mathlib.Order.Defs.Unbundled

/-!
Programs among others that move the same state. What the others may do is an
order on states, `later`, and every operation of the program keeps to it. What
a program has learned of the state stays true where it is kept along the order.
-/

namespace Lehen.Prog

variable {Op : Type} {Res : Op → Type} {Err α β γ σ : Type}

section Enduring

variable (exec : (op : Op) → σ → Except Err (Res op) × σ) (later : σ → σ → Prop)

/-- From a state on, whatever happens in between: each operation moves the state
along the order, and in the end `post` holds. -/
def Endures (post : Except Err α → σ → Prop) : Prog Op Res Err α → σ → Prop
  | .ret value, state => ∀ now, later state now → post (.ok value) now
  | .raise error, state => ∀ now, later state now → post (.error error) now
  | .await op resume, state => ∀ now, later state now →
      later now (exec op now).2 ∧ Endures post (resume (exec op now).1) (exec op now).2

variable {exec later}

theorem endures_mono {strong weak : Except Err α → σ → Prop} {body : Prog Op Res Err α} {state : σ}
    (endures : body.Endures exec later strong state)
    (weaker : ∀ outcome now, strong outcome now → weak outcome now) :
    body.Endures exec later weak state := by
  induction body generalizing state with
  | ret value => exact fun now after => weaker _ now (endures now after)
  | raise error => exact fun now after => weaker _ now (endures now after)
  | await op resume ih =>
      intro now after
      obtain ⟨moved, rest⟩ := endures now after
      exact ⟨moved, ih _ rest⟩

/-- What holds among looser others holds where the program keeps to the order. -/
theorem endures_told {loose : σ → σ → Prop} {allowed : Op → Prop} {post : Except Err α → σ → Prop}
    {body : Prog Op Res Err α} {state : σ} (only : body.Only allowed)
    (moved : ∀ op now, allowed op → later now (exec op now).2)
    (looser : ∀ before after, later before after → loose before after)
    (told : body.Endures exec loose post state) : body.Endures exec later post state := by
  induction body generalizing state with
  | ret value => exact fun now after => told now (looser _ _ after)
  | raise error => exact fun now after => told now (looser _ _ after)
  | await op resume ih =>
      intro now after
      exact ⟨moved op now only.1, ih _ (only.2 _) (told now (looser _ _ after)).2⟩

/-- In front of another program, one operation. -/
theorem endures_perform_then {post : Except Err β → σ → Prop} {op : Op}
    {next : Res op → Prog Op Res Err β} {state : σ}
    (moved : ∀ now, later state now → later now (exec op now).2)
    (answered : ∀ now value, later state now → (exec op now).1 = .ok value →
      (next value).Endures exec later post (exec op now).2)
    (failed : ∀ now error last, later state now → (exec op now).1 = .error error →
      later (exec op now).2 last → post (.error error) last) :
    ((perform op).bind next).Endures exec later post state := by
  intro now after
  refine ⟨moved now after, ?_⟩
  rcases answer : (exec op now).1 with error | value
  · exact fun last further => failed now error last after answer further
  · exact answered now value after answer

variable [IsPreorder σ later]

/-- What others do does not harm it. -/
theorem endures_later {post : Except Err α → σ → Prop} {body : Prog Op Res Err α} {state now : σ}
    (endures : body.Endures exec later post state)
    (after : later state now) : body.Endures exec later post now := by
  cases body with
  | ret value => exact fun last further => endures last (trans_of later after further)
  | raise error => exact fun last further => endures last (trans_of later after further)
  | await op resume => exact fun last further => endures last (trans_of later after further)

theorem endures_bind {post : Except Err β → σ → Prop} {middle : α → σ → Prop}
    {body : Prog Op Res Err α} {next : α → Prog Op Res Err β} {state : σ}
    (first : body.Endures exec later (fun outcome now => match outcome with
      | .ok value => middle value now
      | .error error => post (.error error) now) state)
    (rest : ∀ value now, later state now → middle value now →
      (next value).Endures exec later post now) :
    (body.bind next).Endures exec later post state := by
  induction body generalizing state with
  | ret value => exact rest value state (refl_of later state) (first state (refl_of later state))
  | raise error => exact first
  | await op resume ih =>
      intro now after
      obtain ⟨moved, onward⟩ := first now after
      refine ⟨moved, ih _ onward fun value last further held => ?_⟩
      exact rest value last (trans_of later after (trans_of later moved further)) held

theorem endures_handle {post : Except Err α → σ → Prop} {body : Prog Op Res Err α}
    {handler : Err → Prog Op Res Err α} {state : σ}
    (first : body.Endures exec later (fun outcome now => match outcome with
      | .ok value => post (.ok value) now
      | .error error => (handler error).Endures exec later post now) state) :
    (body.handle handler).Endures exec later post state := by
  induction body generalizing state with
  | ret value => exact first
  | raise error => exact first state (refl_of later state)
  | await op resume ih =>
      intro now after
      obtain ⟨moved, onward⟩ := first now after
      exact ⟨moved, ih _ onward⟩

end Enduring

/-! What a program returns, of which the states say nothing more. -/
section Gaining

variable (exec : (op : Op) → σ → Except Err (Res op) × σ) (later : σ → σ → Prop)

/-- The program endures, and a value it returns meets `post`. -/
def Gains (post : α → Prop) (body : Prog Op Res Err α) (state : σ) : Prop :=
  body.Endures exec later (fun outcome _ => ∀ value, outcome = .ok value → post value) state

variable {exec later}

theorem gains_ret {post : α → Prop} {value : α} {state : σ} (met : post value) :
    (Prog.ret value : Prog Op Res Err α).Gains exec later post state :=
  fun _ _ _ same => Except.ok.inj same ▸ met

theorem gains_raise {post : α → Prop} {error : Err} {state : σ} :
    (Prog.raise error : Prog Op Res Err α).Gains exec later post state := fun _ _ _ same => by cases same

theorem gains_lift {outcome : Except Err α} {post : α → Prop} {state : σ}
    (met : ∀ value, outcome = .ok value → post value) :
    (lift outcome : Prog Op Res Err α).Gains exec later post state := by
  cases outcome with
  | ok value => exact gains_ret (met value rfl)
  | error error => exact gains_raise

theorem gains_require {condition : Prop} [Decidable condition] {error : Err} {state : σ} :
    (require condition error : Prog Op Res Err Unit).Gains exec later (fun _ => condition) state := by
  unfold require
  split
  · exact gains_ret ‹_›
  · exact gains_raise

theorem gains_mono {strong weak : α → Prop} {body : Prog Op Res Err α} {state : σ}
    (gains : body.Gains exec later strong state) (weaker : ∀ value, strong value → weak value) :
    body.Gains exec later weak state :=
  endures_mono gains fun _ _ held value same => weaker value (held value same)

theorem gains_perform_then {post : β → Prop} {op : Op} {next : Res op → Prog Op Res Err β} {state : σ}
    (moved : ∀ now, later now (exec op now).2)
    (answered : ∀ now value, later state now → (exec op now).1 = .ok value →
      (next value).Gains exec later post (exec op now).2) :
    ((perform op).bind next).Gains exec later post state := by
  refine endures_perform_then (fun now _ => moved now) answered ?_
  intro now error last _ _ _ value same
  cases same

theorem gains_only {allowed : Op → Prop} {body : Prog Op Res Err α} {state : σ} (only : body.Only allowed)
    (moved : ∀ op now, allowed op → later now (exec op now).2) :
    body.Gains exec later (fun _ => True) state := by
  induction body generalizing state with
  | ret value => exact gains_ret trivial
  | raise error => exact gains_raise
  | await op resume ih => exact fun now _ => ⟨moved op now only.1, ih _ (only.2 _)⟩

variable (exec later) in
/-- From any state on that is later than the origin. -/
def Assures (origin : σ) (post : α → Prop) (body : Prog Op Res Err α) : Prop :=
  ∀ state, later origin state → body.Gains exec later post state

variable {origin : σ}

theorem assures_mono {strong weak : α → Prop} {body : Prog Op Res Err α}
    (assures : body.Assures exec later origin strong) (weaker : ∀ value, strong value → weak value) :
    body.Assures exec later origin weak :=
  fun state after => gains_mono (assures state after) weaker

variable [IsPreorder σ later]

/-- In front of another program, one whose value matters. -/
theorem endures_after {post : Except Err β → σ → Prop} {middle : α → Prop} {body : Prog Op Res Err α}
    {next : α → Prog Op Res Err β} {state : σ} (first : body.Gains exec later middle state)
    (failed : ∀ error now, post (.error error) now)
    (rest : ∀ value now, later state now → middle value → (next value).Endures exec later post now) :
    (body.bind next).Endures exec later post state := by
  refine endures_bind (endures_mono first ?_) rest
  rintro (error | value) now held
  · exact failed error now
  · exact held value rfl

theorem gains_bind {post : β → Prop} {middle : α → Prop} {body : Prog Op Res Err α}
    {next : α → Prog Op Res Err β} {state : σ} (first : body.Gains exec later middle state)
    (rest : ∀ value now, later state now → middle value → (next value).Gains exec later post now) :
    (body.bind next).Gains exec later post state :=
  endures_after first (fun _ _ _ same => by cases same) rest

theorem gains_handle {post : α → Prop} {body : Prog Op Res Err α} {handler : Err → Prog Op Res Err α}
    {state : σ} (first : body.Gains exec later post state)
    (caught : ∀ error now, (handler error).Gains exec later post now) :
    (body.handle handler).Gains exec later post state := by
  refine endures_handle (endures_mono first ?_)
  rintro (error | value) now held
  · exact caught error now
  · exact held

theorem assures_bind {post : β → Prop} {middle : α → Prop} {body : Prog Op Res Err α}
    {next : α → Prog Op Res Err β} (first : body.Assures exec later origin middle)
    (rest : ∀ value, middle value → (next value).Assures exec later origin post) :
    (body.bind next).Assures exec later origin post :=
  fun state after => gains_bind (first state after) fun value now further held =>
    rest value held now (trans_of later after further)

theorem assures_handle {post : α → Prop} {body : Prog Op Res Err α} {handler : Err → Prog Op Res Err α}
    (first : body.Assures exec later origin post)
    (caught : ∀ error state, (handler error).Gains exec later post state) :
    (body.handle handler).Assures exec later origin post :=
  fun state after => gains_handle (first state after) caught

/-- One operation, and what its answer says of a later state. -/
theorem assures_perform_then {post : β → Prop} {op : Op} {next : Res op → Prog Op Res Err β}
    (moved : ∀ now, later now (exec op now).2)
    (answered : ∀ now value, later origin now → (exec op now).1 = .ok value →
      (next value).Assures exec later origin post) :
    ((perform op).bind next).Assures exec later origin post := by
  intro state after
  apply gains_perform_then moved
  intro now value further answer
  have here := trans_of later after further
  exact answered now value here answer _ (trans_of later here (moved now))

end Gaining

end Lehen.Prog

namespace Lehen.Schedule

variable {Op : Type} {Res : Op → Type} {Err α σ Req : Type}
  {exec : (op : Op) → σ → Except Err (Res op) × σ} {later : σ → σ → Prop} [IsPreorder σ later]
  {instant : Op → Bool}
  {serve : Req → Prog Op Res Err α} {post : Req → Except Err α → σ → Prop}

/-- The state has moved on from its origin, and every task endures. -/
structure Pool.Enduring (exec : (op : Op) → σ → Except Err (Res op) × σ) (later : σ → σ → Prop)
    (post : Req → Except Err α → σ → Prop) (origin : σ) (pool : Pool σ Req Op Res Err α) : Prop where
  onward : later origin pool.state
  tasks : ∀ (i : Nat) (task : Task Req Op Res Err α), pool.tasks[i]? = some task →
    task.prog.Endures exec later (post task.request) pool.state

theorem enduring_perform {origin : σ} {pool : Pool σ Req Op Res Err α} {i : Nat}
    {task : Task Req Op Res Err α} {op : Op} {resume : Except Err (Res op) → Prog Op Res Err α}
    (enduring : pool.Enduring exec later post origin) (found : pool.tasks[i]? = some task)
    (left : task.prog = .await op resume) :
    (pool.perform exec i task op resume).Enduring exec later post origin := by
  have own := enduring.tasks i task found
  rw [left] at own
  obtain ⟨moved, rest⟩ := own pool.state (refl_of later pool.state)
  constructor
  · exact trans_of later enduring.onward moved
  · intro j other after
    rcases get_perform found after with ⟨rfl, rfl⟩ | ⟨_, before⟩
    · exact rest
    · exact Prog.endures_later (enduring.tasks j other before) moved

/-- Whatever the order of the turns, every task endures, and the state only moves on. -/
theorem play_enduring {origin : σ}
    (pool : Pool σ Req Op Res Err α) (events : List (Event Req))
    (served : ∀ request, .start request ∈ events → ∀ state, later origin state →
      (serve request).Endures exec later (post request) state)
    (enduring : pool.Enduring exec later post origin) :
    (pool.play exec instant serve events).Enduring exec later post origin := by
  induction events generalizing pool with
  | nil => exact enduring
  | cons event rest ih =>
      apply ih _ fun request member => served request (List.mem_cons_of_mem event member)
      cases event with
      | start request =>
          refine ⟨enduring.onward, fun j other after => ?_⟩
          rcases get_start after with before | rfl
          · exact enduring.tasks j other before
          · exact served request List.mem_cons_self pool.state enduring.onward
      | resume i =>
          apply turn_kept (fun pool => pool.Enduring exec later post origin) pool i enduring
          · intro task op resume found left
            exact enduring_perform enduring found left
          · intro pool task op resume found left _ held
            exact enduring_perform held found left

end Lehen.Schedule
