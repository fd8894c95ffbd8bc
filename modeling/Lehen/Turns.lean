import Lehen.Enduring

/-!
Programs among others that give up their turn only at some operations. What a
program does within one turn nobody else sees: only from the state in which the
turn begins to the one in which it ends has the state to move along the order.
-/

namespace Lehen.Prog

variable {Op : Type} {Res : Op → Type} {Err α β σ : Type}

section Turns

variable (exec : (op : Op) → σ → Except Err (Res op) × σ) (instant : Op → Bool)
  (later : σ → σ → Prop) (told : (op : Op) → Except Err (Res op) → σ → Prop)

/-- In a turn that began in a state: `told` of every operation, and `ends` of the
outcome, the state in which the last turn began and the one in which it ends. -/
def Acts (ends : Except Err α → σ → σ → Prop) : Prog Op Res Err α → σ → σ → Prop
  | .ret value, start, now => ends (.ok value) start now
  | .raise error, start, now => ends (.error error) start now
  | .await op resume, start, now =>
      (instant op = true → told op (exec op now).1 (exec op now).2 ∧
        Acts ends (resume (exec op now).1) start (exec op now).2) ∧
      (instant op = false → later start now ∧ ∀ next, later now next →
        told op (exec op next).1 (exec op next).2 ∧
          Acts ends (resume (exec op next).1) next (exec op next).2)

/-- The turn may end with this outcome, of which `post` holds from then on. -/
def closing (post : Except Err α → σ → Prop) (outcome : Except Err α) (start now : σ) : Prop :=
  later start now ∧ ∀ last, later now last → post outcome last

/-- Between two turns. -/
def Rests (post : Except Err α → σ → Prop) : Prog Op Res Err α → σ → Prop
  | .ret value, state => ∀ last, later state last → post (.ok value) last
  | .raise error, state => ∀ last, later state last → post (.error error) last
  | .await op resume, state => ∀ next, later state next →
      told op (exec op next).1 (exec op next).2 ∧
        Acts exec instant later told (closing later post) (resume (exec op next).1) next (exec op next).2

variable {exec instant later told}

theorem acts_mono {strong weak : Except Err α → σ → σ → Prop} {body : Prog Op Res Err α} {start now : σ}
    (acts : body.Acts exec instant later told strong start now)
    (weaker : ∀ outcome start now, strong outcome start now → weak outcome start now) :
    body.Acts exec instant later told weak start now := by
  induction body generalizing start now with
  | ret value => exact weaker _ _ _ acts
  | raise error => exact weaker _ _ _ acts
  | await op resume ih =>
      constructor
      · intro quick
        obtain ⟨told', rest⟩ := acts.1 quick
        exact ⟨told', ih _ rest⟩
      · intro slow
        obtain ⟨moved, onward⟩ := acts.2 slow
        refine ⟨moved, fun next after => ?_⟩
        obtain ⟨told', rest⟩ := onward next after
        exact ⟨told', ih _ rest⟩

theorem acts_bind {ends : Except Err β → σ → σ → Prop} (body : Prog Op Res Err α)
    (next : α → Prog Op Res Err β) {start now : σ}
    (acts : body.Acts exec instant later told (fun outcome start now => match outcome with
      | .ok value => (next value).Acts exec instant later told ends start now
      | .error error => ends (.error error) start now) start now) :
    (body.bind next).Acts exec instant later told ends start now := by
  induction body generalizing start now with
  | ret value => exact acts
  | raise error => exact acts
  | await op resume ih =>
      constructor
      · intro quick
        obtain ⟨told', rest⟩ := acts.1 quick
        exact ⟨told', ih _ rest⟩
      · intro slow
        obtain ⟨moved, onward⟩ := acts.2 slow
        refine ⟨moved, fun next after => ?_⟩
        obtain ⟨told', rest⟩ := onward next after
        exact ⟨told', ih _ rest⟩

theorem acts_handle {ends : Except Err α → σ → σ → Prop} (body : Prog Op Res Err α)
    (handler : Err → Prog Op Res Err α) {start now : σ}
    (acts : body.Acts exec instant later told (fun outcome start now => match outcome with
      | .ok value => ends (.ok value) start now
      | .error error => (handler error).Acts exec instant later told ends start now) start now) :
    (body.handle handler).Acts exec instant later told ends start now := by
  induction body generalizing start now with
  | ret value => exact acts
  | raise error => exact acts
  | await op resume ih =>
      constructor
      · intro quick
        obtain ⟨told', rest⟩ := acts.1 quick
        exact ⟨told', ih _ rest⟩
      · intro slow
        obtain ⟨moved, onward⟩ := acts.2 slow
        refine ⟨moved, fun next after => ?_⟩
        obtain ⟨told', rest⟩ := onward next after
        exact ⟨told', ih _ rest⟩

/-- One operation that does not give up the turn. -/
theorem acts_instant_then {ends : Except Err β → σ → σ → Prop} {op : Op}
    {next : Res op → Prog Op Res Err β} {start now : σ} {value : Res op} (quick : instant op = true)
    (answer : (exec op now).1 = .ok value) (tells : told op (.ok value) (exec op now).2)
    (rest : (next value).Acts exec instant later told ends start (exec op now).2) :
    ((perform op).bind next).Acts exec instant later told ends start now := by
  refine ⟨fun _ => ?_, fun slow => absurd quick (Bool.eq_false_iff.mp slow)⟩
  rw [answer]
  exact ⟨tells, rest⟩

/-- One operation that gives up the turn before it is answered. -/
theorem acts_await_then {ends : Except Err β → σ → σ → Prop} {op : Op}
    {next : Res op → Prog Op Res Err β} {start now : σ} (slow : instant op = false)
    (moved : later start now)
    (tells : ∀ next, later now next → told op (exec op next).1 (exec op next).2)
    (answered : ∀ begun value, later now begun → (exec op begun).1 = .ok value →
      (next value).Acts exec instant later told ends begun (exec op begun).2)
    (failed : ∀ begun error, later now begun → (exec op begun).1 = .error error →
      ends (.error error) begun (exec op begun).2) :
    ((perform op).bind next).Acts exec instant later told ends start now := by
  refine ⟨fun quick => absurd quick (Bool.eq_false_iff.mp slow), fun _ => ⟨moved, fun begun after => ?_⟩⟩
  refine ⟨tells begun after, ?_⟩
  rcases answer : (exec op begun).1 with error | value
  · exact failed begun error after answer
  · exact answered begun value after answer

variable [IsPreorder σ later]

theorem rests_later {post : Except Err α → σ → Prop} {body : Prog Op Res Err α} {state now : σ}
    (rests : body.Rests exec instant later told post state) (after : later state now) :
    body.Rests exec instant later told post now := by
  cases body with
  | ret value => exact fun last further => rests last (trans_of later after further)
  | raise error => exact fun last further => rests last (trans_of later after further)
  | await op resume => exact fun last further => rests last (trans_of later after further)

/-- A program all of whose operations keep to the order: a fact that is stable along the
order is still one in the end. -/
theorem acts_only {allowed : Op → Prop} {body : Prog Op Res Err α}
    {ends : Except Err α → σ → σ → Prop} {fact : σ → Prop} {start now : σ} (only : body.Only allowed)
    (moves : ∀ op state, allowed op → later state (exec op state).2)
    (tells : ∀ op state, allowed op → told op (exec op state).1 (exec op state).2)
    (stable : ∀ state now, later state now → fact state → fact now)
    (settled : later start now) (held : fact now)
    (finish : ∀ outcome start now, later start now → fact now → ends outcome start now) :
    body.Acts exec instant later told ends start now := by
  induction body generalizing start now with
  | ret value => exact finish _ start now settled held
  | raise error => exact finish _ start now settled held
  | await op resume ih =>
      constructor
      · intro _
        have moved := moves op now only.1
        exact ⟨tells op now only.1,
          ih _ (only.2 _) (trans_of later settled moved) (stable _ _ moved held)⟩
      · intro _
        refine ⟨settled, fun begun after => ⟨tells op begun only.1, ?_⟩⟩
        have moved := moves op begun only.1
        exact ih _ (only.2 _) moved (stable _ _ moved (stable _ _ after held))

/-- A program in a turn that has not done anything yet. -/
theorem rests_of_acts {post : Except Err α → σ → Prop} {body : Prog Op Res Err α} {state : σ}
    (acts : ∀ begun, later state begun → body.Acts exec instant later told (closing later post) begun begun) :
    body.Rests exec instant later told post state := by
  cases body with
  | ret value => exact (acts state (refl_of later state)).2
  | raise error => exact (acts state (refl_of later state)).2
  | await op resume =>
      intro begun after
      obtain ⟨quick, slow⟩ := acts begun after
      rcases Bool.eq_false_or_eq_true (instant op) with isQuick | isSlow
      · exact quick isQuick
      · exact (slow isSlow).2 begun (refl_of later begun)

end Turns

end Lehen.Prog

namespace Lehen.Schedule

variable {Op : Type} {Res : Op → Type} {Err α σ Req : Type}
  {exec : (op : Op) → σ → Except Err (Res op) × σ} {instant : Op → Bool}
  {later : σ → σ → Prop}
  {serve : Req → Prog Op Res Err α} {post : Req → Except Err α → σ → Prop}
  {told : Req → (op : Op) → Except Err (Res op) → σ → Prop}

/-- A task between two turns, and what is told of the operations it has behind it. -/
structure Task.Orderly (exec : (op : Op) → σ → Except Err (Res op) × σ) (instant : Op → Bool)
    (later : σ → σ → Prop) (told : Req → (op : Op) → Except Err (Res op) → σ → Prop)
    (post : Req → Except Err α → σ → Prop) (task : Task Req Op Res Err α) (state : σ) : Prop where
  rests : task.prog.Rests exec instant later (told task.request) (post task.request) state
  logged : ∀ entry ∈ task.log, told task.request entry.1 entry.2 state

structure Pool.Orderly (exec : (op : Op) → σ → Except Err (Res op) × σ) (instant : Op → Bool)
    (later : σ → σ → Prop) (told : Req → (op : Op) → Except Err (Res op) → σ → Prop)
    (post : Req → Except Err α → σ → Prop) (origin : σ) (pool : Pool σ Req Op Res Err α) : Prop where
  onward : later origin pool.state
  tasks : ∀ (i : Nat) (task : Task Req Op Res Err α), pool.tasks[i]? = some task →
    task.Orderly exec instant later told post pool.state

/-- What is told stays true. -/
structure Lasting (exec : (op : Op) → σ → Except Err (Res op) × σ) (later : σ → σ → Prop)
    (told : Req → (op : Op) → Except Err (Res op) → σ → Prop) : Prop where
  performed : ∀ request op answer other state, told request op answer state →
    told request op answer (exec other state).2
  later : ∀ request op answer state now, later state now → told request op answer state →
    told request op answer now

theorem settle_orderly (lasting : Lasting exec later told) (request : Req)
    (log : List ((op : Op) × Except Err (Res op))) (prog : Prog Op Res Err α) (start now : σ)
    (acts : prog.Acts exec instant later (told request) (Prog.closing later (post request)) start now)
    (logged : ∀ entry ∈ log, told request entry.1 entry.2 now) :
    later start (settle exec instant request log prog now).2 ∧
      (settle exec instant request log prog now).1.Orderly exec instant later told post
        (settle exec instant request log prog now).2 := by
  induction prog generalizing log now with
  | ret value => exact ⟨acts.1, acts.2, logged⟩
  | raise error => exact ⟨acts.1, acts.2, logged⟩
  | await op resume ih =>
      by_cases quick : instant op = true
      · obtain ⟨tells, rest⟩ := acts.1 quick
        rw [settle, if_pos quick]
        refine ih _ _ _ rest fun entry member => ?_
        rcases List.mem_append.mp member with early | last
        · exact lasting.performed _ _ _ _ _ (logged entry early)
        · rw [List.mem_singleton.mp last]
          exact tells
      · obtain ⟨moved, rest⟩ := acts.2 (Bool.eq_false_iff.mpr quick)
        rw [settle, if_neg quick]
        exact ⟨moved, rest, logged⟩

variable [IsPreorder σ later]

theorem orderly_later (lasting : Lasting exec later told) {task : Task Req Op Res Err α} {state now : σ}
    (orderly : task.Orderly exec instant later told post state) (after : later state now) :
    task.Orderly exec instant later told post now :=
  ⟨Prog.rests_later orderly.rests after,
    fun entry member => lasting.later _ _ _ _ _ after (orderly.logged entry member)⟩

theorem orderly_turn (lasting : Lasting exec later told) {origin : σ} {pool : Pool σ Req Op Res Err α}
    (orderly : pool.Orderly exec instant later told post origin) (i : Nat) :
    (pool.turn exec instant i).Orderly exec instant later told post origin := by
  unfold Pool.turn
  cases found : pool.tasks[i]? with
  | none => exact orderly
  | some task =>
      have own := orderly.tasks i task found
      have bound : i < pool.tasks.length := (List.getElem?_eq_some_iff.mp found).1
      -- The turn leaves the task at rest again, in a later state.
      have turned : later pool.state (task.turn exec instant pool.state).2 ∧
          (task.turn exec instant pool.state).1.Orderly exec instant later told post
            (task.turn exec instant pool.state).2 := by
        unfold Task.turn
        cases left : task.prog with
        | ret value => exact ⟨refl_of later pool.state, own⟩
        | raise error => exact ⟨refl_of later pool.state, own⟩
        | await op resume =>
            have rests := own.rests
            rw [left] at rests
            obtain ⟨tells, acts⟩ := rests pool.state (refl_of later pool.state)
            refine settle_orderly lasting _ _ _ _ _ acts fun entry member => ?_
            rcases List.mem_append.mp member with early | last
            · exact lasting.performed _ _ _ _ _ (own.logged entry early)
            · rw [List.mem_singleton.mp last]
              exact tells
      refine ⟨trans_of later orderly.onward turned.1, fun j other after => ?_⟩
      rcases get_set after with ⟨rfl, rfl⟩ | ⟨_, before⟩
      · exact turned.2
      · exact orderly_later lasting (orderly.tasks j other before) turned.1

/-- Whatever the order of the turns: the state only moves on, and all that is told of the
operations is true. -/
theorem play_orderly (lasting : Lasting exec later told) {origin : σ}
    (pool : Pool σ Req Op Res Err α) (events : List (Event Req))
    (served : ∀ request, .start request ∈ events → ∀ state, later origin state →
      (serve request).Rests exec instant later (told request) (post request) state)
    (orderly : pool.Orderly exec instant later told post origin) :
    (pool.play exec instant serve events).Orderly exec instant later told post origin := by
  induction events generalizing pool with
  | nil => exact orderly
  | cons event rest ih =>
      apply ih _ fun request member => served request (List.mem_cons_of_mem event member)
      cases event with
      | start request =>
          refine ⟨orderly.onward, fun j other after => ?_⟩
          rcases get_start after with before | rfl
          · exact orderly.tasks j other before
          · refine ⟨served request List.mem_cons_self pool.state orderly.onward, ?_⟩
            exact fun entry member => absurd member List.not_mem_nil
      | resume i => exact orderly_turn lasting orderly i

end Lehen.Schedule
