import Lehen.Program
import Mathlib.Data.List.Forall2

/-!
Two programs in lockstep. They await paired operations and go on from similar
answers; from similar states they come to related outcomes.
-/

namespace Lehen.Twinning

open Prog

variable {Op : Type} {Res : Op → Type} {Err α β γ δ ι κ σ : Type}

/-- Which operations belong together, and which of their answers are similar. -/
abbrev Pairing (Op : Type) (Res : Op → Type) :=
  (op other : Op) → (Res op → Res other → Prop) → Prop

inductive Twin (paired : Pairing Op Res) (related : α → β → Prop) :
    Prog Op Res Err α → Prog Op Res Err β → Prop
  | ret {value : α} {other : β} (results : related value other) :
      Twin paired related (.ret value) (.ret other)
  | raise (error : Err) : Twin paired related (.raise error) (.raise error)
  | await {op other : Op} {similar : Res op → Res other → Prop}
      {resume : Except Err (Res op) → Prog Op Res Err α}
      {resume' : Except Err (Res other) → Prog Op Res Err β} (pair : paired op other similar)
      (answered : ∀ value value', similar value value' →
        Twin paired related (resume (.ok value)) (resume' (.ok value')))
      (failed : ∀ error, Twin paired related (resume (.error error)) (resume' (.error error))) :
      Twin paired related (.await op resume) (.await other resume')

/-- Related values, or the same error. -/
def SameOutcome (related : α → β → Prop) : Except Err α → Except Err β → Prop
  | .ok value, .ok other => related value other
  | .error error, .error other => error = other
  | _, _ => False

theorem same_outcome_cases {related : α → β → Prop} {outcome : Except Err α} {other : Except Err β}
    (same : SameOutcome related outcome other) :
    (∃ value value', outcome = .ok value ∧ other = .ok value' ∧ related value value') ∨
      ∃ error, outcome = .error error ∧ other = .error error := by
  cases outcome with
  | ok value =>
      cases other with
      | ok other => exact .inl ⟨value, other, rfl, rfl, same⟩
      | error error => exact same.elim
  | error error =>
      cases other with
      | ok other => exact same.elim
      | error other => exact .inr ⟨error, rfl, congrArg Except.error (Eq.symm same)⟩

theorem eq_of_same_outcome {outcome other : Except Err α} (same : SameOutcome Eq outcome other) :
    outcome = other := by
  rcases same_outcome_cases same with ⟨value, _, rfl, rfl, rfl⟩ | ⟨error, rfl, rfl⟩ <;> rfl

variable {paired : Pairing Op Res} {related : α → β → Prop} {post : γ → δ → Prop}

theorem twin_mono {body : Prog Op Res Err α} {other : Prog Op Res Err β} {weak : α → β → Prop}
    (twin : Twin paired related body other) (weaker : ∀ value other, related value other → weak value other) :
    Twin paired weak body other := by
  induction twin with
  | ret results => exact .ret (weaker _ _ results)
  | raise error => exact .raise error
  | await pair answered failed ih ihFailed => exact .await pair ih ihFailed

theorem twin_bind {body : Prog Op Res Err α} {other : Prog Op Res Err β}
    {next : α → Prog Op Res Err γ} {next' : β → Prog Op Res Err δ}
    (first : Twin paired related body other)
    (rest : ∀ value value', related value value' → Twin paired post (next value) (next' value')) :
    Twin paired post (body.bind next) (other.bind next') := by
  induction first with
  | ret results => exact rest _ _ results
  | raise error => exact .raise error
  | await pair answered failed ih ihFailed => exact .await pair ih ihFailed

theorem twin_perform {op other : Op} {similar : Res op → Res other → Prop}
    (pair : paired op other similar) :
    Twin paired similar (perform op : Prog Op Res Err (Res op)) (perform other) :=
  .await pair (fun _ _ answers => .ret answers) fun error => .raise error

theorem twin_perform_then {op other : Op} {similar : Res op → Res other → Prop}
    {next : Res op → Prog Op Res Err γ} {next' : Res other → Prog Op Res Err δ}
    (pair : paired op other similar)
    (rest : ∀ value value', similar value value' → Twin paired post (next value) (next' value')) :
    Twin paired post ((perform op).bind next) ((perform other).bind next') :=
  twin_bind (twin_perform pair) rest

/-- The same outcome on both sides, whose value is then known. -/
theorem twin_lift_then {outcome : Except Err α} {next : α → Prog Op Res Err γ}
    {next' : α → Prog Op Res Err δ}
    (rest : ∀ value, outcome = .ok value → Twin paired post (next value) (next' value)) :
    Twin paired post ((lift outcome).bind next) ((lift outcome).bind next') := by
  cases outcome with
  | ok value => exact rest value rfl
  | error error => exact .raise error

theorem twin_require_then {condition : Prop} [Decidable condition] {error : Err}
    {next : Unit → Prog Op Res Err γ} {next' : Unit → Prog Op Res Err δ}
    (rest : condition → Twin paired post (next ()) (next' ())) :
    Twin paired post ((require condition error).bind next) ((require condition error).bind next') := by
  unfold require
  by_cases holds : condition
  · rw [if_pos holds]
    exact rest holds
  · rw [if_neg holds]
    exact .raise error

/-- A program confined to operations that are paired with themselves, with equal
answers, is its own twin. -/
theorem twin_only {allowed : Op → Prop} {body : Prog Op Res Err α} (confined : body.Only allowed)
    (plain : ∀ op, allowed op → paired op op Eq) : Twin paired Eq body body := by
  induction body with
  | ret value => exact .ret rfl
  | raise error => exact .raise error
  | await op resume ih =>
      apply Twin.await (plain op confined.1)
      · rintro value _ rfl
        exact ih (.ok value) (confined.2 _)
      · intro error
        exact ih (.error error) (confined.2 _)

theorem twin_when {condition : Prop} [Decidable condition] {body : Prog Op Res Err α}
    {other : Prog Op Res Err β} (twin : Twin paired related body other) :
    Twin paired Eq (when condition body) (when condition other) := by
  unfold when
  split
  · exact twin_bind twin fun _ _ _ => .ret rfl
  · exact .ret rfl

theorem run_twin {exec : (op : Op) → σ → Except Err (Res op) × σ} {alike : σ → σ → Prop}
    (kept : ∀ op other similar, paired op other similar → ∀ state state', alike state state' →
      SameOutcome similar (exec op state).1 (exec other state').1 ∧
        alike (exec op state).2 (exec other state').2)
    {body : Prog Op Res Err α} {other : Prog Op Res Err β} (twin : Twin paired related body other)
    {state state' : σ} (start : alike state state') :
    SameOutcome related (body.run exec state).1 (other.run exec state').1 ∧
      alike (body.run exec state).2 (other.run exec state').2 := by
  induction twin generalizing state state' with
  | ret results => exact ⟨results, start⟩
  | raise error => exact ⟨rfl, start⟩
  | @await op other similar resume resume' pair answered failed ih ihFailed =>
      obtain ⟨answers, next⟩ := kept op other similar pair state state' start
      rw [run_await, run_await]
      rcases same_outcome_cases answers with ⟨value, value', ok, ok', similar⟩ | ⟨error, bad, bad'⟩
      · rw [ok, ok']
        exact ih value value' similar next
      · rw [bad, bad']
        exact ihFailed error next

end Lehen.Twinning
