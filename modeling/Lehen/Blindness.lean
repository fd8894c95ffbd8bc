import Lehen.Program

/-!
Programs that cannot tell apart two similar states. A program is blind to a
similarity when it goes on alike after similar answers; run from similar states
it comes to the same outcome.
-/

namespace Lehen.Blindness

open Prog

variable {Op : Type} {Res : Op → Type} {Err α β σ : Type}

/-- Answers that are similar as values, or the same error. -/
def Alike {op : Op} (similar : Res op → Res op → Prop) : Except Err (Res op) → Except Err (Res op) → Prop
  | .ok value, .ok other => similar value other
  | .error error, .error other => error = other
  | _, _ => False

section Blind

variable (similar : (op : Op) → Res op → Res op → Prop)

def Blind : Prog Op Res Err α → Prop
  | .ret _ => True
  | .raise _ => True
  | .await op resume =>
      (∀ answer other, Alike (similar op) answer other → resume answer = resume other) ∧
        ∀ answer, Blind (resume answer)

variable {similar}

theorem blind_bind {body : Prog Op Res Err α} {next : α → Prog Op Res Err β}
    (first : Blind similar body) (rest : ∀ value, Blind similar (next value)) :
    Blind similar (body.bind next) := by
  induction body with
  | ret value => exact rest value
  | raise error => trivial
  | await op resume ih =>
      constructor
      · intro answer other alike
        exact congrArg (fun prog : Prog Op Res Err α => prog.bind next) (first.1 answer other alike)
      · intro answer
        exact ih answer (first.2 answer)

theorem agree_of_values {op : Op} {resume : Except Err (Res op) → Prog Op Res Err α}
    (agrees : ∀ value other, similar op value other → resume (.ok value) = resume (.ok other))
    (answer other : Except Err (Res op)) (alike : Alike (similar op) answer other) :
    resume answer = resume other := by
  cases answer with
  | ok value =>
      cases other with
      | ok other => exact agrees value other alike
      | error error => exact alike.elim
  | error error =>
      cases other with
      | ok other => exact alike.elim
      | error other => rw [show error = other from alike]

/-- An operation in front of a program that goes on alike. -/
theorem blind_perform_then {op : Op} {next : Res op → Prog Op Res Err β}
    (agrees : ∀ value other, similar op value other → next value = next other)
    (rest : ∀ value, Blind similar (next value)) : Blind similar ((perform op).bind next) := by
  constructor
  · exact agree_of_values agrees
  · intro answer
    cases answer with
    | ok value => exact rest value
    | error error => trivial

/-- A program confined to operations whose similar answers are equal. -/
theorem blind_only {allowed : Op → Prop} {body : Prog Op Res Err α} (confined : body.Only allowed)
    (clear : ∀ op, allowed op → ∀ value other, similar op value other → value = other) :
    Blind similar body := by
  induction body with
  | ret value => trivial
  | raise error => trivial
  | await op resume ih =>
      constructor
      · apply agree_of_values
        intro value other alike
        rw [clear op confined.1 value other alike]
      · intro answer
        exact ih answer (confined.2 answer)

theorem run_blind {exec : (op : Op) → σ → Except Err (Res op) × σ} {alike : σ → σ → Prop}
    (kept : ∀ op state other, alike state other →
      Alike (similar op) (exec op state).1 (exec op other).1 ∧
        alike (exec op state).2 (exec op other).2)
    {body : Prog Op Res Err α} (blind : Blind similar body) {state other : σ}
    (start : alike state other) :
    (body.run exec state).1 = (body.run exec other).1 ∧
      alike (body.run exec state).2 (body.run exec other).2 := by
  induction body generalizing state other with
  | ret value => exact ⟨rfl, start⟩
  | raise error => exact ⟨rfl, start⟩
  | await op resume ih =>
      obtain ⟨answers, next⟩ := kept op state other start
      have same := blind.1 _ _ answers
      rw [run_await, run_await, ← same]
      exact ih _ (blind.2 _) next

end Blind

end Lehen.Blindness
