import Mathlib.Logic.Basic
import Mathlib.Tactic.Common

/-!
A call that is repeated: every one finds the state the one before it left. What
a call is and what it does to the state are parameters.
-/

namespace Lehen.Retrying

variable {call state : Type}

section Repeating

variable (after : call → state → state)

/-- The state that calls leave, one after the other. -/
def left (start : state) (calls : List call) : state :=
  calls.foldl (fun found call => after call found) start

/-- Every call meets the condition in the state it finds. -/
def Each (condition : call → state → Prop) (start : state) : List call → Prop
  | [] => True
  | first :: rest => condition first start ∧ Each condition (after first start) rest

end Repeating

variable {after : call → state → state} {condition : call → state → Prop} {inside broken : state → Prop}

theorem left_kept (kept : ∀ call found, inside found → condition call found → inside (after call found))
    (calls : List call) (start : state) (begins : inside start)
    (each : Each after condition start calls) : inside (left after start calls) := by
  induction calls generalizing start with
  | nil => exact begins
  | cons first rest ih => exact ih (after first start) (kept first start begins each.1) each.2

theorem left_stays (stays : ∀ call found, broken found → broken (after call found))
    (calls : List call) (start : state) (begins : broken start) : broken (left after start calls) := by
  induction calls generalizing start with
  | nil => exact begins
  | cons first rest ih => exact ih (after first start) (stays first start begins)

/-- A call that does not meet the condition breaks the state for good. -/
theorem left_broken
    (kept : ∀ call found, inside found → condition call found → inside (after call found))
    (breaks : ∀ call found, inside found → ¬ condition call found → broken (after call found))
    (stays : ∀ call found, broken found → broken (after call found))
    (calls : List call) (start : state) (begins : inside start)
    (failed : ¬ Each after condition start calls) : broken (left after start calls) := by
  induction calls generalizing start with
  | nil => exact absurd trivial failed
  | cons first rest ih =>
      by_cases met : condition first start
      · exact ih (after first start) (kept first start begins met) fun each => failed ⟨met, each⟩
      · exact left_stays stays rest (after first start) (breaks first start begins met)

end Lehen.Retrying
