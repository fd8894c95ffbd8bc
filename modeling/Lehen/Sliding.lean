import Mathlib.Algebra.Order.Group.Defs
import Mathlib.Algebra.Order.Sub.Basic
import Mathlib.Data.List.Induction
import Mathlib.Order.Monotone.Defs

/-!
Counting hits in a sliding window. The reference counter keeps every hit. A bucket
forgets those that have left the window of its last hit.
-/

namespace Lehen.Sliding

/-- A window ends at an instant and begins at the cutoff of that instant. -/
structure Window (τ : Type) [LinearOrder τ] where
  cutoff : τ → τ
  monotone : Monotone cutoff
  before : ∀ now, cutoff now ≤ now

/-- The window of a length, where instants are exact. -/
def Window.ofLength {τ : Type} [AddCommGroup τ] [LinearOrder τ] [IsOrderedAddMonoid τ] (length : τ)
    (forward : 0 ≤ length) : Window τ where
  cutoff now := now - length
  monotone _ _ later := sub_le_sub_right later length
  before _ := sub_le_self _ forward

theorem of_length_spans {τ : Type} [AddCommGroup τ] [LinearOrder τ] [IsOrderedAddMonoid τ] {length : τ}
    (forward : 0 ≤ length) (first last : τ) :
    (Window.ofLength length forward).cutoff last ≤ first ↔ last - first ≤ length :=
  sub_le_comm

structure Hit (κ τ : Type) where
  key : κ
  now : τ
  deriving DecidableEq, Repr

variable {κ τ : Type}

/-! The hits of one key. -/
section Keys

variable [DecidableEq κ]

def timesOf (key : κ) (hits : List (Hit κ τ)) : List τ :=
  (hits.filter fun hit => hit.key = key).map Hit.now

theorem times_append (key : κ) (hits later : List (Hit κ τ)) :
    timesOf key (hits ++ later) = timesOf key hits ++ timesOf key later := by
  rw [timesOf, List.filter_append, List.map_append]
  rfl

theorem times_own (hit : Hit κ τ) : timesOf hit.key [hit] = [hit.now] := by
  simp [timesOf]

theorem times_other {key : κ} {hit : Hit κ τ} (other : hit.key ≠ key) : timesOf key [hit] = [] := by
  simp [timesOf, other]

theorem times_sublist {key : κ} {hits more : List (Hit κ τ)} (sub : hits.Sublist more) :
    (timesOf key hits).Sublist (timesOf key more) :=
  (sub.filter _).map _

end Keys

/-! The hits that were allowed. -/

def allowed (hits : List (Hit κ τ)) (answers : List Bool) : List (Hit κ τ) :=
  ((hits.zip answers).filter Prod.snd).map Prod.fst

theorem allowed_snoc {hits : List (Hit κ τ)} {answers : List Bool} (same : hits.length = answers.length)
    (hit : Hit κ τ) (answer : Bool) :
    allowed (hits ++ [hit]) (answers ++ [answer]) =
      allowed hits answers ++ if answer then [hit] else [] := by
  rw [allowed, List.zip_append same, List.filter_append, List.map_append]
  cases answer <;> rfl

theorem allowed_sublist (hits : List (Hit κ τ)) (answers : List Bool) :
    (allowed hits answers).Sublist hits := by
  induction hits generalizing answers with
  | nil => exact List.Sublist.refl _
  | cons hit rest ih =>
      cases answers with
      | nil => exact List.nil_sublist _
      | cons answer later =>
          cases answer with
          | false => exact (ih later).cons hit
          | true => exact (ih later).cons_cons hit

variable [LinearOrder τ]

def Ordered (hits : List (Hit κ τ)) : Prop :=
  hits.Pairwise fun earlier later => earlier.now ≤ later.now

instance (hits : List (Hit κ τ)) : Decidable (Ordered hits) :=
  inferInstanceAs (Decidable (hits.Pairwise fun earlier later => earlier.now ≤ later.now))

theorem ordered_snoc {hits : List (Hit κ τ)} {hit : Hit κ τ} (ordered : Ordered (hits ++ [hit])) :
    Ordered hits ∧ ∀ earlier ∈ hits, earlier.now ≤ hit.now := by
  obtain ⟨before, -, across⟩ := List.pairwise_append.mp ordered
  exact ⟨before, fun earlier member => across earlier member hit List.mem_cons_self⟩

/-- What lies in a closed interval. -/
def within (first last : τ) (times : List τ) : List τ :=
  times.filter fun time => first ≤ time ∧ time ≤ last

theorem within_mono {first last earlier later : τ} {times : List τ}
    (wider : ∀ time ∈ times, first ≤ time → time ≤ last → earlier ≤ time ∧ time ≤ later) :
    (within first last times).length ≤ (within earlier later times).length := by
  rw [within, within, ← List.countP_eq_length_filter, ← List.countP_eq_length_filter]
  apply List.countP_mono_left
  intro time member held
  simp only [decide_eq_true_eq] at held ⊢
  exact wider time member held.1 held.2

variable [DecidableEq κ]

theorem times_bounded {key : κ} {hits : List (Hit κ τ)} {now : τ} (late : ∀ hit ∈ hits, hit.now ≤ now) :
    ∀ time ∈ timesOf key hits, time ≤ now := by
  intro time member
  obtain ⟨hit, kept, rfl⟩ := List.mem_map.mp member
  exact late hit (List.mem_filter.mp kept).1

/-! The reference counter. -/

variable (window : Window τ) (limit : Nat)

/-- A hit counts itself and the hits of its key that its window holds. -/
def admits (past : List (Hit κ τ)) (hit : Hit κ τ) : Bool :=
  (within (window.cutoff hit.now) hit.now (timesOf hit.key (past ++ [hit]))).length ≤ limit

def answers : List (Hit κ τ) → List (Hit κ τ) → List Bool
  | _, [] => []
  | past, hit :: rest => admits window limit past hit :: answers (past ++ [hit]) rest

/-- The allowed hits of a key in a closed interval. -/
def granted (key : κ) (first last : τ) (hits : List (Hit κ τ)) (answers : List Bool) : List τ :=
  within first last (timesOf key (allowed hits answers))

variable {window limit}

theorem answers_length (past hits : List (Hit κ τ)) :
    (answers window limit past hits).length = hits.length := by
  induction hits generalizing past with
  | nil => rfl
  | cons hit rest ih => rw [answers, List.length_cons, ih, List.length_cons]

theorem answers_snoc (past hits : List (Hit κ τ)) (hit : Hit κ τ) :
    answers window limit past (hits ++ [hit]) =
      answers window limit past hits ++ [admits window limit (past ++ hits) hit] := by
  induction hits generalizing past with
  | nil =>
      rw [List.append_nil]
      rfl
  | cons first rest ih =>
      rw [List.cons_append, answers, ih, answers, List.append_assoc, List.singleton_append]
      rfl

/-- An interval that the window of an allowed hit reaches back over is full at most. -/
theorem granted_admitted {past : List (Hit κ τ)} {hit : Hit κ τ} {taken : List Bool} {first last : τ}
    (late : ∀ earlier ∈ past, earlier.now ≤ hit.now) (admitted : admits window limit past hit = true)
    (reached : window.cutoff hit.now ≤ first) :
    (within first last (timesOf hit.key (allowed past taken ++ [hit]))).length ≤ limit := by
  have bounded : ∀ time ∈ timesOf hit.key (past ++ [hit]), time ≤ hit.now := by
    apply times_bounded
    intro other member
    rcases List.mem_append.mp member with old | new
    · exact late other old
    · rw [List.mem_singleton.mp new]
  have sub : (allowed past taken ++ [hit]).Sublist (past ++ [hit]) :=
    (allowed_sublist past taken).append_right [hit]
  calc (within first last (timesOf hit.key (allowed past taken ++ [hit]))).length
      ≤ (within first last (timesOf hit.key (past ++ [hit]))).length :=
        ((times_sublist sub).filter _).length_le
    _ ≤ (within (window.cutoff hit.now) hit.now (timesOf hit.key (past ++ [hit]))).length :=
        within_mono fun time member after _ => ⟨reached.trans after, bounded time member⟩
    _ ≤ limit := of_decide_eq_true admitted

/-- The last allowed hit of an interval has counted all the others. -/
theorem granted_bounded {hits : List (Hit κ τ)} (ordered : Ordered hits) (key : κ) {first last : τ}
    (spans : window.cutoff last ≤ first) :
    (granted key first last hits (answers window limit [] hits)).length ≤ limit := by
  -- From the end: the last hit is the one that has counted what came before.
  induction hits using List.reverseRecOn with
  | nil => exact Nat.zero_le _
  | append_singleton past hit ih =>
      obtain ⟨before, late⟩ := ordered_snoc ordered
      rw [granted, answers_snoc, allowed_snoc (answers_length [] past).symm, List.nil_append]
      by_cases admitted : admits window limit past hit = true
      · rw [if_pos admitted]
        by_cases own : hit.key = key
        · obtain rfl := own
          by_cases inside : first ≤ hit.now ∧ hit.now ≤ last
          · exact granted_admitted late admitted ((window.monotone inside.2).trans spans)
          · rw [times_append, times_own, within, List.filter_append, List.filter_cons_of_neg (by simpa using inside),
              List.filter_nil, List.append_nil]
            exact ih before
        · rw [times_append, times_other own, List.append_nil]
          exact ih before
      · rw [if_neg admitted, List.append_nil]
        exact ih before

/-! A bucket that forgets follows the whole history. -/

/-- A hit on a bucket of instants: what has left the window goes, the hit is added. -/
def Window.keep (window : Window τ) (bucket : List τ) (now : τ) : List τ :=
  bucket.filter (fun event => window.cutoff now ≤ event) ++ [now]

/-- For an instant that nothing lies after, the bucket holds as much as the history. -/
def Recent (window : Window τ) (bucket times : List τ) : Prop :=
  ∀ now, (∀ time ∈ times, time ≤ now) →
    bucket.filter (fun event => window.cutoff now ≤ event) =
      times.filter fun event => window.cutoff now ≤ event

theorem recent_nil : Recent window [] [] := fun _ _ => rfl

/-- What a later cutoff leaves does not depend on what an earlier one took. -/
theorem filter_cutoff (bucket : List τ) {now later : τ} (after : now ≤ later) :
    (bucket.filter fun event => window.cutoff now ≤ event).filter
        (fun event => window.cutoff later ≤ event) =
      bucket.filter fun event => window.cutoff later ≤ event := by
  rw [List.filter_filter]
  apply List.filter_congr
  intro event _
  have step := window.monotone after
  by_cases held : window.cutoff later ≤ event
  · simp [held, step.trans held]
  · simp [held]

theorem recent_keep {bucket times : List τ} {now : τ} (recent : Recent window bucket times)
    (late : ∀ time ∈ times, time ≤ now) : Recent window (window.keep bucket now) (times ++ [now]) := by
  intro later bounded
  have after : now ≤ later := bounded now (List.mem_append_right times List.mem_cons_self)
  have history := recent later fun time member => (late time member).trans after
  rw [Window.keep, List.filter_append, filter_cutoff bucket after, history, List.filter_append]

/-- Where nothing lies after an instant, the interval that ends there is cut on one side only. -/
theorem within_late {times : List τ} {now : τ} (late : ∀ time ∈ times, time ≤ now) :
    within (window.cutoff now) now times = times.filter fun event => window.cutoff now ≤ event := by
  apply List.filter_congr
  intro event member
  simp [late event member]

/-- The bucket answers a hit as the whole history does. -/
theorem admits_keep {bucket : List τ} {past : List (Hit κ τ)} {hit : Hit κ τ}
    (recent : Recent window bucket (timesOf hit.key past)) (late : ∀ earlier ∈ past, earlier.now ≤ hit.now) :
    admits window limit past hit = decide ((window.keep bucket hit.now).length ≤ limit) := by
  have bounded : ∀ time ∈ timesOf hit.key past, time ≤ hit.now := times_bounded late
  have own : within (window.cutoff hit.now) hit.now [hit.now] = [hit.now] := by
    simp [within, window.before hit.now]
  have counted : within (window.cutoff hit.now) hit.now (timesOf hit.key (past ++ [hit])) =
      window.keep bucket hit.now := by
    rw [times_append, times_own, within, List.filter_append, Window.keep, recent hit.now bounded]
    exact congrArg₂ (· ++ ·) (within_late bounded) own
  rw [admits, counted]

end Lehen.Sliding
