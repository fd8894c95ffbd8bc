import Lehen.LocalCalls
import Lehen.Sliding

/-!
`_SlidingWindowCounter` of `admin/local_admin_service.py`, which forgets hits on
every call, answers like a counter that keeps all of them.
-/

namespace Lehen.Limiting

open AuthState LocalCalls Sliding
open LocalAdminService (windowLength)

structure SlidingWindowCounter (τ : Type) where
  limit : Nat
  events : Dict (List τ)

namespace SlidingWindowCounter

variable {τ : Type}

def fresh (limit : Nat) : SlidingWindowCounter τ := ⟨limit, ∅⟩

/-- `self._events[key]`, of a `defaultdict(list)`. -/
def bucket (counter : SlidingWindowCounter τ) (key : String) : List τ :=
  (counter.events.lookup key).getD []

variable [LinearOrder τ] (window : Window τ)

/-- `window.cutoff` is the subtraction `ts - 60.0`, exact or rounded. -/
def hitAndCheck (counter : SlidingWindowCounter τ) (key : String) (now : τ) :
    SlidingWindowCounter τ × Bool :=
  let cutoff := window.cutoff now
  let bucket := (counter.bucket key).filter (fun event => cutoff ≤ event) ++ [now]
  ({ counter with events := counter.events.insert key bucket }, bucket.length ≤ counter.limit)

/-- Calls one after another, with their answers. -/
def serve (counter : SlidingWindowCounter τ) : List (Hit String τ) → List Bool × SlidingWindowCounter τ
  | [] => ([], counter)
  | hit :: rest =>
      let first := counter.hitAndCheck window hit.key hit.now
      let tail := first.1.serve rest
      (first.2 :: tail.1, tail.2)

end SlidingWindowCounter

open SlidingWindowCounter (fresh)

/-- The answers to the hits of one key. -/
def answersOf {τ : Type} (key : String) (hits : List (Hit String τ)) (answers : List Bool) : List Bool :=
  ((hits.zip answers).filter fun entry => entry.1.key = key).map Prod.snd

/-! What one call does to the buckets. -/
section Calls

variable {τ : Type} [LinearOrder τ] {window : Window τ} {counter other : SlidingWindowCounter τ}

@[simp] theorem hit_limit (key : String) (now : τ) :
    (counter.hitAndCheck window key now).1.limit = counter.limit := rfl

theorem hit_answer (key : String) (now : τ) : (counter.hitAndCheck window key now).2 =
    decide ((window.keep (counter.bucket key) now).length ≤ counter.limit) := rfl

theorem hit_bucket (key : String) (now : τ) :
    (counter.hitAndCheck window key now).1.bucket key = window.keep (counter.bucket key) now := by
  rw [SlidingWindowCounter.bucket, SlidingWindowCounter.hitAndCheck, AList.lookup_insert]
  rfl

theorem hit_elsewhere {key apart : String} (different : apart ≠ key) (now : τ) :
    (counter.hitAndCheck window key now).1.bucket apart = counter.bucket apart := by
  rw [SlidingWindowCounter.bucket, SlidingWindowCounter.hitAndCheck, AList.lookup_insert_ne different]
  rfl

/-! The invariant of a run: every bucket follows the history of its key. -/

def Follows (window : Window τ) (counter : SlidingWindowCounter τ) (past : List (Hit String τ)) : Prop :=
  ∀ key, Recent window (counter.bucket key) (timesOf key past)

theorem follows_fresh (limit : Nat) : Follows window (fresh limit) [] := fun _ => recent_nil

theorem follows_hit {past : List (Hit String τ)} {hit : Hit String τ} (follows : Follows window counter past)
    (late : ∀ earlier ∈ past, earlier.now ≤ hit.now) :
    Follows window (counter.hitAndCheck window hit.key hit.now).1 (past ++ [hit]) := by
  intro key
  rw [times_append]
  by_cases own : hit.key = key
  · obtain rfl := own
    rw [hit_bucket, times_own]
    exact recent_keep (follows hit.key) (times_bounded late)
  · rw [hit_elsewhere (Ne.symm own), times_other own, List.append_nil]
    exact follows key

theorem serve_answers {past hits : List (Hit String τ)} (ordered : Ordered (past ++ hits))
    (follows : Follows window counter past) :
    (counter.serve window hits).1 = answers window counter.limit past hits := by
  induction hits generalizing past counter with
  | nil => rfl
  | cons hit rest ih =>
      have late : ∀ earlier ∈ past, earlier.now ≤ hit.now := fun earlier member =>
        (List.pairwise_append.mp ordered).2.2 earlier member hit List.mem_cons_self
      have onwards : Ordered ((past ++ [hit]) ++ rest) := by
        rw [List.append_assoc]
        exact ordered
      have tail := ih onwards (follows_hit follows late)
      rw [SlidingWindowCounter.serve, answers, tail, hit_limit, hit_answer,
        admits_keep (follows hit.key) late]

/-- Two counters that agree on one bucket answer its key alike, whatever else the first is asked. -/
theorem serve_alone {key : String} (limit : counter.limit = other.limit)
    (same : counter.bucket key = other.bucket key) (hits : List (Hit String τ)) :
    answersOf key hits (counter.serve window hits).1 =
      (other.serve window (hits.filter fun hit => hit.key = key)).1 := by
  -- Only a hit of the key reaches its bucket, and only such a hit reaches the other counter.
  induction hits generalizing counter other with
  | nil => rfl
  | cons hit rest ih =>
      by_cases own : hit.key = key
      · obtain rfl := own
        have buckets : (counter.hitAndCheck window hit.key hit.now).1.bucket hit.key =
            (other.hitAndCheck window hit.key hit.now).1.bucket hit.key := by
          rw [hit_bucket, hit_bucket, same]
        have tail := @ih (counter.hitAndCheck window hit.key hit.now).1
          (other.hitAndCheck window hit.key hit.now).1 limit buckets
        rw [List.filter_cons_of_pos (by simp), SlidingWindowCounter.serve, SlidingWindowCounter.serve,
          ← tail, hit_answer, hit_answer, same, limit]
        simp [answersOf]
      · have buckets : (counter.hitAndCheck window hit.key hit.now).1.bucket key = other.bucket key := by
          rw [hit_elsewhere (Ne.symm own), same]
        have tail := @ih (counter.hitAndCheck window hit.key hit.now).1 other limit buckets
        rw [List.filter_cons_of_neg (by simpa using own), ← tail, SlidingWindowCounter.serve]
        simp [answersOf, own]

end Calls

/-- Non-decreasing calls are answered as by the counter that keeps every hit, no closed
window holds more allowed hits of a key than the limit, and a key is answered as it is alone. -/
theorem hits_counted {τ : Type} [LinearOrder τ] (window : Window τ) (limit : Nat)
    (hits : List (Hit String τ)) (ordered : Ordered hits) :
    ((fresh limit).serve window hits).1 = answers window limit [] hits ∧
      (∀ key first last, window.cutoff last ≤ first →
        (granted key first last hits ((fresh limit).serve window hits).1).length ≤ limit) ∧
      ∀ key, answersOf key hits ((fresh limit).serve window hits).1 =
        ((fresh limit).serve window (hits.filter fun hit => hit.key = key)).1 := by
  have reference : ((fresh limit).serve window hits).1 = answers window limit [] hits :=
    serve_answers ordered (follows_fresh limit)
  refine ⟨reference, ?_, ?_⟩
  · intro key first last spans
    rw [reference]
    exact granted_bounded ordered key spans
  · intro key
    exact serve_alone rfl rfl hits

/-! The counter of a process, whose instants are microseconds. -/

def minute : Window Int := Window.ofLength windowLength (by decide)

theorem minute_spans (first last : Int) : minute.cutoff last ≤ first ↔ last - first ≤ windowLength :=
  of_length_spans _ first last

def sampleHits : List (Hit String Int) :=
  [⟨"ip:10.0.0.1", 0⟩, ⟨"user:admin", 0⟩, ⟨"ip:10.0.0.1", 30000000⟩, ⟨"ip:10.0.0.1", 60000000⟩,
    ⟨"user:admin", 60000001⟩, ⟨"ip:10.0.0.1", 120000001⟩]

theorem sample_counted :
    ((fresh 2).serve minute sampleHits).1 = answers minute 2 [] sampleHits ∧
      answers minute 2 [] sampleHits = [true, true, true, false, true, true] ∧
      (granted "ip:10.0.0.1" 0 60000000 sampleHits ((fresh 2).serve minute sampleHits).1).length ≤ 2 ∧
      answersOf "user:admin" sampleHits ((fresh 2).serve minute sampleHits).1 = [true, true] := by
  have ordered : Ordered sampleHits := by decide
  obtain ⟨reference, bounded, alone⟩ := hits_counted minute 2 sampleHits ordered
  refine ⟨reference, by decide, bounded _ _ _ (by decide), ?_⟩
  rw [alone]
  decide

variable {N : Type} (outside : AuthOutside N)

/-- The counter a process holds. -/
def counterOf (limit : Nat) (world : AuthWorld N) : SlidingWindowCounter Int :=
  ⟨limit, world.process.events⟩

/-- What a call leaves of a world: the buckets, and a clock that was read. -/
def served (world : AuthWorld N) (counter : SlidingWindowCounter Int) (next : N) : AuthWorld N :=
  { world with process := { world.process with events := counter.events }, outside := next }

theorem run_hit (limit : Nat) (key : String) (world : AuthWorld N) :
    (LocalAdminService.hitAndCheck limit key).run (authExec outside) world =
      let hit := (counterOf limit world).hitAndCheck minute key (outside.monotonic world.outside).1
      (.ok hit.2, served world hit.1 (outside.monotonic world.outside).2) := rfl

/-- Calls of the service on some keys, one after another. -/
def hitEach (limit : Nat) : List String → Auth (List Bool)
  | [] => return []
  | key :: rest => do
      let answer ← LocalAdminService.hitAndCheck limit key
      let answers ← hitEach limit rest
      return answer :: answers

/-- The hits these calls are, with the instants the clock gives, and the clock after them. -/
def readings : List String → N → List (Hit String Int) × N
  | [], state => ([], state)
  | key :: rest, state =>
      let reading := outside.monotonic state
      let tail := readings rest reading.2
      (⟨key, reading.1⟩ :: tail.1, tail.2)

theorem run_each (limit : Nat) (keys : List String) (world : AuthWorld N) :
    (hitEach limit keys).run (authExec outside) world =
      let hits := readings outside keys world.outside
      let answered := (counterOf limit world).serve minute hits.1
      (.ok answered.1, served world answered.2 hits.2) := by
  induction keys generalizing world with
  | nil => rfl
  | cons key rest ih =>
      rw [hitEach, Prog.bind_eq, Prog.run_bind, run_hit]
      simp only [Prog.bind_eq, Prog.run_bind, ih]
      rfl

/-- The same of the service: under a clock that does not go back, a process that
starts answers every sequence of calls like the counter that keeps every hit, and
allows no key more than the limit in sixty seconds. -/
theorem process_counted (limit : Nat) (keys : List String) (world : AuthWorld N)
    (started : world.process.events = ∅) (forward : Ordered (readings outside keys world.outside).1) :
    ∃ given, ((hitEach limit keys).run (authExec outside) world).1 = .ok given ∧
      given = answers minute limit [] (readings outside keys world.outside).1 ∧
      ∀ key first last, last - first ≤ windowLength →
        (granted key first last (readings outside keys world.outside).1 given).length ≤ limit := by
  have counter : counterOf limit world = fresh limit := by
    rw [counterOf, started]
    rfl
  refine ⟨_, ?_, rfl, ?_⟩
  · rw [run_each, counter]
    exact congrArg Except.ok (serve_answers forward (follows_fresh limit))
  · intro key first last short
    exact granted_bounded forward key ((minute_spans first last).mpr short)

end Lehen.Limiting
