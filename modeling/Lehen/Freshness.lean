import Lehen.CacheCalls
import Lehen.Verification
import Mathlib.Data.List.Induction

/-!
Where the key sets that `get_keys` returns come from. Each was fetched within the TTL;
and after an invalidation no older one is returned, where a request that is under way
during it does not succeed.
-/

namespace Lehen.Freshness

open AuthState Jwks Schedule CacheTurns CacheCalls
open Storage (HttpResponse)

variable {N : Type} (settings : AuthSettings) (outside : AuthOutside N) (world : AuthWorld N)

/-- The event at this place of a run invalidates the cache. -/
def InvalidatesAt (events : List (Event CacheCall)) (n : Nat) : Prop :=
  ∃ i, events[n]? = some (.resume i) ∧
    (cacheRun settings outside world (events.take n)).tasks[i]? = some (pending settings)

/-- A call that has done nothing yet, or is not there. -/
def Unbegun (pool : CachePool N) (k : Nat) : Prop :=
  ∀ task : CacheTask, pool.tasks[k]? = some task → task.log = []

/-- A call whose request has begun. -/
def Asked (pool : CachePool N) (k : Nat) : Prop :=
  ∃ task : CacheTask, pool.tasks[k]? = some task ∧
    (Asking settings task ∨ ∃ request, requestOf task.log = some request)

/-- A request that is under way at an invalidation is not answered with a key set. -/
def Undisturbed (events : List (Event CacheCall)) : Prop :=
  ∀ n later i, InvalidatesAt settings outside world events n → n < later →
    events[later]? = some (.resume i) →
      (∃ task, (cacheRun settings outside world (events.take n)).tasks[i]? = some task ∧
        Asking settings task) →
      (∃ task, (cacheRun settings outside world (events.take later)).tasks[i]? = some task ∧
        Asking settings task) →
      documentOf settings
        (answered settings outside (cacheRun settings outside world (events.take later)).state).1 = none

/-- The request of a call, begun at the instant, was answered with the key set. -/
def Brought (pool : CachePool N) (f : Nat) (began : Int) (keys : Dict Json) : Prop :=
  ∃ (fetcher : CacheTask) (answer : Except PyError HttpResponse), pool.tasks[f]? = some fetcher ∧
    requestOf fetcher.log = some (began, answer) ∧ documentOf settings answer = some keys

/-! The invariant. -/

structure Fresh (events : List (Event CacheCall)) : Prop where
  cached : ∀ keys, (cacheRun settings outside world events).state.process.jwks.keys = some keys →
    ∃ f, Brought settings (cacheRun settings outside world events) f
        (cacheRun settings outside world events).state.process.jwks.fetchedAt keys ∧
      ∀ n, InvalidatesAt settings outside world events n →
        ¬ Asked settings (cacheRun settings outside world (events.take n)) f
  returned : ∀ (k : Nat) (task : CacheTask) keys,
    (cacheRun settings outside world events).tasks[k]? = some task → task.prog = .ret (some keys) →
      ∃ f began last, Brought settings (cacheRun settings outside world events) f began keys ∧
        lastReading task.log = some last ∧
        last - began < settings.provider.jwksTtlSeconds * microseconds ∧
        ∀ n, InvalidatesAt settings outside world events n →
          Unbegun (cacheRun settings outside world (events.take n)) k →
            ¬ Asked settings (cacheRun settings outside world (events.take n)) f

variable {settings outside world}

theorem run_snoc (events : List (Event CacheCall)) (event : Event CacheCall) :
    cacheRun settings outside world (events ++ [event]) =
      (cacheRun settings outside world events).step (authExec outside) AuthState.instant (serveCache settings)
        event := play_append _ _ _

theorem run_shaped (events : List (Event CacheCall)) :
    Shaped settings (cacheRun settings outside world events) := by
  induction events using List.reverseRecOn with
  | nil => exact nofun
  | append_singleton events event ih =>
      rw [run_snoc]
      exact shaped_step ih event

/-- An invalidation of the longer run is one of the shorter run, or its last event. -/
theorem invalidates_snoc {events : List (Event CacheCall)} {event : Event CacheCall} {n : Nat}
    (invalidates : InvalidatesAt settings outside world (events ++ [event]) n) :
    (InvalidatesAt settings outside world events n ∧ n < events.length ∧
        (events ++ [event]).take n = events.take n) ∨
      n = events.length ∧ (events ++ [event]).take n = events ∧
        ∃ i, event = .resume i ∧
          (cacheRun settings outside world events).tasks[i]? = some (pending settings) := by
  obtain ⟨i, at_, found⟩ := invalidates
  rcases Nat.lt_trichotomy n events.length with before | rfl | beyond
  · left
    rw [List.take_append_of_le_length (Nat.le_of_lt before)] at found ⊢
    rw [List.getElem?_append_left before] at at_
    exact ⟨⟨i, at_, found⟩, before, rfl⟩
  · right
    rw [List.take_left] at found ⊢
    simp only [List.getElem?_concat_length, Option.some.injEq] at at_
    exact ⟨rfl, rfl, i, at_, found⟩
  · rw [List.getElem?_eq_none] at at_
    · cases at_
    · simp only [List.length_append, List.length_singleton]
      omega

theorem undisturbed_before {events : List (Event CacheCall)} {event : Event CacheCall}
    (undisturbed : Undisturbed settings outside world (events ++ [event])) :
    Undisturbed settings outside world events := by
  rintro n later i ⟨m, at_, found⟩ order resumed asks asking
  have bound : later < events.length := (List.getElem?_eq_some_iff.mp resumed).1
  have first := @List.take_append_of_le_length _ events [event] n (Nat.le_of_lt (order.trans bound))
  have second := @List.take_append_of_le_length _ events [event] later (Nat.le_of_lt bound)
  have told := undisturbed n later i
  rw [InvalidatesAt, first, second, List.getElem?_append_left (order.trans bound),
    List.getElem?_append_left bound] at told
  exact told ⟨m, at_, found⟩ order resumed asks asking

/-- A call whose request was answered is over. -/
theorem ended_of_request {task : CacheTask} (shape : Shape settings task)
    {request : Int × Except PyError HttpResponse} (made : requestOf task.log = some request) :
    ¬ task.running := by
  cases shape with
  | finished log outcome => exact over_ended log outcome
  | invalidated log => exact fun ⟨_, _, left⟩ => by cases left
  | _ => cases made

theorem brought_step {pool : CachePool N} {f : Nat} {began : Int} {keys : Dict Json}
    (shaped : Shaped settings pool) (brought : Brought settings pool f began keys)
    (event : Event CacheCall) :
    Brought settings (pool.step (authExec outside) AuthState.instant (serveCache settings) event) f began keys := by
  obtain ⟨fetcher, answer, found, request, held⟩ := brought
  obtain ⟨later, found', _, same⟩ :=
    @step_place _ _ _ _ _ _ (authExec outside) AuthState.instant (serveCache settings) _ _ _ found event
  have stays := same (ended_of_request (shaped f fetcher found) request)
  subst stays
  exact ⟨later, answer, found', request, held⟩

/-- What a call returned earlier is as fresh as it was. -/
theorem returned_before {events : List (Event CacheCall)} (event : Event CacheCall)
    (fresh : Fresh settings outside world events) {k : Nat} {task : CacheTask} {keys : Dict Json}
    (found : (cacheRun settings outside world events).tasks[k]? = some task)
    (returned : task.prog = .ret (some keys)) :
    ∃ f began last, Brought settings (cacheRun settings outside world (events ++ [event])) f began keys ∧
      lastReading task.log = some last ∧
      last - began < settings.provider.jwksTtlSeconds * microseconds ∧
      ∀ n, InvalidatesAt settings outside world (events ++ [event]) n →
        Unbegun (cacheRun settings outside world ((events ++ [event]).take n)) k →
          ¬ Asked settings (cacheRun settings outside world ((events ++ [event]).take n)) f := by
  obtain ⟨f, began, last, brought, read, age, late⟩ := fresh.returned k task keys found returned
  refine ⟨f, began, last, ?_, read, age, fun n invalidates unbegun => ?_⟩
  · rw [run_snoc]
    exact brought_step (run_shaped events) brought event
  · rcases invalidates_snoc invalidates with ⟨earlier, _, same⟩ | ⟨_, same, _⟩
    · rw [same] at unbegun ⊢
      exact late n earlier unbegun
    · -- It had returned before this event.
      rw [same] at unbegun
      rw [unbegun task found] at read
      cases read

/-- What is in the cache stays as fresh as it was, unless the event invalidates it. -/
theorem cached_before {events : List (Event CacheCall)} {event : Event CacheCall}
    (fresh : Fresh settings outside world events) {keys : Dict Json}
    (held : (cacheRun settings outside world events).state.process.jwks.keys = some keys)
    (keeps : ∀ i, event = .resume i →
      (cacheRun settings outside world events).tasks[i]? ≠ some (pending settings)) :
    ∃ f, Brought settings (cacheRun settings outside world (events ++ [event])) f
        (cacheRun settings outside world events).state.process.jwks.fetchedAt keys ∧
      ∀ n, InvalidatesAt settings outside world (events ++ [event]) n →
        ¬ Asked settings (cacheRun settings outside world ((events ++ [event]).take n)) f := by
  obtain ⟨f, brought, recent⟩ := fresh.cached keys held
  refine ⟨f, ?_, fun n invalidates => ?_⟩
  · rw [run_snoc]
    exact brought_step (run_shaped events) brought event
  · rcases invalidates_snoc invalidates with ⟨earlier, _, same⟩ | ⟨_, _, i, resumed, found⟩
    · rw [same]
      exact recent n earlier
    · exact absurd found (keeps i resumed)

/-- The keys a call finds in the cache. -/
theorem found_fresh {events : List (Event CacheCall)} {event : Event CacheCall}
    (fresh : Fresh settings outside world events) {keys : Dict Json} {now : Int}
    (held : freshKeys settings (cacheRun settings outside world events).state.process.jwks now = some keys)
    (keeps : ∀ i, event = .resume i →
      (cacheRun settings outside world events).tasks[i]? ≠ some (pending settings)) :
    ∃ f began, Brought settings (cacheRun settings outside world (events ++ [event])) f began keys ∧
      now - began < settings.provider.jwksTtlSeconds * microseconds ∧
      ∀ n, InvalidatesAt settings outside world (events ++ [event]) n →
        ¬ Asked settings (cacheRun settings outside world ((events ++ [event]).take n)) f := by
  unfold freshKeys at held
  split at held
  · next cached there =>
      split at held
      · next age =>
          cases held
          obtain ⟨f, brought, recent⟩ := cached_before fresh there keeps
          exact ⟨f, _, brought, age, recent⟩
      · cases held
  · cases held

/-- The requests of a call that is asking at the last event. -/
theorem unasked_before {events : List (Event CacheCall)} {i : Nat} {task : CacheTask}
    (undisturbed : Undisturbed settings outside world (events ++ [Event.resume i]))
    (found : (cacheRun settings outside world events).tasks[i]? = some task)
    (asking : Asking settings task)
    (kept : documentOf settings
      (answered settings outside (cacheRun settings outside world events).state).1 ≠ none)
    (n : Nat) (invalidates : InvalidatesAt settings outside world (events ++ [Event.resume i]) n) :
    ¬ Asked settings (cacheRun settings outside world ((events ++ [Event.resume i]).take n)) i := by
  rintro ⟨before, present, asked⟩
  rcases invalidates_snoc invalidates with ⟨earlier, bound, same⟩ | ⟨_, same, j, resumed, pends⟩
  · rcases asked with asks | ⟨request, made⟩
    · apply kept
      have last : (events ++ [Event.resume i])[events.length]? = some (.resume i) := by simp
      have told := undisturbed n events.length i invalidates bound last ⟨before, present, asks⟩
      rw [List.take_left] at told
      exact told ⟨task, found, asking⟩
    · -- It would be over by now.
      rw [same] at present
      have ended := ended_of_request (run_shaped _ i before present) made
      have whole : cacheRun settings outside world events =
          (cacheRun settings outside world (events.take n)).play (authExec outside) AuthState.instant
            (serveCache settings) (events.drop n) := by
        rw [cacheRun, cacheRun, ← play_append, List.take_append_drop]
      obtain ⟨later, found', _, stays⟩ :=
        @play_place _ _ _ _ _ _ (authExec outside) AuthState.instant (serveCache settings) _ _ _ present (events.drop n)
      rw [← whole, found] at found'
      cases found'
      rw [stays ended] at asking
      obtain ⟨resume, left⟩ := asking
      exact ended ⟨_, _, left⟩
  · cases resumed
    rw [found] at pends
    cases pends
    obtain ⟨resume, left⟩ := asking
    cases left

/-- An event in which no call returns a key set. -/
theorem fresh_quiet {events : List (Event CacheCall)} {event : Event CacheCall}
    (fresh : Fresh settings outside world events)
    (cached : ∀ keys,
      (cacheRun settings outside world (events ++ [event])).state.process.jwks.keys = some keys →
        ((cacheRun settings outside world events).state.process.jwks.keys = some keys ∧
          (cacheRun settings outside world (events ++ [event])).state.process.jwks.fetchedAt =
            (cacheRun settings outside world events).state.process.jwks.fetchedAt ∧
          ∀ i, event = .resume i →
            (cacheRun settings outside world events).tasks[i]? ≠ some (pending settings)))
    (returned : ∀ (k : Nat) (task : CacheTask) keys,
      (cacheRun settings outside world (events ++ [event])).tasks[k]? = some task →
        task.prog = .ret (some keys) →
          (cacheRun settings outside world events).tasks[k]? = some task) :
    Fresh settings outside world (events ++ [event]) where
  cached := by
    intro keys held
    obtain ⟨there, same, keeps⟩ := cached keys held
    rw [same]
    exact cached_before fresh there keeps
  returned := fun k task keys found value =>
    returned_before event fresh (returned k task keys found value) value

/-- A call that returns the keys it finds in the cache. -/
theorem fresh_found {events : List (Event CacheCall)} {i : Nat} {after : AuthWorld N} {log : List Entry}
    {keys : Dict Json} {now : Int} (fresh : Fresh settings outside world events)
    (keeps : ∀ j, Event.resume i = (.resume j : Event CacheCall) →
      (cacheRun settings outside world events).tasks[j]? ≠ some (pending settings))
    (step : cacheRun settings outside world (events ++ [.resume i]) =
      ⟨after, (cacheRun settings outside world events).tasks.set i (finished log (.ok keys))⟩)
    (sameKeys : after.process.jwks.keys =
      (cacheRun settings outside world events).state.process.jwks.keys)
    (sameAge : after.process.jwks.fetchedAt =
      (cacheRun settings outside world events).state.process.jwks.fetchedAt)
    (held : freshKeys settings (cacheRun settings outside world events).state.process.jwks now = some keys)
    (read : lastReading log = some now) : Fresh settings outside world (events ++ [.resume i]) where
  cached := by
    intro kept there
    have before := cached_before fresh (by rw [← sameKeys, ← there, step]) keeps
    rw [step] at before ⊢
    rw [sameAge]
    exact before
  returned := by
    intro k task returned found value
    have place := found
    rw [step] at place
    rcases get_set place with ⟨rfl, rfl⟩ | ⟨_, before⟩
    · cases value
      obtain ⟨f, began, brought, age, recent⟩ := found_fresh fresh held keeps
      exact ⟨f, began, now, brought, read, age, fun n invalidates _ => recent n invalidates⟩
    · exact returned_before _ fresh before value

/-- No other call than the one that turns invalidates. -/
theorem keeps_unless {events : List (Event CacheCall)} {i : Nat} {task : CacheTask}
    (found : (cacheRun settings outside world events).tasks[i]? = some task) (different : task ≠ pending settings)
    (j : Nat) (resumed : Event.resume i = (.resume j : Event CacheCall)) :
    (cacheRun settings outside world events).tasks[j]? ≠ some (pending settings) := by
  cases resumed
  rw [found]
  exact fun same => different (Option.some.inj same)

/-- A turn after which its call returns no key set: what is returned was returned before. -/
theorem returned_silent {events : List (Event CacheCall)} {i : Nat} {next : CacheTask} {after : AuthWorld N}
    (step : cacheRun settings outside world (events ++ [.resume i]) =
      ⟨after, (cacheRun settings outside world events).tasks.set i next⟩)
    (silent : ∀ keys, next.prog ≠ .ret (some keys)) (k : Nat) (other : CacheTask) (keys : Dict Json)
    (present : (cacheRun settings outside world (events ++ [.resume i])).tasks[k]? = some other)
    (value : other.prog = .ret (some keys)) :
    (cacheRun settings outside world events).tasks[k]? = some other := by
  rw [step] at present
  rcases get_set present with ⟨_, rfl⟩ | ⟨_, before⟩
  · exact absurd value (silent keys)
  · exact before

/-- A call that returns no key set and leaves the cached one as it is. -/
theorem fresh_silent {events : List (Event CacheCall)} {i : Nat} {task next : CacheTask} {after : AuthWorld N}
    (fresh : Fresh settings outside world events)
    (found : (cacheRun settings outside world events).tasks[i]? = some task)
    (step : cacheRun settings outside world (events ++ [.resume i]) =
      ⟨after, (cacheRun settings outside world events).tasks.set i next⟩)
    (different : task ≠ pending settings)
    (sameKeys : after.process.jwks.keys = (cacheRun settings outside world events).state.process.jwks.keys)
    (sameAge : after.process.jwks.fetchedAt =
      (cacheRun settings outside world events).state.process.jwks.fetchedAt)
    (silent : ∀ keys, next.prog ≠ .ret (some keys)) : Fresh settings outside world (events ++ [.resume i]) := by
  apply fresh_quiet fresh
  · intro keys held
    rw [step] at held ⊢
    exact ⟨sameKeys.symm.trans held, sameAge, keeps_unless found different⟩
  · exact returned_silent step silent

theorem finished_document {log : List Entry} {document keys : Dict Json}
    (returned : (finished log (counted document)).prog = .ret (some keys)) : keys = document := by
  unfold finished handOver at returned
  dsimp only at returned
  split at returned
  · next counts =>
      cases returned
      exact counted_ok counts
  · cases returned

/-- A call that keeps what it has fetched, and returns it if it is a key set. -/
theorem fresh_kept (positive : 0 < settings.provider.jwksTtlSeconds) {events : List (Event CacheCall)} {i : Nat}
    {looked began : Int} {jwks jwks' : JwksState} {document : Dict Json} (fresh : Fresh settings outside world events)
    (undisturbed : Undisturbed settings outside world (events ++ [.resume i]))
    (found : (cacheRun settings outside world events).tasks[i]? = some (asking settings looked jwks began jwks'))
    (held : documentOf settings (answered settings outside (cacheRun settings outside world events).state).1 =
      some document)
    (step : cacheRun settings outside world (events ++ [.resume i]) =
      ⟨setLocked (keep (answered settings outside (cacheRun settings outside world events).state).2 document began)
          false,
        (cacheRun settings outside world events).tasks.set i
          (finished ((asking settings looked jwks began jwks').log ++
            [⟨.fetch settings.provider.jwksUrl,
                (answered settings outside (cacheRun settings outside world events).state).1⟩,
              ⟨.keepJwks document began, .ok ()⟩, ⟨.releaseLock, .ok ()⟩]) (counted document))⟩) :
    Fresh settings outside world (events ++ [.resume i]) := by
  have bound : i < (cacheRun settings outside world events).tasks.length :=
    (List.getElem?_eq_some_iff.mp found).1
  have asks : Asking settings (asking settings looked jwks began jwks') := ⟨_, rfl⟩
  have brought : Brought settings (cacheRun settings outside world (events ++ [.resume i])) i began document := by
    rw [step]
    exact ⟨_, _, List.getElem?_set_self bound, rfl, held⟩
  have succeeds : documentOf settings
      (answered settings outside (cacheRun settings outside world events).state).1 ≠ none := by
    rw [held]
    exact Option.some_ne_none document
  have recent := unasked_before undisturbed found asks succeeds
  constructor
  · intro keys there
    rw [step] at there ⊢
    cases there
    rw [step] at brought
    exact ⟨i, brought, recent⟩
  · intro k other keys present value
    have place := present
    rw [step] at place
    rcases get_set place with ⟨rfl, rfl⟩ | ⟨_, before⟩
    · obtain rfl := finished_document value
      -- The instant the request began at is the last one the call has read.
      refine ⟨k, began, began, brought, rfl, ?_, fun n invalidates _ => recent n invalidates⟩
      rw [Int.sub_self]
      exact Int.mul_pos positive (by decide)
    · exact returned_before _ fresh before value

theorem fresh_snoc (positive : 0 < settings.provider.jwksTtlSeconds) {events : List (Event CacheCall)}
    {event : Event CacheCall} (fresh : Fresh settings outside world events)
    (undisturbed : Undisturbed settings outside world (events ++ [event])) :
    Fresh settings outside world (events ++ [event]) := by
  have shaped := @run_shaped _ settings outside world events
  cases event with
  | start call =>
      apply fresh_quiet fresh
      · intro keys held
        rw [run_snoc] at held ⊢
        exact ⟨held, rfl, nofun⟩
      · intro k task keys found value
        rw [run_snoc] at found
        rcases get_start found with before | rfl
        · exact before
        · cases call <;> cases value
  | resume i =>
      -- A turn of nobody changes nothing, and any other is a move.
      rcases @resume_moves _ settings outside _ shaped i with
        ⟨nobody, same⟩ | ⟨task, next, after, found, move, step⟩
      · rw [← run_snoc] at same
        apply fresh_quiet fresh
        · intro keys held
          rw [same] at held ⊢
          refine ⟨held, rfl, fun j resumed => ?_⟩
          cases resumed
          rw [nobody]
          exact nofun
        · intro k task keys found value
          rw [same] at found
          exact found
      · rw [← run_snoc] at step
        cases move with
        | found keys held =>
            exact fresh_found fresh (keeps_unless found nofun) step rfl rfl held rfl
        | refused text => exact fresh_silent fresh found step nofun rfl rfl nofun
        | queues opened => exact fresh_silent fresh found step nofun rfl rfl nofun
        | takes looked jwks keys held =>
            exact fresh_found fresh (keeps_unless found nofun) step rfl rfl held rfl
        | asks looked jwks stale => exact fresh_silent fresh found step nofun rfl rfl nofun
        | keeps looked jwks began jwks' document held =>
            exact fresh_kept positive fresh undisturbed found held step
        | fails looked jwks began jwks' text missing =>
            apply fresh_silent fresh found step nofun
            · simp only [setLocked, close, AuthWorld.withJwks, answered_process]
            · simp only [setLocked, close, AuthWorld.withJwks, answered_process]
            · exact nofun
        | forgets =>
            constructor
            · intro keys there
              rw [step] at there
              cases there
            · intro k other keys present value
              exact returned_before _ fresh (returned_silent step nofun k other keys present value) value
        | idles _ ended =>
            rw [set_found found] at step
            apply fresh_quiet fresh
            · intro keys held
              rw [step] at held ⊢
              refine ⟨held, rfl, keeps_unless found fun same => ?_⟩
              rw [same] at ended
              exact ended ⟨_, _, rfl⟩
            · intro k other keys present _
              rw [step] at present
              exact present

/-- Where no request that is under way at an invalidation succeeds, a key set that a
call returns comes from a request that began less than the TTL before the last time the
call has read, and after every invalidation that the call has not begun before. -/
theorem returned_fresh (positive : 0 < settings.provider.jwksTtlSeconds)
    (cold : world.process.jwks.keys = none) (events : List (Event CacheCall))
    (undisturbed : Undisturbed settings outside world events) (k : Nat) (task : CacheTask)
    (keys : Dict Json) (found : (cacheRun settings outside world events).tasks[k]? = some task)
    (returned : task.prog = .ret (some keys)) :
    ∃ f began last, Brought settings (cacheRun settings outside world events) f began keys ∧
      lastReading task.log = some last ∧
      last - began < settings.provider.jwksTtlSeconds * microseconds ∧
      ∀ n, InvalidatesAt settings outside world events n →
        Unbegun (cacheRun settings outside world (events.take n)) k →
          ¬ Asked settings (cacheRun settings outside world (events.take n)) f := by
  have fresh : Fresh settings outside world events := by
    clear found
    induction events using List.reverseRecOn with
    | nil =>
        constructor
        · intro keys held
          have same : (cacheRun settings outside world []).state.process.jwks.keys = none := cold
          rw [same] at held
          cases held
        · exact nofun
    | append_singleton events event ih =>
        exact fresh_snoc positive (ih (undisturbed_before undisturbed)) undisturbed
  exact fresh.returned k task keys found returned

/-! An endpoint that publishes one key, and calls around an invalidation. -/

def publishedKeys : Json := .obj [("keys", .arr [.obj [("kid", .str "old")]])]

def publishingAuth : AuthOutside Int :=
  { storeFails := fun _ state => (none, state)
    fetch := fun _ state => (.ok { status := 200, text := "", json := .ok publishedKeys }, state)
    clock := fun state => (0, state)
    monotonic := fun state => (state, state + 1000000)
    uuid4 := fun state => ("00000000-0000-4000-8000-000000000000", state)
    tokenUrlsafe := fun _ state => ("password", state)
    hashPassword := fun password state => (password, state) }

def coldWorld : AuthWorld Int :=
  { store := .empty
    process :=
      { jwks := { keys := none, fetchedAt := 0, negativeUntil := 0, locked := false }
        disableState := .pending
        events := ∅ }
    outside := 0 }

def calls (events : List (Event CacheCall)) : CachePool Int :=
  cacheRun Verification.sampleAuth publishingAuth coldWorld events

/-- Whether no request is under way at any invalidation. -/
def quietCheck (events : List (Event CacheCall)) : Bool :=
  (List.range events.length).all fun n =>
    match events[n]? with
    | some (.resume i) =>
        match (calls (events.take n)).tasks[i]? with
        | some ⟨.invalidate, [], _⟩ => (calls (events.take n)).tasks.all fun task => !askingCheck task
        | _ => true
    | _ => true

theorem undisturbed_of_check (events : List (Event CacheCall)) (checked : quietCheck events = true) :
    Undisturbed Verification.sampleAuth publishingAuth coldWorld events := by
  rintro n later i ⟨m, at_, found⟩ order resumed ⟨task, present, asks⟩
  have bound : n < events.length := (List.getElem?_eq_some_iff.mp at_).1
  have quiet := List.all_eq_true.mp checked n (List.mem_range.mpr bound)
  unfold calls at quiet
  rw [at_] at quiet
  dsimp only at quiet
  rw [found] at quiet
  have idle := List.all_eq_true.mp quiet task (List.mem_of_getElem? present)
  rw [asking_checked asks] at idle
  cases idle

/-- A call, an invalidation, and a call after it. -/
def separateCalls : List (Event CacheCall) :=
  [.start .getKeys, .resume 0, .resume 0, .resume 0, .start .invalidate, .start .getKeys, .resume 1,
    .resume 2, .resume 2, .resume 2]

/-- The second call returns what it has fetched itself. -/
theorem separate_calls_fresh :
    ∃ f began, Brought Verification.sampleAuth (calls separateCalls) f began
        (Dict.ofList [("keys", .arr [.obj [("kid", .str "old")]])]) ∧
      ¬ Asked Verification.sampleAuth (calls (separateCalls.take 6)) f := by
  have invalidates : InvalidatesAt Verification.sampleAuth publishingAuth coldWorld separateCalls 6 :=
    ⟨1, rfl, rfl⟩
  obtain ⟨f, began, last, brought, _, _, late⟩ := returned_fresh (by decide) rfl separateCalls
    (undisturbed_of_check separateCalls rfl) 2 _ _ rfl rfl
  refine ⟨f, began, brought, late 6 invalidates ?_⟩
  intro task found
  cases found
  rfl

/-- A call whose request is under way at an invalidation, and a call after it. -/
def crossedCalls : List (Event CacheCall) :=
  [.start .getKeys, .resume 0, .resume 0, .start .invalidate, .start .getKeys, .resume 1, .resume 0,
    .resume 2]

/-- The call that begins after the invalidation returns what was asked for before it. -/
theorem crossed_calls_stale :
    Disciplined (authExec publishingAuth) AuthState.instant (serveCache Verification.sampleAuth)
        LockFree ⟨coldWorld, []⟩ crossedCalls ∧
      InvalidatesAt Verification.sampleAuth publishingAuth coldWorld crossedCalls 5 ∧
      Unbegun (calls (crossedCalls.take 5)) 2 ∧
      ∃ task keys, (calls crossedCalls).tasks[2]? = some task ∧ task.prog = .ret (some keys) ∧
        ∀ f began, Brought Verification.sampleAuth (calls crossedCalls) f began keys →
          Asked Verification.sampleAuth (calls (crossedCalls.take 5)) f := by
  have checked : along (authExec publishingAuth) AuthState.instant (serveCache Verification.sampleAuth) lockCheck
      ⟨coldWorld, []⟩ crossedCalls = true := rfl
  refine ⟨disciplined_of_along _ _ checked free_of_check, ⟨1, rfl, rfl⟩, ?_, _, _, rfl, rfl, ?_⟩
  · intro task found
    cases found
    rfl
  · rintro f began ⟨fetcher, answer, found, request, _⟩
    match f with
    | 0 => exact ⟨_, rfl, .inl ⟨_, rfl⟩⟩
    | 1 =>
        cases found
        cases request
    | 2 =>
        cases found
        cases request
    | f + 3 => cases found

end Lehen.Freshness
