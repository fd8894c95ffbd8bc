import Lehen.CacheCalls
import Lehen.Verification

/-!
How often the JWKS endpoint is asked. A request keeps the next one away for the time
its answer says, where nobody waits for the lock when a request fails.
-/

namespace Lehen.Windows

open AuthState Jwks Schedule CacheTurns CacheCalls
open Storage (HttpResponse)

variable {N : Type} (settings : AuthSettings) (outside : AuthOutside N) (time : N → Int)

/-- How long an answer keeps the next request away. -/
def window (answer : Except PyError HttpResponse) : Int :=
  match documentOf settings answer with
  | some _ => settings.provider.jwksTtlSeconds * microseconds
  | none => negativeTtlSeconds * microseconds

/-- An event of `getKeys` calls. -/
def Uninvalidated (event : Event CacheCall) : Prop := event ≠ .start .invalidate

/-- A request fails only while nobody waits for the lock. -/
def Unwaited (pool : CachePool N) (event : Event CacheCall) : Prop :=
  ∀ i task, event = .resume i → pool.tasks[i]? = some task → Asking settings task →
    documentOf settings (answered settings outside pool.state).1 = none →
      ∀ other ∈ pool.tasks, ¬ Waiting other

/-! The invariant. -/

/-- Every request that was answered is one the instant is late enough for. -/
def Clear (pool : CachePool N) (now : Int) : Prop :=
  ∀ (j : Nat) (task : CacheTask) began answer, pool.tasks[j]? = some task →
    requestOf task.log = some (began, answer) → began ≤ now ∧ began + window settings answer ≤ now

/-- The same of the requests that failed. -/
def Open (pool : CachePool N) (now : Int) : Prop :=
  ∀ (j : Nat) (task : CacheTask) began answer, pool.tasks[j]? = some task →
    requestOf task.log = some (began, answer) → documentOf settings answer = none →
      began + window settings answer ≤ now

/-- The cache knows of a request. -/
def Stored (jwks : JwksState) (began : Int) (answer : Except PyError HttpResponse) : Prop :=
  match documentOf settings answer with
  | some _ => (∃ keys, jwks.keys = some keys) ∧ began ≤ jwks.fetchedAt
  | none => began + negativeTtlSeconds * microseconds ≤ jwks.negativeUntil

structure Windowed (pool : CachePool N) : Prop where
  shaped : Shaped settings pool
  calls : ∀ (j : Nat) (task : CacheTask), pool.tasks[j]? = some task → task.request = .getKeys
  early : ∀ (j : Nat) (task : CacheTask) now, pool.tasks[j]? = some task →
    lastReading task.log = some now → now ≤ time pool.state.outside
  stored : ∀ (j : Nat) (task : CacheTask) began answer, pool.tasks[j]? = some task →
    requestOf task.log = some (began, answer) → Stored settings pool.state.process.jwks began answer
  waits : ∀ (j : Nat) (task : CacheTask) now, pool.tasks[j]? = some task → Waiting task →
    lastReading task.log = some now → Open settings pool now
  clear : ∀ (j : Nat) (task : CacheTask) now, pool.tasks[j]? = some task → Asking settings task →
    lastReading task.log = some now → Clear settings pool now
  held : ∀ (j : Nat) (task : CacheTask), pool.tasks[j]? = some task → Asking settings task →
    pool.state.process.jwks.locked = true
  alone : pool.Exclusive (Asking settings)

variable {settings outside time}

theorem request_read {log : List Entry} {began : Int} {answer : Except PyError HttpResponse}
    (request : requestOf log = some (began, answer)) : lastReading log = some began := by
  unfold requestOf at request
  split at request
  · next now found read _ =>
      cases request
      exact read
  · cases request

/-- Requests of the pool after a move that brings none to its end. -/
theorem requests_before {pool : CachePool N} {i : Nat} {task next : CacheTask} {after : AuthWorld N}
    (found : pool.tasks[i]? = some task)
    (none_new : ∀ began answer, requestOf next.log = some (began, answer) →
      requestOf task.log = some (began, answer))
    {j : Nat} {other : CacheTask} {began : Int} {answer : Except PyError HttpResponse}
    (present : (⟨after, pool.tasks.set i next⟩ : CachePool N).tasks[j]? = some other)
    (request : requestOf other.log = some (began, answer)) :
    ∃ (k : Nat) (third : CacheTask), pool.tasks[k]? = some third ∧
      requestOf third.log = some (began, answer) := by
  rcases get_set present with ⟨_, rfl⟩ | ⟨_, before⟩
  · exact ⟨i, task, found, none_new began answer request⟩
  · exact ⟨j, other, before, request⟩

/-- A move that stores nothing. It may take or give back the lock. -/
theorem windowed_quiet {pool : CachePool N} {i : Nat} {task next : CacheTask} {after : AuthWorld N}
    (windowed : Windowed settings time pool) (found : pool.tasks[i]? = some task)
    (shape : Shape settings next) (call : next.request = .getKeys)
    (later : time pool.state.outside ≤ time after.outside)
    (same : ∃ locked, after.process.jwks = { pool.state.process.jwks with locked })
    (lock : ∀ (j : Nat) (other : CacheTask), j ≠ i → pool.tasks[j]? = some other →
      Asking settings other → after.process.jwks.locked = true)
    (read : ∀ now, lastReading next.log = some now → now ≤ time after.outside)
    (none_new : ∀ began answer, requestOf next.log = some (began, answer) →
      requestOf task.log = some (began, answer))
    (waits : Waiting next → ∀ now, lastReading next.log = some now → Open settings pool now)
    (asks : Asking settings next → after.process.jwks.locked = true ∧
      (∀ now, lastReading next.log = some now → Clear settings pool now) ∧
      ∀ (j : Nat) (other : CacheTask), j ≠ i → pool.tasks[j]? = some other → ¬ Asking settings other) :
    Windowed settings time ⟨after, pool.tasks.set i next⟩ := by
  have stored {began : Int} {answer : Except PyError HttpResponse}
      (known : Stored settings pool.state.process.jwks began answer) :
      Stored settings after.process.jwks began answer := by
    obtain ⟨locked, jwks⟩ := same
    rw [jwks]
    exact known
  constructor
  · intro j other present
    rcases get_set present with ⟨_, rfl⟩ | ⟨_, before⟩
    · exact shape
    · exact windowed.shaped j other before
  · intro j other present
    rcases get_set present with ⟨_, rfl⟩ | ⟨_, before⟩
    · exact call
    · exact windowed.calls j other before
  · intro j other now present reading
    rcases get_set present with ⟨_, rfl⟩ | ⟨_, before⟩
    · exact read now reading
    · exact (windowed.early j other now before reading).trans later
  · intro j other began answer present request
    obtain ⟨k, third, before, request⟩ := requests_before found none_new present request
    exact stored (windowed.stored k third began answer before request)
  · intro j other now present waiting reading k third began answer present' request missing
    obtain ⟨l, fourth, before', request⟩ := requests_before found none_new present' request
    rcases get_set present with ⟨_, rfl⟩ | ⟨_, before⟩
    · exact waits waiting now reading l fourth began answer before' request missing
    · exact windowed.waits j other now before waiting reading l fourth began answer before' request missing
  · intro j other now present asking reading k third began answer present' request
    obtain ⟨l, fourth, before', request⟩ := requests_before found none_new present' request
    rcases get_set present with ⟨_, rfl⟩ | ⟨_, before⟩
    · exact (asks asking).2.1 now reading l fourth began answer before' request
    · exact windowed.clear j other now before asking reading l fourth began answer before' request
  · intro j other present asking
    rcases get_set present with ⟨_, rfl⟩ | ⟨different, before⟩
    · exact (asks asking).1
    · exact lock j other different before asking
  · intro j k other third present present' asking asking'
    rcases get_set present with ⟨rfl, rfl⟩ | ⟨different, before⟩
    · rcases get_set present' with ⟨rfl, _⟩ | ⟨different', before'⟩
      · rfl
      · exact absurd asking' ((asks asking).2.2 k third different' before')
    · rcases get_set present' with ⟨rfl, rfl⟩ | ⟨_, before'⟩
      · exact absurd asking ((asks asking').2.2 j other different before)
      · exact windowed.alone j k other third before before' asking asking'

/-- A move that brings the request of the call to its end. -/
theorem windowed_answered {pool : CachePool N} {i : Nat} {task next : CacheTask} {after : AuthWorld N}
    {began : Int} {answer : Except PyError HttpResponse}
    (windowed : Windowed settings time pool) (found : pool.tasks[i]? = some task)
    (asking : Asking settings task) (begun : lastReading task.log = some began)
    (shape : Shape settings next) (call : next.request = .getKeys) (ended : ¬ next.running)
    (later : time pool.state.outside ≤ time after.outside)
    (request : requestOf next.log = some (began, answer))
    (stored : ∀ began' answer', (began' = began ∧ answer' = answer) ∨
      (began' ≤ began ∧ Stored settings pool.state.process.jwks began' answer') →
        Stored settings after.process.jwks began' answer')
    (unwaited : documentOf settings answer = none → ∀ other ∈ pool.tasks, ¬ Waiting other) :
    Windowed settings time ⟨after, pool.tasks.set i next⟩ := by
  -- The request was clear of every earlier one when it began.
  have cleared := windowed.clear i task began found asking begun
  have nobody (j : Nat) (other : CacheTask)
      (present : (⟨after, pool.tasks.set i next⟩ : CachePool N).tasks[j]? = some other) :
      ¬ Asking settings other := by
    intro asks
    rcases get_set present with ⟨_, rfl⟩ | ⟨different, before⟩
    · obtain ⟨resume, left⟩ := asks
      exact ended ⟨_, _, left⟩
    · exact different (windowed.alone j i other task before found asks asking)
  constructor
  · intro j other present
    rcases get_set present with ⟨_, rfl⟩ | ⟨_, before⟩
    · exact shape
    · exact windowed.shaped j other before
  · intro j other present
    rcases get_set present with ⟨_, rfl⟩ | ⟨_, before⟩
    · exact call
    · exact windowed.calls j other before
  · intro j other now present reading
    rcases get_set present with ⟨_, rfl⟩ | ⟨_, before⟩
    · have same := request_read request
      rw [reading] at same
      cases same
      exact (windowed.early i task _ found begun).trans later
    · exact (windowed.early j other now before reading).trans later
  · intro j other began' answer' present request'
    apply stored
    rcases get_set present with ⟨_, rfl⟩ | ⟨_, before⟩
    · rw [request] at request'
      cases request'
      exact .inl ⟨rfl, rfl⟩
    · right
      exact ⟨(cleared j other began' answer' before request').1,
        windowed.stored j other began' answer' before request'⟩
  · intro j other now present waiting reading k third began' answer' present' request' missing
    have before : pool.tasks[j]? = some other := by
      rcases get_set present with ⟨_, rfl⟩ | ⟨_, before⟩
      · obtain ⟨resume, left⟩ := waiting
        exact absurd ⟨_, _, left⟩ ended
      · exact before
    rcases get_set present' with ⟨_, rfl⟩ | ⟨_, before'⟩
    · rw [request] at request'
      cases request'
      -- Nobody waits for a request that fails.
      exact absurd waiting (unwaited missing other (List.mem_of_getElem? before))
    · exact windowed.waits j other now before waiting reading k third began' answer' before' request' missing
  · intro j other now present asks
    exact absurd asks (nobody j other present)
  · intro j other present asks
    exact absurd asks (nobody j other present)
  · intro j k other third present _ asks
    exact absurd asks (nobody j other present)

theorem ticked_later (monotone : Monotone outside time) (world : AuthWorld N) :
    reading outside world ≤ time (ticked outside world).outside ∧
      time world.outside ≤ time (ticked outside world).outside := by
  have late := monotone.late world.outside
  exact ⟨late, (monotone.early world.outside).trans late⟩

/-- The keys a call finds too old were fetched a whole window ago. -/
theorem clear_of_stale {pool : CachePool N} {now : Int} (windowed : Windowed settings time pool)
    (stale : freshKeys settings pool.state.process.jwks now = none)
    (later : time pool.state.outside ≤ now) (opened : Open settings pool now) :
    Clear settings pool now := by
  intro j task began answer present request
  have begun := windowed.early j task began present (request_read request)
  refine ⟨begun.trans later, ?_⟩
  cases held : documentOf settings answer with
  | none => exact opened j task began answer present request held
  | some document =>
      have known := windowed.stored j task began answer present request
      rw [Stored, held] at known
      obtain ⟨⟨keys, cached⟩, order⟩ := known
      rw [freshKeys, cached] at stale
      dsimp only at stale
      split at stale
      · cases stale
      · rw [window, held]
        dsimp only
        omega

/-- A call that has not begun has read nothing and waits for nobody. -/
theorem windowed_start {pool : CachePool N} (windowed : Windowed settings time pool) :
    Windowed settings time
      (pool.step (authExec outside) AuthState.instant (serveCache settings) (.start .getKeys)) := by
  have idle : ¬ Asking settings (fresh settings) ∧ ¬ Waiting (fresh settings) := by
    constructor <;> (rintro ⟨_, left⟩; cases left)
  have before {j : Nat} {task : CacheTask} {began : Int} {answer : Except PyError HttpResponse}
      (present : (pool.step (authExec outside) AuthState.instant (serveCache settings)
        (.start .getKeys)).tasks[j]? = some task)
      (request : requestOf task.log = some (began, answer)) : pool.tasks[j]? = some task := by
    rcases get_start present with before | rfl
    · exact before
    · cases request
  constructor
  · exact shaped_step windowed.shaped _
  · intro j task present
    rcases get_start present with before | rfl
    · exact windowed.calls j task before
    · rfl
  · intro j task now present read
    rcases get_start present with before | rfl
    · exact windowed.early j task now before read
    · cases read
  · intro j task began answer present request
    exact windowed.stored j task began answer (before present request) request
  · intro j task now present waiting read k other began answer present' request missing
    rcases get_start present with earlier | rfl
    · exact windowed.waits j task now earlier waiting read k other began answer
        (before present' request) request missing
    · exact absurd waiting idle.2
  · intro j task now present asking read k other began answer present' request
    rcases get_start present with earlier | rfl
    · exact windowed.clear j task now earlier asking read k other began answer
        (before present' request) request
    · exact absurd asking idle.1
  · intro j task present asking
    rcases get_start present with earlier | rfl
    · exact windowed.held j task earlier asking
    · exact absurd asking idle.1
  · exact exclusive_start windowed.alone idle.1

/-- A call that is over neither asks nor waits. -/
theorem finished_rests (log : List Entry) (outcome : Except PyError (Dict Json)) :
    ¬ Asking settings (finished log outcome) ∧ ¬ Waiting (finished log outcome) := by
  constructor
  · rintro ⟨resume, left⟩
    exact over_ended log outcome ⟨_, _, left⟩
  · rintro ⟨resume, left⟩
    exact over_ended log outcome ⟨_, _, left⟩

/-- A call that ends without a request. -/
theorem windowed_ended {pool : CachePool N} {i : Nat} {task : CacheTask} {log : List Entry}
    {outcome : Except PyError (Dict Json)} {after : AuthWorld N}
    (windowed : Windowed settings time pool) (found : pool.tasks[i]? = some task)
    (later : time pool.state.outside ≤ time after.outside)
    (same : ∃ locked, after.process.jwks = { pool.state.process.jwks with locked })
    (lock : ∀ (j : Nat) (other : CacheTask), pool.tasks[j]? = some other → Asking settings other →
      after.process.jwks.locked = true)
    (read : ∀ now, lastReading log = some now → now ≤ time after.outside)
    (unasked : requestOf log = none) :
    Windowed settings time ⟨after, pool.tasks.set i (finished log outcome)⟩ := by
  obtain ⟨unasking, unwaiting⟩ := @finished_rests settings log outcome
  apply windowed_quiet windowed found (.finished log outcome) rfl later same
  · exact fun j other _ => lock j other
  · exact read
  · intro began answer request
    cases unasked.symm.trans request
  · exact fun waiting => absurd waiting unwaiting
  · exact fun asking => absurd asking unasking

/-- A call that waits is woken while no request is under way. -/
theorem unlocked {pool : CachePool N} {i : Nat} {task : CacheTask} (windowed : Windowed settings time pool)
    (free : LockFree pool (.resume i)) (found : pool.tasks[i]? = some task) (waiting : Waiting task)
    (j : Nat) (other : CacheTask) (present : pool.tasks[j]? = some other) : ¬ Asking settings other := by
  intro asking
  have held := windowed.held j other present asking
  rw [free i task rfl found waiting] at held
  cases held

/-- A request that begins under the lock: the call looked in vain for a window before
it began to wait, and time has passed. -/
theorem windowed_asks (monotone : Monotone outside time) {pool : CachePool N} {i : Nat} {looked : Int}
    {jwks : JwksState} (windowed : Windowed settings time pool) (free : LockFree pool (.resume i))
    (found : pool.tasks[i]? = some (queued settings looked jwks))
    (stale : freshKeys settings pool.state.process.jwks (reading outside pool.state) = none) :
    Windowed settings time ⟨setLocked (ticked outside pool.state) true, pool.tasks.set i
      (asking settings looked jwks (reading outside pool.state) (setLocked pool.state true).process.jwks)⟩ := by
  have ticks := ticked_later monotone pool.state
  have early := monotone.early pool.state.outside
  have waiting : Waiting (queued settings looked jwks) := ⟨_, rfl⟩
  apply windowed_quiet windowed found (.asking ..) rfl
  · exact ticks.2
  · exact ⟨true, rfl⟩
  · exact fun j other _ before asking => absurd asking (unlocked windowed free found waiting j other before)
  · intro now read
    cases read
    exact ticks.1
  · intro began answer request
    cases request
  · rintro ⟨_, left⟩
    cases left
  · intro _
    refine ⟨rfl, ?_, fun j other _ before => unlocked windowed free found waiting j other before⟩
    intro now read
    cases read
    apply clear_of_stale windowed stale early
    intro j other began answer present request missing
    have opened := windowed.waits i _ looked found waiting rfl j other began answer present request missing
    exact opened.trans ((windowed.early i _ looked found rfl).trans early)

/-- The keys are as new as any request the cache knew of. -/
theorem stored_keep {world : AuthWorld N} {began now : Int} {answer : Except PyError HttpResponse}
    (document : Dict Json) (order : began ≤ now) (known : Stored settings world.process.jwks began answer) :
    Stored settings (setLocked (keep world document now) false).process.jwks began answer := by
  unfold Stored at known ⊢
  split
  · exact ⟨⟨document, rfl⟩, order⟩
  · next missing =>
      rw [missing] at known
      exact known

/-- The window ends no earlier than any window the cache knew of. -/
theorem stored_close {world : AuthWorld N} {began now : Int} {answer : Except PyError HttpResponse}
    (order : began ≤ now) (known : Stored settings world.process.jwks began answer) :
    Stored settings (setLocked (close world now) false).process.jwks began answer := by
  unfold Stored at known ⊢
  split
  · next held =>
      rw [held] at known
      exact known
  · simp only [setLocked, close, AuthWorld.withJwks]
    omega

theorem windowed_step (monotone : Monotone outside time) {pool : CachePool N}
    {event : Event CacheCall} (windowed : Windowed settings time pool)
    (free : LockFree pool event) (uninvalidated : Uninvalidated event)
    (unwaited : Unwaited settings outside pool event) :
    Windowed settings time
      (pool.step (authExec outside) AuthState.instant (serveCache settings) event) := by
  cases event with
  | start call =>
      cases call with
      | getKeys => exact windowed_start windowed
      | invalidate => exact absurd rfl uninvalidated
  | resume i =>
      rcases resume_moves windowed.shaped i with ⟨_, same⟩ | ⟨task, next, after, found, move, step⟩
      · rw [same]
        exact windowed
      · rw [step]
        have shape := shape_moved move (windowed.shaped i task found)
        have ticks := ticked_later monotone pool.state
        have answers : time pool.state.outside ≤ time (answered settings outside pool.state).2.outside :=
          fetched_later monotone pool.state
        have unread {now : Int} (read : some (reading outside pool.state) = some now) :
            now ≤ time (ticked outside pool.state).outside := by
          cases read
          exact ticks.1
        cases move with
        | found keys held =>
            exact windowed_ended windowed found ticks.2 ⟨_, rfl⟩ windowed.held (fun _ => unread) rfl
        | refused text =>
            exact windowed_ended windowed found ticks.2 ⟨_, rfl⟩ windowed.held (fun _ => unread) rfl
        | queues opened =>
            apply windowed_quiet windowed found shape rfl
            · exact ticks.2
            · exact ⟨_, rfl⟩
            · exact fun j other _ before asking => windowed.held j other before asking
            · exact fun _ => unread
            · intro began answer request
              cases request
            · intro _ now read j other began answer present request missing
              cases read
              -- It has found no window open, so it waits behind none.
              have known := windowed.stored j other began answer present request
              rw [Stored, missing] at known
              rw [window, missing]
              exact known.trans opened
            · rintro ⟨_, left⟩
              cases left
        | takes looked jwks keys held =>
            apply windowed_ended windowed found
            · exact ticks.2
            · exact ⟨false, rfl⟩
            · exact fun j other before asking => absurd asking (unlocked windowed free found ⟨_, rfl⟩ j other before)
            · exact fun _ => unread
            · rfl
        | asks looked jwks stale => exact windowed_asks monotone windowed free found stale
        | keeps looked jwks began jwks' document held =>
            apply windowed_answered windowed found ⟨_, rfl⟩ rfl shape rfl (over_ended _ _)
            · exact answers
            · rfl
            · rintro began' answer' (⟨rfl, rfl⟩ | ⟨order, known⟩)
              · rw [Stored, held]
                exact ⟨⟨document, rfl⟩, le_refl _⟩
              · apply stored_keep document order
                rw [answered_process]
                exact known
            · intro missing
              rw [held] at missing
              cases missing
        | fails looked jwks began jwks' text missing =>
            apply windowed_answered windowed found ⟨_, rfl⟩ rfl shape rfl (over_ended _ _)
            · exact answers
            · rfl
            · rintro began' answer' (⟨rfl, rfl⟩ | ⟨order, known⟩)
              · rw [Stored, missing]
                exact le_refl _
              · apply stored_close order
                rw [answered_process]
                exact known
            · exact fun _ => unwaited i _ rfl found ⟨_, rfl⟩ missing
        | forgets =>
            have call := windowed.calls i _ found
            cases call
        | idles _ ended =>
            apply windowed_quiet windowed found shape (windowed.calls i task found) (le_refl _) ⟨_, rfl⟩
            · exact fun j other _ before asking => windowed.held j other before asking
            · exact fun now read => windowed.early i task now found read
            · exact fun began answer request => request
            · rintro ⟨_, left⟩
              exact absurd ⟨_, _, left⟩ ended
            · rintro ⟨_, left⟩
              exact absurd ⟨_, _, left⟩ ended

/-- Where nobody waits for the lock when a request fails, requests to the endpoint are
a window apart: one that is under way began when the window of every earlier one had
passed, and it is the only one. -/
theorem requests_apart (monotone : Monotone outside time) {world : AuthWorld N} (events : List (Event CacheCall))
    (disciplined : Disciplined (authExec outside) AuthState.instant (serveCache settings)
      (fun pool event => LockFree pool event ∧ Uninvalidated event ∧ Unwaited settings outside pool event)
      ⟨world, []⟩ events) (i : Nat) (asker : CacheTask) (now : Int)
    (found : (cacheRun settings outside world events).tasks[i]? = some asker)
    (asking : Asking settings asker) (begun : lastReading asker.log = some now) :
    (∀ (j : Nat) (task : CacheTask) began answer,
        (cacheRun settings outside world events).tasks[j]? = some task →
          requestOf task.log = some (began, answer) → began + window settings answer ≤ now) ∧
      ∀ (j : Nat) (task : CacheTask),
        (cacheRun settings outside world events).tasks[j]? = some task → Asking settings task → j = i := by
  have nothing (j : Nat) (task : CacheTask) : (⟨world, []⟩ : CachePool N).tasks[j]? ≠ some task := nofun
  have started : Windowed settings time (⟨world, []⟩ : CachePool N) := by
    constructor
    · exact fun j task found => absurd found (nothing j task)
    · exact fun j task found => absurd found (nothing j task)
    · exact fun j task _ found => absurd found (nothing j task)
    · exact fun j task _ _ found => absurd found (nothing j task)
    · exact fun j task _ found => absurd found (nothing j task)
    · exact fun j task _ found => absurd found (nothing j task)
    · exact fun j task found => absurd found (nothing j task)
    · exact exclusive_empty _ _
  have windowed : Windowed settings time (cacheRun settings outside world events) := by
    apply play_kept (Windowed settings time) _ events disciplined started
    exact fun pool event windowed permitted =>
      windowed_step monotone windowed permitted.1 permitted.2.1 permitted.2.2
  constructor
  · intro j task began answer present request
    exact (windowed.clear i asker now found asking begun j task began answer present request).2
  · exact fun j task present asks => windowed.alone j i task asker present found asks asking

/-! An endpoint that is out of reach. -/

/-- A clock that goes on by a step whenever it is read. -/
def tickingAuth (step : Nat) : AuthOutside Int :=
  { storeFails := fun _ state => (none, state)
    fetch := fun _ state => (.error "connection refused", state)
    clock := fun state => (0, state)
    monotonic := fun state => (state, state + step)
    uuid4 := fun state => ("00000000-0000-4000-8000-000000000000", state)
    tokenUrlsafe := fun _ state => ("password", state)
    hashPassword := fun password state => (password, state) }

theorem ticking_monotone (step : Nat) : Monotone (tickingAuth step) id where
  early := fun state => le_refl state
  late := fun state => by simp [tickingAuth]
  fetched := fun _ state => le_refl state

def coldProcess : Process :=
  { jwks := { keys := none, fetchedAt := 0, negativeUntil := 0, locked := false }
    disableState := .pending
    events := ∅ }

def coldWorld : AuthWorld Int := ⟨.empty, coldProcess, 0⟩

def call : Event CacheCall := .start .getKeys

def calls (step : Nat) (events : List (Event CacheCall)) : CachePool Int :=
  cacheRun Verification.sampleAuth (tickingAuth step) coldWorld events

/-- A call fails, one falls into its window, and one comes after it. -/
def patientCalls : List (Event CacheCall) :=
  [call, .resume 0, .resume 0, .resume 0, call, .resume 1, call, .resume 2, .resume 2]

def waitingCheck (task : CacheTask) : Bool :=
  match task.prog with
  | .await .acquireLock _ => true
  | _ => false

def unwaitedCheck (pool : CachePool Int) : Event CacheCall → Bool
  | .start call => match call with
    | .getKeys => true
    | .invalidate => false
  | .resume i =>
      match pool.tasks[i]? with
      | some task => !askingCheck task || pool.tasks.all fun other => !waitingCheck other
      | none => true

theorem unwaited_of_check (step : Nat) (pool : CachePool Int) (event : Event CacheCall)
    (checked : unwaitedCheck pool event = true) :
    Uninvalidated event ∧ Unwaited Verification.sampleAuth (tickingAuth step) pool event := by
  constructor
  · rintro rfl
    cases checked
  · rintro i task rfl found ⟨resume, left⟩ _ other member ⟨_, waits⟩
    have asks : askingCheck task = true := @asking_checked Verification.sampleAuth task ⟨resume, left⟩
    rw [unwaitedCheck, found] at checked
    simp only [asks, Bool.not_true, Bool.false_or] at checked
    have idle := List.all_eq_true.mp checked other member
    rw [waitingCheck, waits] at idle
    cases idle

theorem patient_calls_apart :
    ∃ asker, (calls 20000000 patientCalls).tasks[2]? = some asker ∧
      Asking Verification.sampleAuth asker ∧ lastReading asker.log = some 80000000 ∧
      ∀ (j : Nat) (task : CacheTask) began answer,
        (calls 20000000 patientCalls).tasks[j]? = some task →
          requestOf task.log = some (began, answer) →
            began + window Verification.sampleAuth answer ≤ 80000000 := by
  have disciplined : Disciplined (authExec (tickingAuth 20000000)) AuthState.instant
      (serveCache Verification.sampleAuth)
      (fun pool event => LockFree pool event ∧ Uninvalidated event ∧
        Unwaited Verification.sampleAuth (tickingAuth 20000000) pool event)
      ⟨coldWorld, []⟩ patientCalls := by
    have checked : along (authExec (tickingAuth 20000000)) AuthState.instant (serveCache Verification.sampleAuth)
        (fun pool event => lockCheck pool event && unwaitedCheck pool event)
        ⟨coldWorld, []⟩ patientCalls = true := rfl
    apply disciplined_of_along _ _ checked
    intro pool event passed
    have both := Bool.and_eq_true_iff.mp passed
    exact ⟨free_of_check pool event both.1, unwaited_of_check _ pool event both.2⟩
  refine ⟨_, rfl, ⟨_, rfl⟩, rfl, ?_⟩
  exact (requests_apart (ticking_monotone 20000000) patientCalls disciplined 2 _ 80000000 rfl
    ⟨_, rfl⟩ rfl).1

/-- Two calls, of which the second waits for the lock while the request of the first fails. -/
def waitingCalls : List (Event CacheCall) :=
  [call, call, .resume 0, .resume 0, .resume 1, .resume 0, .resume 1]

def invalidates (event : Event CacheCall) : Bool :=
  match event with
  | .start .invalidate => true
  | _ => false

/-- The second asks at once. -/
theorem waiting_calls_ask :
    Monotone (tickingAuth 1000000) id ∧
      Disciplined (authExec (tickingAuth 1000000)) AuthState.instant (serveCache Verification.sampleAuth)
        (fun pool event => LockFree pool event ∧ Uninvalidated event) ⟨coldWorld, []⟩ waitingCalls ∧
      ∃ first second, (calls 1000000 waitingCalls).tasks[0]? = some first ∧
        (calls 1000000 waitingCalls).tasks[1]? = some second ∧
        requestOf first.log = some (1000000, .error ⟨.httpError, "connection refused"⟩) ∧
        documentOf Verification.sampleAuth (.error ⟨.httpError, "connection refused"⟩) = none ∧
        Asking Verification.sampleAuth second ∧ lastReading second.log = some 3000000 ∧
        (3000000 : Int) < 1000000 + negativeTtlSeconds * microseconds := by
  refine ⟨ticking_monotone _, ?_, _, _, rfl, rfl, rfl, rfl, ⟨_, rfl⟩, rfl, by decide⟩
  have checked : along (authExec (tickingAuth 1000000)) AuthState.instant (serveCache Verification.sampleAuth)
      (fun pool event => lockCheck pool event && !invalidates event)
      ⟨coldWorld, []⟩ waitingCalls = true := rfl
  apply disciplined_of_along _ _ checked
  intro pool event passed
  have both := Bool.and_eq_true_iff.mp passed
  refine ⟨free_of_check pool event both.1, ?_⟩
  rintro rfl
  cases both.2

end Lehen.Windows
