import Lehen.CacheTurns

/-!
`get_keys` and `invalidate` calls on one cache, interleaved at their awaits. `Move`
says what a turn of a call may do; the promises of the cache are read off it.
-/

namespace Lehen.CacheCalls

open AuthState Jwks Schedule CacheTurns
open Storage (HttpResponse)

variable {N : Type} (settings : AuthSettings) (outside : AuthOutside N)

inductive CacheCall where
  | getKeys
  | invalidate

/-- Only `getKeys` has something to return. -/
def serveCache : CacheCall → Auth (Option (Dict Json))
  | .getKeys => (getKeys settings).bind fun keys => .ret (some keys)
  | .invalidate => invalidate.bind fun _ => .ret none

abbrev CacheTask := Task CacheCall AuthOp AuthOp.Res PyError (Option (Dict Json))

abbrev CachePool (N : Type) :=
  Pool (AuthWorld N) CacheCall AuthOp AuthOp.Res PyError (Option (Dict Json))

def cacheRun (world : AuthWorld N) (events : List (Event CacheCall)) : CachePool N :=
  (⟨world, []⟩ : CachePool N).play (authExec outside) AuthState.instant (serveCache settings) events

/-! What the log of a call says of its request to the endpoint. -/

def readingOf : Entry → Option Int
  | ⟨.monotonic, .ok now⟩ => some now
  | _ => none

def answerOf : Entry → Option (Except PyError HttpResponse)
  | ⟨.fetch _, answer⟩ => some answer
  | _ => none

/-- The last instant a call has read. -/
def lastReading (log : List Entry) : Option Int := (log.filterMap readingOf).getLast?

/-- A request that was answered: the instant it began at, and its answer. -/
def requestOf (log : List Entry) : Option (Int × Except PyError HttpResponse) :=
  match lastReading log, log.findSome? answerOf with
  | some began, some answer => some (began, answer)
  | _, _ => none

/-- Its request is under way. -/
def Asking (task : CacheTask) : Prop := task.awaits (.fetch settings.provider.jwksUrl)

/-- It waits for the lock. -/
def Waiting (task : CacheTask) : Prop := task.awaits .acquireLock

/-! The places a call can be at. -/

def handOver (outcome : Except PyError (Dict Json)) : Auth (Option (Dict Json)) :=
  match outcome with
  | .ok keys => .ret (some keys)
  | .error error => .raise error

def fresh : CacheTask := ⟨.getKeys, [], serveCache settings .getKeys⟩

def pending : CacheTask := ⟨.invalidate, [], serveCache settings .invalidate⟩

def queued (looked : Int) (jwks : JwksState) : CacheTask :=
  ⟨.getKeys, lookedAt looked jwks, (locked (refetch settings)).resolve handOver⟩

def asking (looked : Int) (jwks : JwksState) (began : Int) (jwks' : JwksState) : CacheTask :=
  ⟨.getKeys, lookedAt looked jwks ++ ⟨.acquireLock, .ok ()⟩ :: lookedAt began jwks',
    (release (ask settings began)).resolve handOver⟩

/-- A `getKeys` call that is over. -/
def finished (log : List Entry) (outcome : Except PyError (Dict Json)) : CacheTask :=
  ⟨.getKeys, log, handOver outcome⟩

inductive Shape : CacheTask → Prop
  | fresh : Shape (fresh settings)
  | pending : Shape (pending settings)
  | queued (looked : Int) (jwks : JwksState) : Shape (queued settings looked jwks)
  | asking (looked : Int) (jwks : JwksState) (began : Int) (jwks' : JwksState) :
      Shape (asking settings looked jwks began jwks')
  | finished (log : List Entry) (outcome : Except PyError (Dict Json)) : Shape (finished log outcome)
  | invalidated (log : List Entry) : Shape ⟨.invalidate, log, .ret none⟩

/-- The entries after the lock is taken at the instant. -/
def heldAt (now : Int) (world : AuthWorld N) : List Entry :=
  ⟨.acquireLock, .ok ()⟩ :: lookedAt now (setLocked world true).process.jwks

def forgotten (world : AuthWorld N) : AuthWorld N :=
  world.withJwks fun jwks => { jwks with keys := none, fetchedAt := 0, negativeUntil := 0 }

/-- What a turn of a call does. -/
inductive Move (world : AuthWorld N) : CacheTask → CacheTask → AuthWorld N → Prop
  | found (keys : Dict Json)
      (held : freshKeys settings world.process.jwks (reading outside world) = some keys) :
      Move world (fresh settings)
        (finished (lookedAt (reading outside world) world.process.jwks) (.ok keys)) (ticked outside world)
  | refused (text : String) :
      Move world (fresh settings)
        (finished (lookedAt (reading outside world) world.process.jwks) (.error (noAnswer text)))
        (ticked outside world)
  | queues (opened : world.process.jwks.negativeUntil ≤ reading outside world) :
      Move world (fresh settings) (queued settings (reading outside world) world.process.jwks)
        (ticked outside world)
  | takes (looked : Int) (jwks : JwksState) (keys : Dict Json)
      (held : freshKeys settings world.process.jwks (reading outside world) = some keys) :
      Move world (queued settings looked jwks)
        (finished (lookedAt looked jwks ++ (heldAt (reading outside world) world ++ [⟨.releaseLock, .ok ()⟩]))
          (.ok keys)) (setLocked (ticked outside world) false)
  | asks (looked : Int) (jwks : JwksState)
      (stale : freshKeys settings world.process.jwks (reading outside world) = none) :
      Move world (queued settings looked jwks)
        (asking settings looked jwks (reading outside world) (setLocked world true).process.jwks)
        (setLocked (ticked outside world) true)
  | keeps (looked : Int) (jwks : JwksState) (began : Int) (jwks' : JwksState) (document : Dict Json)
      (held : documentOf settings (answered settings outside world).1 = some document) :
      Move world (asking settings looked jwks began jwks')
        (finished ((asking settings looked jwks began jwks').log ++
          [⟨.fetch settings.provider.jwksUrl, (answered settings outside world).1⟩,
            ⟨.keepJwks document began, .ok ()⟩, ⟨.releaseLock, .ok ()⟩]) (counted document))
        (setLocked (keep (answered settings outside world).2 document began) false)
  | fails (looked : Int) (jwks : JwksState) (began : Int) (jwks' : JwksState) (text : String)
      (missing : documentOf settings (answered settings outside world).1 = none) :
      Move world (asking settings looked jwks began jwks')
        (finished ((asking settings looked jwks began jwks').log ++
          [⟨.fetch settings.provider.jwksUrl, (answered settings outside world).1⟩,
            ⟨.refuseJwks (began + negativeTtlSeconds * microseconds), .ok ()⟩, ⟨.releaseLock, .ok ()⟩])
          (.error (noAnswer text)))
        (setLocked (close (answered settings outside world).2 began) false)
  | forgets : Move world (pending settings) ⟨.invalidate, [⟨.invalidateJwks, .ok ()⟩], .ret none⟩
      (forgotten world)
  | idles (task : CacheTask) (ended : ¬ task.running) : Move world task task world

variable {settings outside}

theorem settle_over (log : List Entry) (outcome : Except PyError (Dict Json)) (world : AuthWorld N) :
    settle (authExec outside) AuthState.instant CacheCall.getKeys log (handOver outcome) world =
      (finished log outcome, world) := by
  cases outcome <;> rfl

theorem over_ended (log : List Entry) (outcome : Except PyError (Dict Json)) :
    ¬ (finished log outcome).running := by
  rintro ⟨op, resume, left⟩
  cases outcome <;> cases left

theorem fresh_resolves : serveCache settings .getKeys = (getKeys settings).resolve handOver := by
  rw [serveCache, Prog.bind_resolve]
  congr 1
  funext outcome
  cases outcome <;> rfl

theorem turn_fresh (world : AuthWorld N) :
    (fresh settings).turn (authExec outside) AuthState.instant world =
      settle (authExec outside) AuthState.instant CacheCall.getKeys [] ((getKeys settings).resolve handOver) world := by
  rw [fresh, fresh_resolves]
  rfl

/-- A turn from any of the places is a move. -/
theorem turn_moves (task : CacheTask) (shape : Shape settings task) (world : AuthWorld N) :
    Move settings outside world task (task.turn (authExec outside) AuthState.instant world).1
      (task.turn (authExec outside) AuthState.instant world).2 := by
  -- One case for each place: a call that begins, waits, asks or is over.
  cases shape with
  | fresh =>
      rw [turn_fresh, settle_get_keys, List.nil_append]
      rcases @look_cases settings world.process.jwks (reading outside world) with
        ⟨keys, held, looks⟩ | ⟨_, _, text, looks⟩ | ⟨_, opened, looks⟩
      · rw [looks, Prog.resolve, settle_over]
        exact .found keys held
      · rw [looks, Prog.resolve, settle_over]
        exact .refused text
      · rw [looks]
        exact .queues opened
  | pending => exact .forgets
  | queued looked jwks =>
      rw [queued, turn_queued]
      cases held : freshKeys settings (setLocked world true).process.jwks (reading outside world) with
      | some keys =>
          dsimp only
          rw [settle_over]
          exact .takes looked jwks keys held
      | none => exact .asks looked jwks held
  | asking looked jwks began jwks' =>
      rcases turn_asking CacheCall.getKeys
        (lookedAt looked jwks ++ ⟨.acquireLock, .ok ()⟩ :: lookedAt began jwks') world began with
        ⟨document, held, turns⟩ | ⟨missing, text, turns⟩
      · rw [asking, turns, settle_over]
        exact .keeps looked jwks began jwks' document held
      · rw [asking, turns, settle_over]
        exact .fails looked jwks began jwks' text missing
  | finished log outcome =>
      have stays : (finished log outcome).turn (authExec outside) AuthState.instant world = (finished log outcome, world) := by
        cases outcome <;> rfl
      rw [stays]
      exact .idles _ (over_ended log outcome)
  | invalidated log =>
      apply Move.idles
      rintro ⟨_, _, left⟩
      cases left

theorem shape_moved {world after : AuthWorld N} {task next : CacheTask}
    (move : Move settings outside world task next after) (shape : Shape settings task) :
    Shape settings next := by
  cases move with
  | idles _ _ => exact shape
  | queues _ => exact .queued _ _
  | asks _ _ _ => exact .asking _ _ _ _
  | forgets => exact .invalidated _
  | _ => exact .finished _ _

/-! Pools of calls. -/

def Shaped (settings : AuthSettings) (pool : CachePool N) : Prop :=
  ∀ (i : Nat) (task : CacheTask), pool.tasks[i]? = some task → Shape settings task

/-- An event that resumes a call is a move of that call. -/
theorem resume_moves {pool : CachePool N} (shaped : Shaped settings pool) (i : Nat) :
    (pool.tasks[i]? = none ∧
        pool.step (authExec outside) AuthState.instant (serveCache settings) (.resume i) = pool) ∨
      ∃ task next after, pool.tasks[i]? = some task ∧
        Move settings outside pool.state task next after ∧
        pool.step (authExec outside) AuthState.instant (serveCache settings) (.resume i) =
          ⟨after, pool.tasks.set i next⟩ := by
  cases found : pool.tasks[i]? with
  | none =>
      left
      refine ⟨rfl, ?_⟩
      simp only [Pool.step, Pool.turn, found]
  | some task =>
      right
      refine ⟨task, _, _, rfl, turn_moves task (shaped i task found) pool.state, ?_⟩
      simp only [Pool.step, Pool.turn, found]

theorem start_shape (call : CacheCall) : Shape settings ⟨call, [], serveCache settings call⟩ := by
  cases call with
  | getKeys => exact .fresh
  | invalidate => exact .pending

theorem shaped_step {pool : CachePool N} (shaped : Shaped settings pool) (event : Event CacheCall) :
    Shaped settings (pool.step (authExec outside) AuthState.instant (serveCache settings) event) := by
  cases event with
  | start call =>
      intro j task found
      rcases get_start found with before | rfl
      · exact shaped j task before
      · exact start_shape call
  | resume i =>
      rcases resume_moves shaped i with ⟨_, same⟩ | ⟨task, next, after, found, move, step⟩
      · rw [same]
        exact shaped
      · rw [step]
        intro j other present
        rcases get_set present with ⟨_, rfl⟩ | ⟨_, before⟩
        · exact shape_moved move (shaped i task found)
        · exact shaped j other before

def askingCheck (task : CacheTask) : Bool :=
  match task.prog with
  | .await (.fetch _) _ => true
  | _ => false

theorem asking_checked {task : CacheTask} (asking : Asking settings task) : askingCheck task = true := by
  obtain ⟨resume, left⟩ := asking
  rw [askingCheck, left]

end Lehen.CacheCalls
