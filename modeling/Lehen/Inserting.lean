import Lehen.TokenCalls
import Lehen.Verification

/-!
A request inserted into a schedule, and another one whose key was cached. The inserted
request may empty the cache; the other one is harmed by it only through what the
endpoint answers then.
-/

namespace Lehen.Inserting

open AuthState Jwks Jwt Schedule CacheTurns TokenCalls

variable {N : Type} (settings : AuthSettings) (outside : AuthOutside N) (time : N → Int)
  (request : VerifyRequest) (kid key : Json) (claims : Dict Json) (v : Nat) (fetchedAt : Int)

def verifyRun (pool : VerifyPool N) (events : List (Event VerifyRequest)) : VerifyPool N :=
  pool.play (authExec outside) AuthState.instant (verify settings) events

/-- A request that was answered with what its token says under the key, at the instant
it has read. -/
def Served (task : VerifyTask) : Prop :=
  ∃ instant, ⟨.clock, .ok instant⟩ ∈ task.log ∧
    task.prog = Prog.lift (claimsAt settings request key instant)

/-- The key set has the key under its `kid`. -/
def Holds (keys : Dict Json) : Prop := findKey keys kid = .ok (some key)

/-- The request at this place has not been answered yet. -/
def Looking (pool : VerifyPool N) : Prop := ∀ task : VerifyTask, pool.tasks[v]? = some task → task.running

/-- While the request is not answered, every answer of the endpoint holds its key. -/
def Supplied (pool : VerifyPool N) (event : Event VerifyRequest) : Prop :=
  ∀ i task, event = .resume i → pool.tasks[i]? = some task → Asking settings task → Looking v pool →
    ∃ keys, documentOf settings (answered settings outside pool.state).1 = some keys ∧ Holds kid key keys

/-- When the request begins, what was fetched at the instant is within its TTL. -/
def Timely (pool : VerifyPool N) (event : Event VerifyRequest) : Prop :=
  ∀ task : VerifyTask, event = .resume v → pool.tasks[v]? = some task → task.log = [] →
    reading outside pool.state - fetchedAt < settings.provider.jwksTtlSeconds * microseconds

/-! The invariant. -/

/-- Whatever the cache has holds the key, and a request that begins now is let in. -/
structure Ready (world : AuthWorld N) : Prop where
  holds : ∀ keys, world.process.jwks.keys = some keys → Holds kid key keys
  window : (∃ keys, world.process.jwks.keys = some keys ∧ world.process.jwks.fetchedAt = fetchedAt) ∨
    world.process.jwks.negativeUntil ≤ time world.outside ∨
    fetchedAt + settings.provider.jwksTtlSeconds * microseconds ≤ time world.outside

structure Guarded (pool : VerifyPool N) : Prop where
  sound : LockSound settings time pool
  ready : Looking v pool → Ready settings time kid key fetchedAt pool.state
  served : ∀ task : VerifyTask, pool.tasks[v]? = some task → task.request = request →
    task.running ∨ Served settings request key task

variable {settings outside time request kid key claims v fetchedAt}

theorem ready_same {world after : AuthWorld N}
    (ready : Ready settings time kid key fetchedAt world)
    (same : ∃ locked, after.process.jwks = { world.process.jwks with locked })
    (later : time world.outside ≤ time after.outside) :
    Ready settings time kid key fetchedAt after := by
  obtain ⟨locked, jwks⟩ := same
  constructor
  · rw [jwks]
    exact ready.holds
  · rw [jwks]
    rcases ready.window with current | open_ | late
    · exact .inl current
    · exact .inr (.inl (open_.trans later))
    · exact .inr (.inr (late.trans later))

theorem ready_onward {world after : AuthWorld N} (ready : Ready settings time kid key fetchedAt world)
    (onward : Onward time world after) (counting : 0 ≤ time world.outside) :
    Ready settings time kid key fetchedAt after := by
  rcases onward.1 with same | forgot
  · exact ready_same ready ⟨_, same⟩ onward.2
  · constructor
    · rw [forgot]
      exact nofun
    · rw [forgot]
      exact .inr (.inl (counting.trans onward.2))

/-- A key set with the key is one that can be counted. -/
theorem counted_of_holds {keys : Dict Json} (holds : Holds kid key keys) : counted keys = .ok keys := by
  unfold Holds findKey at holds
  unfold counted
  split
  · next value found =>
      rw [found] at holds
      cases value with
      | arr items => rfl
      | obj fields => rfl
      | str text => rfl
      | _ => cases holds
  · rfl

theorem follows_found {finish : Except PyError (Dict Json) → Auth (Dict Json)}
    (follows : Follows settings request kid finish) {keys : Dict Json} (holds : Holds kid key keys) :
    finish (.ok keys) = withKey settings request key := by
  unfold Holds at holds
  rcases follows with rfl | rfl
  · simp only [afterLookup, holds]
  · simp only [afterRefetch, holds]

/-- Who has got a key set with the key is served. -/
theorem served_found {finish : Except PyError (Dict Json) → Auth (Dict Json)}
    (follows : Follows settings request kid finish) {keys : Dict Json} (holds : Holds kid key keys)
    (log : List Entry) (world : AuthWorld N) :
    Served settings request key
      (settle (authExec outside) AuthState.instant request log (finish (.ok keys)) world).1 := by
  rw [follows_found follows holds, settle_with_key]
  exact ⟨_, List.mem_append_right log List.mem_cons_self, rfl⟩

theorem kid_of_shape {finish : Except PyError (Dict Json) → Auth (Dict Json)} {kid' : Json}
    (named : kidOf settings request.token = .ok kid) (named' : kidOf settings request.token = .ok kid')
    (follows : Follows settings request kid' finish) : Follows settings request kid finish := by
  rw [named] at named'
  cases named'
  exact follows

theorem fresh_holds {world : AuthWorld N} {keys : Dict Json} {now : Int}
    (ready : Ready settings time kid key fetchedAt world)
    (held : freshKeys settings world.process.jwks now = some keys) : Holds kid key keys := by
  unfold freshKeys at held
  split at held
  · next cached there =>
      split at held
      · cases held
        exact ready.holds keys there
      · cases held
  · cases held

/-- A turn of the request: it goes on, or it is served. -/
theorem victim_turn (monotone : MonotoneClocks outside time)
    (named : kidOf settings request.token = .ok kid) {task : VerifyTask}
    (shape : Shape settings task) (own : task.request = request) (running : task.running)
    {world : AuthWorld N} (ready : Ready settings time kid key fetchedAt world)
    (supplied : Asking settings task → ∃ keys,
      documentOf settings (answered settings outside world).1 = some keys ∧ Holds kid key keys)
    (timely : task.log = [] →
      reading outside world - fetchedAt < settings.provider.jwksTtlSeconds * microseconds) :
    (task.turn (authExec outside) AuthState.instant world).1.running ∨
      Served settings request key (task.turn (authExec outside) AuthState.instant world).1 := by
  subst own
  cases shape with
  | fresh request kid' named' =>
      have follows := kid_of_shape named named' (.inl rfl)
      have early : time world.outside ≤ reading outside world := monotone.early world.outside
      have turns : (⟨request, [], (getKeys settings).resolve (afterLookup settings request kid')⟩ :
          VerifyTask).turn (authExec outside) AuthState.instant world =
        settle (authExec outside) AuthState.instant request []
          ((getKeys settings).resolve (afterLookup settings request kid')) world := rfl
      rw [turns, settle_get_keys]
      rcases @look_cases settings world.process.jwks (reading outside world) with
        ⟨keys, held, looks⟩ | ⟨stale, closed, _⟩ | ⟨_, _, looks⟩
      · rw [looks]
        exact .inr (served_found follows (fresh_holds ready held) _ _)
      · -- The window is open, or the cached keys are within their TTL.
        have soon := timely rfl
        rcases ready.window with ⟨keys, there, age⟩ | open_ | late
        · rcases stale_keys stale with absent | old
          · rw [there] at absent
            cases absent
          · rw [age] at old
            omega
        · omega
        · omega
      · rw [looks]
        exact .inl ⟨_, _, rfl⟩
  | queued request kid' named' log finish follows =>
      have follows := kid_of_shape named named' follows
      rw [turn_queued]
      cases held : freshKeys settings (setLocked world true).process.jwks (reading outside world) with
      | some keys => exact .inr (served_found follows (fresh_holds ready held) _ _)
      | none => exact .inl ⟨_, _, rfl⟩
  | asking request kid' named' log began finish follows =>
      have follows := kid_of_shape named named' follows
      obtain ⟨keys, answers, holds⟩ := supplied ⟨_, rfl⟩
      rcases turn_asking request log world began with ⟨document, held, turns⟩ | ⟨missing, _⟩
      · rw [answers] at held
        cases held
        rw [turns, counted_of_holds holds]
        exact .inr (served_found follows holds _ _)
      · rw [answers] at missing
        cases missing
  | finished _ ended => exact absurd running ended

/-- Who is not answered after an event was not answered before it. -/
theorem looking_before {pool : VerifyPool N} {event : Event VerifyRequest}
    (looking : Looking v (pool.step (authExec outside) AuthState.instant (verify settings) event)) :
    Looking v pool := by
  intro task found
  obtain ⟨later, found', _, stays⟩ :=
    @step_place _ _ _ _ _ _ (authExec outside) AuthState.instant (verify settings) _ _ _ found event
  by_contra ended
  rw [stays ended] at found'
  exact ended (looking task found')

/-- A turn of any request keeps the cache ready. -/
theorem ready_effect (monotone : MonotoneClocks outside time) {pool : VerifyPool N} {i : Nat}
    {task next : VerifyTask} {after : AuthWorld N} (sound : LockSound settings time pool)
    (found : pool.tasks[i]? = some task)
    (effect : Effect settings outside time pool.state task next after)
    (ready : Ready settings time kid key fetchedAt pool.state)
    (supplied : Asking settings task → ∃ keys,
      documentOf settings (answered settings outside pool.state).1 = some keys ∧ Holds kid key keys) :
    Ready settings time kid key fetchedAt after := by
  have ticks := (onward_ticked monotone.toMonotone pool.state).2
  have counting := sound.counting
  cases effect with
  | calm quiet onward => exact ready_onward ready onward counting
  | takes waits quiet onward =>
      have taken : Ready settings time kid key fetchedAt (setLocked (ticked outside pool.state) false) :=
        ready_same ready ⟨false, rfl⟩ ticks
      exact ready_onward taken onward (counting.trans ticks)
  | asks waits asking stale same =>
      -- Taking the lock leaves the keys as they are.
      rw [same]
      exact ready_same ready ⟨true, rfl⟩ ticks
  | keeps asked quiet began document held onward =>
      have fetched := @fetched_later _ settings outside time monotone.toMonotone pool.state
      obtain ⟨keys, answers, holds⟩ := supplied asked
      rw [held] at answers
      cases answers
      have kept : Ready settings time kid key fetchedAt
          (setLocked (keep (answered settings outside pool.state).2 document began) false) := by
        constructor
        · intro keys there
          cases there
          exact holds
        · -- Keys that were there when the request began were too old.
          right
          rcases ready.window with ⟨keys, there, age⟩ | open_ | late
          · right
            rcases sound.stale i task found asked with absent | old
            · rw [there] at absent
              cases absent
            · rw [age] at old
              exact old.trans fetched
          · left
            simp only [setLocked, keep, AuthWorld.withJwks, answered_process]
            exact open_.trans fetched
          · exact .inr (late.trans fetched)
      exact ready_onward kept onward (counting.trans fetched)
  | fails asked quiet began missing onward =>
      obtain ⟨keys, answers, _⟩ := supplied asked
      rw [answers] at missing
      cases missing

theorem guarded_step (monotone : MonotoneClocks outside time)
    (named : kidOf settings request.token = .ok kid) {pool : VerifyPool N}
    {event : Event VerifyRequest}
    (guarded : Guarded settings time request kid key v fetchedAt pool)
    (free : LockFree pool event) (supplied : Supplied settings outside kid key v pool event)
    (timely : Timely settings outside v fetchedAt pool event) :
    Guarded settings time request kid key v fetchedAt
      (pool.step (authExec outside) AuthState.instant (verify settings) event) := by
  have sound := sound_step monotone guarded.sound free
  cases event with
  | start request' =>
      refine ⟨sound, fun looking => guarded.ready (looking_before looking), ?_⟩
      intro task found own
      rcases get_start found with before | rfl
      · exact guarded.served task before own
      · left
        have own : request' = request := own
        subst own
        rw [verify_begins, named]
        exact ⟨_, _, rfl⟩
  | resume i =>
      rcases resume_effect monotone guarded.sound i with
        ⟨_, same⟩ | ⟨task, next, after, found, _, turns, effect, step⟩
      · rw [same]
        exact guarded
      · have fed (looking : Looking v pool) (asked : Asking settings task) :=
          supplied i task rfl found asked looking
        refine ⟨sound, ?_, ?_⟩
        · intro looking
          have before := looking_before looking
          rw [step]
          exact ready_effect monotone guarded.sound found effect (guarded.ready before) (fed before)
        · intro other present own
          obtain ⟨later, found', sameRequest, stays⟩ :=
            @step_place _ _ _ _ _ _ (authExec outside) AuthState.instant (verify settings) _ _ _ found (.resume i)
          rw [step] at present found'
          rcases get_set present with ⟨rfl, rfl⟩ | ⟨_, before⟩
          · rw [present] at found'
            cases found'
            -- It is the turn of the request in question.
            by_cases running : task.running
            · have looking : Looking v pool := by
                intro same there
                rw [found] at there
                cases there
                exact running
              rw [turns]
              exact victim_turn monotone named (guarded.sound.shaped v task found)
                (sameRequest.symm.trans own) running (guarded.ready looking) (fed looking)
                (timely task rfl found)
            · rw [stays running] at own ⊢
              exact guarded.served task found own
          · exact guarded.served other before own

/-- Along a run that begins with the key in the cache, the request is served. -/
theorem guarded_run (monotone : MonotoneClocks outside time)
    (named : kidOf settings request.token = .ok kid) {pool : VerifyPool N}
    (events : List (Event VerifyRequest))
    (guarded : Guarded settings time request kid key v fetchedAt pool)
    (disciplined : Disciplined (authExec outside) AuthState.instant (verify settings)
      (fun pool event => LockFree pool event ∧ Supplied settings outside kid key v pool event ∧
        Timely settings outside v fetchedAt pool event) pool events) :
    Guarded settings time request kid key v fetchedAt (verifyRun settings outside pool events) := by
  apply play_kept (Guarded settings time request kid key v fetchedAt) pool events disciplined guarded
  exact fun pool event guarded permitted =>
    guarded_step monotone named guarded permitted.1 permitted.2.1 permitted.2.2

/-! A schedule without one of its requests. -/

/-- The events of the others, of which those that came later move up a place. -/
def dropRequest (k : Nat) (events : List (Event VerifyRequest)) : List (Event VerifyRequest) :=
  events.filterMap fun
    | .start request => some (.start request)
    | .resume i => if i = k then none else some (.resume (if k < i then i - 1 else i))

/-- Where a request is in the schedule without the one at `k`. -/
def placeWithout (k v : Nat) : Nat := if k < v then v - 1 else v

def started (events : List (Event VerifyRequest)) : List VerifyRequest :=
  events.filterMap fun
    | .start request => some request
    | .resume _ => none

theorem started_drop (k : Nat) (events : List (Event VerifyRequest)) :
    started (dropRequest k events) = started events := by
  induction events with
  | nil => rfl
  | cons event rest ih =>
      unfold started dropRequest at ih ⊢
      cases event with
      | start request =>
          simp only [List.filterMap_cons]
          rw [ih]
      | resume i =>
          by_cases own : i = k
          · simp only [List.filterMap_cons, if_pos own]
            exact ih
          · simp only [List.filterMap_cons, if_neg own]
            exact ih

theorem resume_requests (pool : VerifyPool N) (i : Nat) :
    (pool.step (authExec outside) AuthState.instant (verify settings) (.resume i)).tasks.map Task.request =
      pool.tasks.map Task.request := by
  apply List.ext_getElem?
  intro j
  rw [List.getElem?_map, List.getElem?_map]
  cases found : pool.tasks[j]? with
  | none =>
      have same : (pool.step (authExec outside) AuthState.instant (verify settings) (.resume i)).tasks.length =
          pool.tasks.length := by
        unfold Pool.step Pool.turn
        dsimp only
        split
        · exact List.length_set
        · rfl
      rw [List.getElem?_eq_none (same ▸ List.getElem?_eq_none_iff.mp found)]
  | some task =>
      obtain ⟨later, found', same, _⟩ :=
        @step_place _ _ _ _ _ _ (authExec outside) AuthState.instant (verify settings) _ _ _ found (.resume i)
      rw [found']
      simp only [Option.map_some, same]

/-- The requests of a pool after a run, in the order they were started. -/
theorem run_requests (pool : VerifyPool N) (events : List (Event VerifyRequest)) :
    (verifyRun settings outside pool events).tasks.map Task.request =
      pool.tasks.map Task.request ++ started events := by
  induction events generalizing pool with
  | nil => simp [verifyRun, Pool.play, started]
  | cons event rest ih =>
      have onward := ih (pool.step (authExec outside) AuthState.instant (verify settings) event)
      have runs : verifyRun settings outside pool (event :: rest) =
        verifyRun settings outside (pool.step (authExec outside) AuthState.instant (verify settings) event) rest := rfl
      rw [runs, onward]
      cases event with
      | start request => simp [Pool.step, started]
      | resume i =>
          rw [resume_requests]
          rfl

/-- A request has the same place among the others with and without the inserted one. -/
theorem same_request (pool : VerifyPool N) (inserted : VerifyRequest)
    (after : List (Event VerifyRequest)) (different : v ≠ pool.tasks.length) {task other : VerifyTask}
    (found : (verifyRun settings outside pool (.start inserted :: after)).tasks[v]? = some task)
    (found' : (verifyRun settings outside pool (dropRequest pool.tasks.length after)).tasks[
      placeWithout pool.tasks.length v]? = some other) : other.request = task.request := by
  have whole := congrArg (fun requests => requests[v]?)
    (@run_requests _ settings outside pool (.start inserted :: after))
  have less := congrArg (fun requests => requests[placeWithout pool.tasks.length v]?)
    (@run_requests _ settings outside pool (dropRequest pool.tasks.length after))
  simp only [List.getElem?_map, found, found', Option.map_some, started_drop] at whole less
  have first : started (Event.start inserted :: after) = inserted :: started after := rfl
  rw [first] at whole
  unfold placeWithout at less
  rcases Nat.lt_or_gt_of_ne different with before | beyond
  · rw [if_neg (Nat.not_lt.mpr (Nat.le_of_lt before)),
      List.getElem?_append_left (by simpa using before)] at less
    rw [List.getElem?_append_left (by simpa using before), ← less] at whole
    exact (Option.some.inj whole).symm
  · have bound : pool.tasks.length ≤ v - 1 := Nat.le_sub_one_of_lt beyond
    have last : v - pool.tasks.length = v - 1 - pool.tasks.length + 1 := by omega
    rw [if_pos beyond, List.getElem?_append_right (by simpa using bound), List.length_map] at less
    rw [List.getElem?_append_right (by simpa using Nat.le_of_lt beyond), List.length_map, last,
      List.getElem?_cons_succ, ← less] at whole
    exact (Option.some.inj whole).symm

theorem sound_run (monotone : MonotoneClocks outside time) {world : AuthWorld N}
    (counting : 0 ≤ time world.outside) (events : List (Event VerifyRequest))
    (free : Disciplined (authExec outside) AuthState.instant (verify settings) LockFree ⟨world, []⟩ events) :
    LockSound settings time (verifyRun settings outside ⟨world, []⟩ events) := by
  apply play_kept (LockSound settings time) _ events free
  · constructor
    · exact nofun
    · exact nofun
    · exact exclusive_empty _ _
    · exact nofun
    · exact counting
  · exact fun pool event sound free => sound_step monotone sound free

theorem guarded_start {pool : VerifyPool N} (sound : LockSound settings time pool)
    {keys : Dict Json} (cached : pool.state.process.jwks.keys = some keys) (holds : Holds kid key keys)
    (looking : Looking v pool) :
    Guarded settings time request kid key v pool.state.process.jwks.fetchedAt pool where
  sound := sound
  ready := by
    intro _
    constructor
    · intro other there
      rw [cached] at there
      cases there
      exact holds
    · exact .inl ⟨keys, cached, rfl⟩
  served := fun task found _ => .inl (looking task found)

/-- A request inserted into a schedule does not change the outcome of another one that is
valid under a key in the cache, where every answer the endpoint gives, until that other
one is answered, holds the key. -/
theorem insertion_harmless (monotone : MonotoneClocks outside time)
    (named : kidOf settings request.token = .ok kid) {world : AuthWorld N}
    (counting : 0 ≤ time world.outside) (before after : List (Event VerifyRequest))
    (inserted : VerifyRequest) {pool : VerifyPool N}
    (reached : pool = verifyRun settings outside ⟨world, []⟩ before)
    (free : Disciplined (authExec outside) AuthState.instant (verify settings) LockFree ⟨world, []⟩ before)
    {keys : Dict Json} (cached : pool.state.process.jwks.keys = some keys) (holds : Holds kid key keys)
    (different : v ≠ pool.tasks.length)
    (whole : Disciplined (authExec outside) AuthState.instant (verify settings)
      (fun during event => LockFree during event ∧ Supplied settings outside kid key v during event ∧
        Timely settings outside v pool.state.process.jwks.fetchedAt during event)
      pool (.start inserted :: after))
    (less : Disciplined (authExec outside) AuthState.instant (verify settings)
      (fun during event => LockFree during event ∧
        Supplied settings outside kid key (placeWithout pool.tasks.length v) during event ∧
        Timely settings outside (placeWithout pool.tasks.length v) pool.state.process.jwks.fetchedAt
          during event)
      pool (dropRequest pool.tasks.length after)) (task other : VerifyTask)
    (found : (verifyRun settings outside pool (.start inserted :: after)).tasks[v]? = some task)
    (own : task.request = request) (ended : ¬ task.running)
    (found' : (verifyRun settings outside pool (dropRequest pool.tasks.length after)).tasks[
      placeWithout pool.tasks.length v]? = some other) (ended' : ¬ other.running)
    (valid : ∀ instant, ⟨.clock, .ok instant⟩ ∈ task.log ++ other.log →
      claimsAt settings request key instant = .ok claims) : other.prog = task.prog := by
  have sound : LockSound settings time pool := by
    rw [reached]
    exact sound_run monotone counting before free
  have same := same_request pool inserted after different found found'
  by_cases looking : Looking v pool
  · have looking' : Looking (placeWithout pool.tasks.length v) pool := by
      intro task there
      have bound := (List.getElem?_eq_some_iff.mp there).1
      unfold placeWithout at bound there
      split at bound
      · omega
      · next earlier =>
          rw [if_neg earlier] at there
          exact looking task there
    have served := (guarded_run monotone named _ (guarded_start sound cached holds looking) whole).served
      task found own
    have served' := (guarded_run monotone named _ (guarded_start sound cached holds looking') less).served
      other found' (same.trans own)
    -- Both are served by the key, each at an instant it has read.
    obtain ⟨instant, read, told⟩ := served.resolve_left ended
    obtain ⟨instant', read', told'⟩ := served'.resolve_left ended'
    rw [told, told', valid instant (List.mem_append_left _ read),
      valid instant' (List.mem_append_right _ read')]
  · -- It was answered before the other one came.
    obtain ⟨first, there, finished⟩ : ∃ first, pool.tasks[v]? = some first ∧ ¬ first.running := by
      simpa only [Looking, not_forall, exists_prop] using looking
    have earlier : ¬ pool.tasks.length < v :=
      Nat.not_lt.mpr (Nat.le_of_lt (List.getElem?_eq_some_iff.mp there).1)
    obtain ⟨later, place, _, stays⟩ :=
      @play_place _ _ _ _ _ _ (authExec outside) AuthState.instant (verify settings) _ _ _ there
        (.start inserted :: after)
    obtain ⟨later', place', _, stays'⟩ :=
      @play_place _ _ _ _ _ _ (authExec outside) AuthState.instant (verify settings) _ _ _ there
        (dropRequest pool.tasks.length after)
    rw [placeWithout, if_neg earlier] at found'
    rw [verifyRun, place] at found
    rw [verifyRun, place'] at found'
    rw [← Option.some.inj found, ← Option.some.inj found', stays finished, stays' finished]

/-! A token with a stray `kid`, and one whose key is in the cache. -/

def strayAuth : AuthSettings :=
  { Verification.sampleAuth with
    jose :=
      { Jose.ofTable Verification.samplePayloads with
        getUnverifiedHeader := fun token =>
          if token = "stray" then .ok (Dict.ofList [("kid", .str "unknown")])
          else .ok (Dict.ofList [("kid", .str "k")]) } }

def cachedKeys : Dict Json := Dict.ofList [("keys", .arr [.obj [("kid", .str "k")]])]

def servingAuth : AuthOutside Unit :=
  { Verification.stillAuth with
    fetch := fun _ state =>
      (.ok { status := 200, text := "", json := .ok (.obj [("keys", .arr [.obj [("kid", .str "k")]])]) }, state) }

def strayRequest : VerifyRequest := ⟨"stray", "lehen-hub", ["https://id/realms/lehen"]⟩

def fullRequest : VerifyRequest := ⟨"full", "lehen-hub", ["https://id/realms/lehen"]⟩

/-- The stray request runs to its end, and then the other one. -/
def afterStray : List (Event VerifyRequest) :=
  [.resume 0, .resume 0, .resume 0, .start fullRequest, .resume 1, .resume 1, .resume 1]

def emptyPool : VerifyPool Unit := ⟨Verification.warmWorld, []⟩

theorem still_monotone (outside : AuthOutside Unit)
    (stands : ∀ state, (outside.monotonic state).1 = 0) : MonotoneClocks outside fun _ => 0 where
  early := fun state => le_of_eq (stands state).symm
  late := fun state => le_of_eq (stands state)
  fetched := fun _ _ => le_refl _
  clock := fun _ => le_refl _

theorem supplied_serving (v : Nat) (pool : VerifyPool Unit) (event : Event VerifyRequest) :
    Supplied strayAuth servingAuth (.str "k") (.obj [("kid", .str "k")]) v pool event ∧
      Timely strayAuth servingAuth v 0 pool event := by
  constructor
  · exact fun i task _ _ _ _ => ⟨cachedKeys, rfl, rfl⟩
  · intro task _ _ _
    have stands : reading servingAuth pool.state = 0 := rfl
    rw [stands]
    decide

/-- The wall clock says zero whenever it is read. -/
def midnightCheck : Entry → Bool
  | ⟨.clock, .ok instant⟩ => instant == 0
  | _ => true

theorem stray_harmless :
    ∃ task other,
      (verifyRun strayAuth servingAuth emptyPool (.start strayRequest :: afterStray)).tasks[1]? = some task ∧
      (verifyRun strayAuth servingAuth emptyPool (dropRequest 0 afterStray)).tasks[0]? = some other ∧
      other.prog = task.prog := by
  have whole : along (authExec servingAuth) AuthState.instant (verify strayAuth) lockCheck emptyPool
      (.start strayRequest :: afterStray) = true := rfl
  have less : along (authExec servingAuth) AuthState.instant (verify strayAuth) lockCheck emptyPool
      (dropRequest 0 afterStray) = true := rfl
  refine ⟨_, _, rfl, rfl, ?_⟩
  apply insertion_harmless (still_monotone servingAuth fun _ => rfl)
    (show kidOf strayAuth fullRequest.token = .ok (.str "k") from rfl) (le_refl 0) [] afterStray
    strayRequest (show emptyPool = _ from rfl) trivial (show _ = some cachedKeys from rfl)
    (show Holds (.str "k") (.obj [("kid", .str "k")]) cachedKeys from rfl) (show 1 ≠ 0 by decide)
  · apply disciplined_of_along _ _ whole
    intro pool event checked
    have supplied := supplied_serving 1 pool event
    exact ⟨free_of_check pool event checked, supplied.1, supplied.2⟩
  · apply disciplined_of_along _ _ less
    intro pool event checked
    have supplied := supplied_serving 0 pool event
    exact ⟨free_of_check pool event checked, supplied.1, supplied.2⟩
  · rfl
  · rfl
  · rintro ⟨_, _, left⟩
    cases left
  · rfl
  · rintro ⟨_, _, left⟩
    cases left
  · intro instant member
    have only := List.all_eq_true.mp (show List.all _ midnightCheck = true from rfl) _ member
    rw [beq_iff_eq.mp only]
    rfl

/-- An endpoint that is out of reach: the other request is turned away for the stray one. -/
theorem stray_harms :
    Disciplined (authExec Verification.stillAuth) AuthState.instant (verify strayAuth) LockFree emptyPool
        (.start strayRequest :: afterStray) ∧
      Disciplined (authExec Verification.stillAuth) AuthState.instant (verify strayAuth) LockFree emptyPool
        (dropRequest 0 afterStray) ∧
      kidOf strayAuth strayRequest.token = .ok (.str "unknown") ∧
      freshKeys strayAuth emptyPool.state.process.jwks (reading Verification.stillAuth emptyPool.state) =
        some cachedKeys ∧
      findKey cachedKeys (.str "unknown") = .ok none ∧
      ∃ claims text task other,
        (verifyRun strayAuth Verification.stillAuth emptyPool (dropRequest 0 afterStray)).tasks[0]? =
          some other ∧
        other.request = fullRequest ∧ other.prog = .ret claims ∧
        (verifyRun strayAuth Verification.stillAuth emptyPool
          (.start strayRequest :: afterStray)).tasks[1]? = some task ∧
        task.request = fullRequest ∧ task.prog = .raise ⟨.invalidTokenError, text⟩ := by
  have whole : along (authExec Verification.stillAuth) AuthState.instant (verify strayAuth) lockCheck emptyPool
      (.start strayRequest :: afterStray) = true := rfl
  have less : along (authExec Verification.stillAuth) AuthState.instant (verify strayAuth) lockCheck emptyPool
      (dropRequest 0 afterStray) = true := rfl
  exact ⟨disciplined_of_along _ _ whole free_of_check, disciplined_of_along _ _ less free_of_check, rfl,
    rfl, rfl, _, _, _, _, rfl, rfl, rfl, rfl, rfl, rfl⟩

end Lehen.Inserting
