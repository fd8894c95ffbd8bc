import Lehen.Flows

/-!
Which login flows of the Edge are redeemed at the token endpoint, over any
sequence of logins, callbacks and sign-outs.
-/

namespace Lehen.Redeeming

open EdgeState EdgeHub EdgeApp Pkce Schedule Routing Flows

variable {N : Type} (config : EdgeConfig) (outside : EdgeOutside N)

/-! What was redeemed up to an event. -/

theorem exchange_taken {request : Gesture} {phase : Phase} {exchange : Exchange}
    (allowed : phase.Allows request (.exchangeOidcCode exchange)) :
    ∃ context state code, phase = .taken context ∧ authOf request = some (state, code) ∧
      exchange = exchangeOf context code := by
  cases phase with
  | idle =>
      rcases allowed with plain | ⟨_, _, _, same⟩ | ⟨_, _, same⟩
      · exact plain.elim
      · cases same
      · cases same
  | found context =>
      obtain ⟨_, _, _, same⟩ := allowed
      cases same
  | taken context =>
      obtain ⟨state, code, called, same⟩ := allowed
      injection same with same
      exact ⟨context, state, code, rfl, called, same⟩
  | redeemed context => exact allowed.elim
  | stored context => exact allowed.elim

theorem redemptions_settled {pool : EdgePool N} (steady : Steady pool) {j : Nat} {task : EdgeTask}
    (found : pool.tasks[j]? = some task)
    (untaken : ∀ context, task.seen sessionProtocol ≠ .taken context) :
    redemptions task = exchanges task := by
  have watched := steady.watched j task found
  unfold Task.Watched at watched
  unfold redemptions exchanges
  split
  · next exchange resume left =>
      rw [left] at watched
      obtain ⟨context, _, _, taken, _⟩ := exchange_taken watched.1
      exact absurd taken (untaken context)
  · exact List.append_nil _

/-- A task that took no flow redeems none. -/
theorem redeems_none {pool : EdgePool N} (steady : Steady pool) {j : Nat} {task : EdgeTask}
    (found : pool.tasks[j]? = some task) (untaken : (task.seen sessionProtocol).took = none) :
    redemptions task = [] := by
  have told := steady.sound.told j task found
  rw [redemptions_settled steady found]
  · cases seen : task.seen sessionProtocol with
    | idle =>
        rw [seen] at told
        exact told.1
    | found context =>
        rw [seen] at told
        exact told.1
    | taken context =>
        rw [seen] at untaken
        cases untaken
    | redeemed context =>
        rw [seen] at untaken
        cases untaken
    | stored context =>
        rw [seen] at told
        exact told.2.1
  · intro context seen
    rw [seen] at untaken
    cases untaken

/-- A task that took a flow redeems that one, with the code of its callback. -/
theorem redeems_taken {pool : EdgePool N} (steady : Steady pool) {j : Nat} {task : EdgeTask}
    {context : AuthorizationContext} (found : pool.tasks[j]? = some task)
    (took : (task.seen sessionProtocol).took = some context) :
    ∃ code, authOf task.request = some (context.state, code) ∧
      redemptions task = [exchangeOf context code] := by
  have ⟨⟨code, called⟩, _⟩ := steady.sound.owned j task context found (holds_of_took took)
  refine ⟨code, called, ?_⟩
  have told := steady.sound.told j task found
  cases seen : task.seen sessionProtocol with
  | idle =>
      rw [seen] at took
      cases took
  | found other =>
      rw [seen] at took
      cases took
  | stored other =>
      rw [seen] at took
      cases took
  | redeemed other =>
      rw [seen] at took told
      obtain rfl := Option.some.inj took
      obtain ⟨⟨state, code', called', same⟩, _⟩ := told
      rw [called] at called'
      obtain ⟨_, rfl⟩ := Prod.mk.inj (Option.some.inj called')
      rw [redemptions_settled steady found, same]
      intro third taken
      rw [seen] at taken
      cases taken
  | taken other =>
      rw [seen] at took told
      obtain rfl := Option.some.inj took
      have watched := steady.watched j task found
      unfold Task.Watched at watched
      rw [seen] at watched
      -- It cannot have ended, and waits for the one operation it is allowed.
      cases left : task.prog with
      | ret value =>
          rw [left] at watched
          exact watched.elim
      | raise error =>
          rw [left] at watched
          exact watched.elim
      | await op resume =>
          rw [left] at watched
          obtain ⟨state, code', called', rfl⟩ := watched.1
          rw [called] at called'
          obtain ⟨_, rfl⟩ := Prod.mk.inj (Option.some.inj called')
          have none_yet : task.log.filterMap exchangeOp = [] := told.1
          rw [redemptions, left, none_yet]
          rfl

/-- Whatever a task redeems, it has taken that flow. -/
theorem took_of_redeems {pool : EdgePool N} (steady : Steady pool) {j : Nat} {task : EdgeTask}
    (found : pool.tasks[j]? = some task) (redeems : redemptions task ≠ []) :
    ∃ context, (task.seen sessionProtocol).took = some context := by
  cases took : (task.seen sessionProtocol).took with
  | none => exact absurd (redeems_none steady found took) redeems
  | some context => exact ⟨context, rfl⟩

theorem stored_of_begun {pool : EdgePool N} (steady : Steady pool) {k : Nat} {task : EdgeTask}
    {context : AuthorizationContext} (found : pool.tasks[k]? = some task)
    (member : context ∈ begun task) :
    task.request = .login ∧ task.seen sessionProtocol = .stored context := by
  have told := steady.sound.told k task found
  cases seen : task.seen sessionProtocol with
  | idle =>
      rw [seen] at told
      rw [told.2] at member
      cases member
  | found other =>
      rw [seen] at told
      rw [told.2] at member
      cases member
  | taken other =>
      rw [seen] at told
      rw [told.2] at member
      cases member
  | redeemed other =>
      rw [seen] at told
      rw [told.2] at member
      cases member
  | stored other =>
      rw [seen] at told
      rw [told.2.2] at member
      rw [List.mem_singleton.mp member]
      exact ⟨told.1, rfl⟩

theorem begun_of_stored {pool : EdgePool N} (steady : Steady pool) {k : Nat} {task : EdgeTask}
    {context : AuthorizationContext} (found : pool.tasks[k]? = some task)
    (seen : task.seen sessionProtocol = .stored context) :
    task.request = .login ∧ begun task = [context] := by
  have told := steady.sound.told k task found
  rw [seen] at told
  exact ⟨told.1, told.2.2⟩

/-! Sign-outs. -/

/-- A sign-out is carried out by the turn of task `i`. -/
def SignsOut (pool : EdgePool N) (i : Nat) : Prop :=
  ∃ task, pool.tasks[i]? = some task ∧ task.request = .signOut ∧ task.awaits .deleteToken

/-- No login flow is pending or about to be begun. -/
structure NonePending (pool : EdgePool N) : Prop where
  session : ∀ state, pool.state.session.lookup (flowKey state) = none
  logins : ∀ task ∈ pool.tasks, task.request = .login → task.running → begun task ≠ []

/-- A flow that was begun and is not in the session any more: whoever takes one with
its state had done so in the past. -/
structure Spent (past : EdgePool N) (k : Nat) (context : AuthorizationContext) (pool : EdgePool N) :
    Prop where
  begun : BegunAt pool k context
  absent : DrawnOnce pool → pool.state.session.lookup (flowKey context.state) = none
  since : DrawnOnce pool → ∀ (j : Nat) (task : EdgeTask) other, pool.tasks[j]? = some task →
    (task.seen sessionProtocol).took = some other → other.state = context.state →
      ∃ earlier, past.tasks[j]? = some earlier ∧ (earlier.seen sessionProtocol).took = some other

theorem spent_perform {past pool : EdgePool N} {i k : Nat} {task : EdgeTask} {op : EdgeOp}
    {resume : Except String op.Res → Edge Unit} {context : AuthorizationContext} (sound : Sound pool)
    (spent : Spent past k context pool) (present : pool.tasks[i]? = some task)
    (allowed : (task.seen sessionProtocol).Allows task.request op) :
    Spent past k context (pool.perform (edgeExec outside) i task op resume) where
  begun := begun_at_after present allowed spent.begun
  absent := by
    intro drawn
    exact absent_after allowed (spent.absent (drawn_before drawn))
      (unstored_again sound drawn ⟨k, spent.begun⟩)
  since := by
    intro drawn j other taken after took same
    have drawn' := drawn_before drawn
    rcases get_perform present after with ⟨rfl, rfl⟩ | ⟨_, before⟩
    · rw [seen_after] at took
      rcases took_next took with earlier | ⟨seen, _⟩
      · exact spent.since drawn' _ task taken present earlier same
      · have there := sound.found _ task taken present seen
        rw [same, spent.absent drawn'] at there
        cases there
    · exact spent.since drawn' j other taken before took same

theorem spent_start {past pool : EdgePool N} {k : Nat} {context : AuthorizationContext}
    (spent : Spent past k context pool) (request : Gesture) :
    Spent past k context (pool.step (edgeExec outside) EdgeState.instant (serve config) (.start request)) where
  begun := begun_at_started config outside spent.begun
  absent := spent.absent
  since := by
    intro drawn j task taken found took same
    rcases get_start found with before | rfl
    · exact spent.since drawn j task taken before took same
    · cases took

theorem turning_of_steady {pool : EdgePool N} (steady : Steady pool) (i : Nat) : Turning i pool :=
  ⟨steady.watched, steady.sound, fun j task _ => steady.settled j task⟩

theorem spent_step {past pool : EdgePool N} {k : Nat} {context : AuthorizationContext}
    (steady : Steady pool) (spent : Spent past k context pool) (event : Event Gesture) :
    Spent past k context (pool.step (edgeExec outside) EdgeState.instant (serve config) event) := by
  cases event with
  | start request => exact spent_start config outside spent request
  | resume i =>
      have both (pool : EdgePool N) (task : EdgeTask) (op : EdgeOp)
          (resume : Except String op.Res → Edge Unit) (found : pool.tasks[i]? = some task)
          (left : task.prog = .await op resume) (held : Turning i pool ∧ Spent past k context pool) :
          Turning i (pool.perform (edgeExec outside) i task op resume) ∧
            Spent past k context (pool.perform (edgeExec outside) i task op resume) := by
        constructor
        · exact turning_perform outside held.1 found left
        · exact spent_perform outside held.1.sound held.2 found
            (follows_of_watched (held.1.watched i) found left).1
      have start := And.intro (turning_of_steady steady i) spent
      have turned : Turning i (pool.turn (edgeExec outside) EdgeState.instant i) ∧
          Spent past k context (pool.turn (edgeExec outside) EdgeState.instant i) := by
        apply turn_kept (fun pool => Turning i pool ∧ Spent past k context pool) pool i start
        · exact fun task op resume found left => both pool task op resume found left start
        · exact fun pool task op resume found left _ held => both pool task op resume found left held
      exact turned.2

theorem spent_play {past pool : EdgePool N} {k : Nat} {context : AuthorizationContext}
    (steady : Steady pool) (spent : Spent past k context pool) (events : List (Event Gesture)) :
    Spent past k context (pool.play (edgeExec outside) EdgeState.instant (serve config) events) := by
  induction events generalizing pool with
  | nil => exact spent
  | cons event rest ih =>
      exact ih (steady_step config outside steady event) (spent_step config outside steady spent event)

/-- With no flow pending, every flow that was begun is spent. -/
theorem spent_of_none_pending {pool : EdgePool N} (pending : NonePending pool) {k : Nat}
    {context : AuthorizationContext} (begun : BegunAt pool k context) :
    Spent pool k context pool where
  begun := begun
  absent := fun _ => pending.session context.state
  since := fun _ _ task _ found took _ => ⟨task, found, took⟩

/-- A login that was clicked has begun its flow already, if it ever will. -/
theorem begun_already {pool : EdgePool N} (steady : Steady pool) (pending : NonePending pool) {k : Nat}
    (early : k < pool.tasks.length) {events : List (Event Gesture)} {login : EdgeTask}
    {context : AuthorizationContext}
    (found : (pool.play (edgeExec outside) EdgeState.instant (serve config) events).tasks[k]? = some login)
    (member : context ∈ begun login) (request : login.request = .login) :
    ∃ first, BegunAt pool k first := by
  have present := List.getElem?_eq_getElem early
  obtain ⟨later, place, same, ended⟩ := @play_place _ _ _ _ _ _ (edgeExec outside) EdgeState.instant
    (serve config) _ _ _ present events
  rw [found] at place
  obtain rfl := Option.some.inj place
  rw [request] at same
  have begins : begun pool.tasks[k] ≠ [] := by
    by_cases running : pool.tasks[k].running
    · exact pending.logins _ (List.getElem_mem early) same.symm running
    · rw [ended running] at member
      exact List.ne_nil_of_mem member
  obtain ⟨first, stored⟩ := List.exists_mem_of_ne_nil _ begins
  exact ⟨first, _, present, (stored_of_begun steady present stored).2⟩

/-! The run. -/

/-- What is redeemed in a run: of every state at most one callback, with what the login
stored that drew the state, and nothing that was begun before a sign-out after it. -/
structure RedeemedSafely (world : EdgeWorld N) (events : List (Event Gesture)) : Prop where
  single : ∀ (j : Nat) task, (edgeRun config outside world events).tasks[j]? = some task →
    (redemptions task).length ≤ 1
  perState : ∀ (i j : Nat) task other state code code',
    (edgeRun config outside world events).tasks[i]? = some task →
    (edgeRun config outside world events).tasks[j]? = some other →
    authOf task.request = some (state, code) → authOf other.request = some (state, code') →
    redemptions task ≠ [] → redemptions other ≠ [] → i = j
  stored : ∀ (j : Nat) task exchange, (edgeRun config outside world events).tasks[j]? = some task →
    exchange ∈ redemptions task →
      ∃ (k : Nat) (login : EdgeTask) (context : AuthorizationContext) (code : String),
        (edgeRun config outside world events).tasks[k]? = some login ∧ login.request = .login ∧
        begun login = [context] ∧ authOf task.request = some (context.state, code) ∧
        exchange = exchangeOf context code
  signedOut : ∀ before i after, events = before ++ .resume i :: after →
    SignsOut (edgeRun config outside world before) i →
    ∀ (k : Nat) (login : EdgeTask) (context : AuthorizationContext),
      k < (edgeRun config outside world before).tasks.length →
      (edgeRun config outside world events).tasks[k]? = some login → context ∈ begun login →
      ∀ (j : Nat) (task : EdgeTask) (code : String),
        (edgeRun config outside world events).tasks[j]? = some task →
        authOf task.request = some (context.state, code) → redemptions task ≠ [] →
          ∃ earlier, (edgeRun config outside world before).tasks[j]? = some earlier ∧
            redemptions earlier ≠ []

/-- Nobody signs out while a login flow is pending or about to be begun. -/
def Tidy (pool : EdgePool N) (event : Event Gesture) : Prop :=
  ∀ i, event = .resume i → SignsOut pool i → NonePending pool

theorem state_of_took {pool : EdgePool N} (steady : Steady pool) {j : Nat} {task : EdgeTask}
    {context : AuthorizationContext} {state code : String} (found : pool.tasks[j]? = some task)
    (took : (task.seen sessionProtocol).took = some context)
    (called : authOf task.request = some (state, code)) : context.state = state := by
  obtain ⟨_, called', _⟩ := redeems_taken steady found took
  rw [called] at called'
  exact (Prod.mk.inj (Option.some.inj called')).1.symm

/-- In a run that draws no state twice, redemptions are safe when nobody signs out with
a flow pending. -/
theorem redeemed_safely {world : EdgeWorld N} (unbegun : Unbegun world) (events : List (Event Gesture))
    (drawn : DrawnOnce (edgeRun config outside world events))
    (tidy : Disciplined (edgeExec outside) EdgeState.instant (serve config) Tidy ⟨world, []⟩ events) :
    RedeemedSafely config outside world events := by
  have steady := steady_run config outside unbegun events
  constructor
  · intro j task found
    cases took : (task.seen sessionProtocol).took with
    | none =>
        rw [redeems_none steady found took]
        exact Nat.zero_le 1
    | some context =>
        obtain ⟨code, _, same⟩ := redeems_taken steady found took
        rw [same]
        exact Nat.le_refl 1
  · intro i j task other state code code' found found' called called' redeems redeems'
    obtain ⟨context, took⟩ := took_of_redeems steady found redeems
    obtain ⟨context', took'⟩ := took_of_redeems steady found' redeems'
    have same := state_of_took steady found took called
    have same' := state_of_took steady found' took' called'
    exact steady.sound.once drawn i j task other context context' found found' took took'
      (same.trans same'.symm)
  · intro j task exchange found member
    obtain ⟨context, took⟩ := took_of_redeems steady found (List.ne_nil_of_mem member)
    obtain ⟨code, called, same⟩ := redeems_taken steady found took
    rw [same] at member
    obtain ⟨_, k, login, present, seen⟩ := steady.sound.owned j task context found (holds_of_took took)
    obtain ⟨request, begins⟩ := begun_of_stored steady present seen
    exact ⟨k, login, context, code, present, request, begins, called, List.mem_singleton.mp member⟩
  · intro before i after split signsOut k login context early present member j task code found called
      redeems
    have past := steady_run config outside unbegun before
    rw [split, disciplined_append] at tidy
    -- Nobody signs out with a flow pending, so the flows begun before it were spent before it.
    have pending : NonePending (edgeRun config outside world before) :=
      tidy.2.1 i rfl signsOut
    have whole : edgeRun config outside world events =
        (edgeRun config outside world before).play (edgeExec outside) EdgeState.instant (serve config)
          (.resume i :: after) := by
      rw [split]
      exact play_append _ before _
    have ⟨request, seen⟩ := stored_of_begun steady present member
    rw [whole] at present
    obtain ⟨first, begins⟩ := begun_already config outside past pending early present member request
    have spent := spent_play config outside past (spent_of_none_pending pending begins)
      (.resume i :: after)
    rw [← whole] at spent present
    -- The flow the login had begun is the one it has begun in the end.
    obtain ⟨login', present', seen'⟩ := spent.begun
    rw [present] at present'
    obtain rfl := Option.some.inj present'
    rw [seen] at seen'
    injection seen' with own
    obtain ⟨taken, took⟩ := took_of_redeems steady found redeems
    have same := state_of_took steady found took called
    rw [own] at same
    obtain ⟨earlier, there, took'⟩ := spent.since drawn j task taken found took same
    obtain ⟨_, _, redeemed⟩ := redeems_taken past there took'
    refine ⟨earlier, there, ?_⟩
    rw [redeemed]
    exact List.cons_ne_nil _ _

/-! A browser login whose random bytes count the draws. -/

def provider : AuthPublicConfig :=
  ⟨"entra", "http://idp", "http://idp/meta", "hub", "edge", "admin", ""⟩

def discovery : OidcDiscovery := ⟨"http://idp", "http://idp/authorize", "http://idp/token", "", none⟩

def countingOutside : EdgeOutside Nat :=
  { fetch := fun request state =>
      match request with
      | .publicConfig _ => (.ok (answered provider), state)
      | .discovery _ => (.ok (answered discovery), state)
      | _ => (.error "unreachable", state)
    exchange := fun _ state => (.ok ⟨"token", none⟩, state)
    keyringFails := fun state => (none, state)
    openFails := fun _ state => (none, state)
    sha256 := fun _ => []
    randomValues := fun count state =>
      (⟨List.replicate count (UInt8.ofNat state), List.length_replicate⟩, state + 1) }

def freshWorld : EdgeWorld Nat :=
  { app :=
      { boot := none, bearer := none, me := none, error := none, pendingConnectInstance := none
        rowPending := ∅, loginPending := false, refs := ⟨none, none⟩ }
    session := ∅, keyring := none, outside := 0, history := [] }

theorem fresh_unbegun : Unbegun freshWorld := ⟨fun _ => rfl, rfl⟩

/-- The state drawn after some draws. -/
def stateOf (draws : Nat) : String := base64UrlNoPad (List.replicate 16 (UInt8.ofNat draws))

def authCallback (draws : Nat) : Gesture := .deepLink ⟨"auth", some "code", some (stateOf draws)⟩

def loginOf (i : Nat) : List (Event Gesture) :=
  [.start .login, .resume i, .resume i, .resume i, .resume i, .resume i]

/-- Two logins, the callback of the first, and a click on sign-out. -/
def twoLogins : List (Event Gesture) :=
  loginOf 0 ++ loginOf 1 ++ [.start (authCallback 1), .resume 2, .resume 2, .resume 2, .start .signOut]

/-- One login, its callback and a sign-out. -/
def oneLogin : List (Event Gesture) :=
  loginOf 0 ++ [.start (authCallback 1), .resume 1, .resume 1, .resume 1, .start .signOut, .resume 2]

/-- Where a sign-out is carried out, the session is empty and every login has stored its flow. -/
def tidyCheck (pool : EdgePool Nat) (event : Event Gesture) : Bool :=
  match event with
  | .start _ => true
  | .resume i =>
      pool.tasks[i]?.map Task.request != some .signOut ||
        (decide (pool.state.session.entries = []) && pool.tasks.all fun task => begun task != [] ||
          task.request != .login)

theorem tidy_of_check (pool : EdgePool Nat) (event : Event Gesture)
    (checked : tidyCheck pool event = true) : Tidy pool event := by
  rintro i rfl ⟨task, found, request, _⟩
  simp only [tidyCheck, found, Option.map_some, request, bne_self_eq_false, Bool.false_or,
    Bool.and_eq_true, decide_eq_true_eq, List.all_eq_true] at checked
  constructor
  · intro state
    rw [AList.lookup, checked.1]
    rfl
  · intro other member login _ empty
    simpa [empty, login] using checked.2 other member

theorem one_login_safe : RedeemedSafely sampleConfig countingOutside freshWorld oneLogin := by
  apply redeemed_safely sampleConfig countingOutside fresh_unbegun
  · have states : storedStates (edgeRun sampleConfig countingOutside freshWorld oneLogin).state.history =
        [stateOf 1] := rfl
    rw [DrawnOnce, states]
    exact List.nodup_singleton _
  · apply disciplined_of_along _ _ _ tidy_of_check
    rfl

/-- The flow that was pending when the user signed out is redeemed by its callback. -/
theorem pending_flow_redeemed :
    ¬ RedeemedSafely sampleConfig countingOutside freshWorld
      (twoLogins ++ [.resume 3, .start (authCallback 3), .resume 4]) := by
  intro safe
  obtain ⟨earlier, there, _⟩ := safe.signedOut twoLogins 3 [.start (authCallback 3), .resume 4] rfl
    ⟨_, rfl, rfl, _, rfl⟩ 1 _ _ (by decide +kernel) rfl (List.mem_singleton.mpr rfl) 4 _ "code" rfl rfl
    (List.cons_ne_nil _ _)
  cases there

end Lehen.Redeeming
