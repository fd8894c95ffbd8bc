import Lehen.Routing

/-!
The login flows of the Edge and who holds them: the session storage, or the one
callback that took the flow out of it.
-/

namespace Lehen.Flows

open EdgeState EdgeHub EdgeApp Pkce Schedule Routing
open Prog (Monitor only_bind only_perform only_require only_lift only_handle follows_only
  follows_perform_then follows_handle follows_bind follows_mono follows_yields_then yields_of_only)

variable {N : Type} (config : EdgeConfig) (outside : EdgeOutside N)

/-! What a task has asked for. -/

def exchangeOp (entry : (op : EdgeOp) × Except String op.Res) : Option Exchange :=
  match entry.1 with
  | .exchangeOidcCode exchange => some exchange
  | _ => none

def storeOp (op : EdgeOp) : Option AuthorizationContext :=
  match op with
  | .setItem _ context => some context
  | _ => none

abbrev EdgeTask := Task Gesture EdgeOp EdgeOp.Res String Unit

/-- The redemptions a task has asked for, with one it still waits for. -/
def redemptions (task : EdgeTask) : List Exchange :=
  task.log.filterMap exchangeOp ++
    match task.prog with
    | .await (.exchangeOidcCode exchange) _ => [exchange]
    | _ => []

/-- The flows a task has stored. -/
def begun (task : EdgeTask) : List AuthorizationContext := task.log.filterMap fun entry => storeOp entry.1

/-- State and code of an auth callback that has both. -/
def authOf (request : Gesture) : Option (String × String) :=
  match request with
  | .deepLink link =>
      if link.surface = "auth" then
        match given link.code, given link.state with
        | some code, some state => some (state, code)
        | _, _ => none
      else none
  | _ => none

/-! How far a task is with the session storage. -/

inductive Phase where
  | idle
  | found (context : AuthorizationContext)
  | taken (context : AuthorizationContext)
  | redeemed (context : AuthorizationContext)
  | stored (context : AuthorizationContext)
  deriving DecidableEq, Repr

/-- Neither the session storage nor the token endpoint. -/
def Plain : EdgeOp → Prop
  | .getItem _ | .setItem _ _ | .removeItem _ | .exchangeOidcCode _ => False
  | _ => True

def Phase.next (phase : Phase) (op : EdgeOp) (answer : Except String op.Res) : Phase :=
  match phase, op, answer with
  | .idle, .getItem _, .ok (some context) => .found context
  | .idle, .setItem _ context, _ => .stored context
  | .found context, .removeItem _, .ok _ => .taken context
  | .found _, .removeItem _, .error _ => .idle
  | .taken context, .exchangeOidcCode _, _ => .redeemed context
  | phase, _, _ => phase

def Phase.Allows (request : Gesture) (phase : Phase) (op : EdgeOp) : Prop :=
  match phase with
  | .idle => Plain op ∨ (∃ state code, authOf request = some (state, code) ∧ op = .getItem (flowKey state)) ∨
      (request = .login ∧ ∃ context, op = .setItem (flowKey context.state) context)
  | .found _ => ∃ state code, authOf request = some (state, code) ∧ op = .removeItem (flowKey state)
  | .taken context => ∃ state code, authOf request = some (state, code) ∧
      op = .exchangeOidcCode (exchangeOf context code)
  | .redeemed _ | .stored _ => Plain op

/-- A flow that was found is taken and redeemed before the task ends. -/
def Phase.Ends : Phase → Prop
  | .found _ | .taken _ => False
  | _ => True

def phaseMonitor (request : Gesture) : Monitor EdgeOp EdgeOp.Res String Phase :=
  { allowed := fun phase op => phase.Allows request op, next := fun phase op answer => phase.next op answer }

def sessionProtocol : Protocol Gesture EdgeOp EdgeOp.Res String Unit Phase :=
  { monitor := phaseMonitor, initial := fun _ => .idle, post := fun _ _ phase => phase.Ends }

/-! Every handler keeps to it. -/

theorem plain_next (phase : Phase) {op : EdgeOp} (plain : Plain op) (answer : Except String op.Res) :
    phase.next op answer = phase := by
  unfold Phase.next
  split <;> first | exact plain.elim | rfl

/-- Plain operations are allowed, and not noticed, where nothing has been found. -/
theorem plain_unnoticed {request : Gesture} {phase : Phase} (ends : phase.Ends) (op : EdgeOp)
    (plain : Plain op) :
    (phaseMonitor request).allowed phase op ∧
      ∀ answer, (phaseMonitor request).next phase op answer = phase := by
  refine ⟨?_, plain_next phase plain⟩
  cases phase with
  | idle => exact .inl plain
  | found context => exact ends.elim
  | taken context => exact ends.elim
  | redeemed context => exact plain
  | stored context => exact plain

theorem served_plain {request : Gesture} (only : (serve config request).Only Plain) :
    sessionProtocol.Served (serve config) request :=
  follows_only only (plain_unnoticed trivial) fun _ => trivial

theorem plain_fetched {Body : Type} {request : EdgeFetch} (ok : Response request.Body → Prop)
    [∀ response, Decidable (ok response)] (text : Response request.Body → String)
    (body : Response request.Body → Except String Body) :
    ((fetch request).bind fun response =>
      (Prog.require (ok response) (text response) : Edge Unit).bind fun _ =>
        (Prog.lift (body response) : Edge Body)).Only Plain := by
  apply only_bind (only_perform trivial)
  intro response
  apply only_bind (only_require _ _)
  exact fun _ => only_lift _

theorem plain_refresh (token : String) : (refreshMe config token).Only Plain := by
  apply only_handle
  · apply only_bind
    · unfold fetchMe
      exact plain_fetched (fun response => response.ok = true) _ _
    · exact fun _ => only_perform trivial
  · intro message
    split
    · apply only_bind (only_perform trivial)
      intro _
      apply only_bind (only_perform trivial)
      intro _
      apply only_bind (only_perform trivial)
      exact fun _ => only_perform trivial
    · exact only_perform trivial

theorem plain_boot : (boot config).Only Plain := by
  apply only_handle
  · apply only_bind
    · unfold fetchAuthPublicConfig
      exact plain_fetched (fun response => response.ok = true) _ _
    · intro publicConfig
      apply only_bind (only_perform trivial)
      intro _
      apply only_bind (only_perform trivial)
      intro stored
      split
      · split
        · trivial
        · exact only_perform trivial
      · trivial
  · exact fun _ => only_perform trivial

theorem plain_render : (render config).Only Plain := by
  apply only_bind (only_perform trivial)
  intro bearer
  split
  · split
    · trivial
    · exact plain_refresh config _
  · trivial

theorem plain_sign_out : handleSignOut.Only Plain := by
  apply only_bind (only_perform trivial)
  intro _
  apply only_bind (only_perform trivial)
  exact fun _ => only_perform trivial

theorem plain_connect (instanceId : String) : (handleConnect config instanceId).Only Plain := by
  apply only_bind (only_perform trivial)
  intro refs
  split
  · trivial
  · apply only_bind (only_perform trivial)
    intro _
    apply only_handle
    · apply only_bind
      · unfold initiateGrant
        exact plain_fetched (fun response => response.ok = true) _ _
      · intro grant
        apply only_bind (only_perform trivial)
        exact fun _ => only_perform trivial
    · intro message
      apply only_bind (only_perform trivial)
      exact fun _ => only_perform trivial

theorem plain_oauth (link : DeepLink) : (onOauth config link).Only Plain := by
  apply only_bind (only_perform trivial)
  intro refs
  split
  · apply only_handle
    · apply only_bind
      · unfold completeGrant
        exact plain_fetched (fun response => response.ok = true) _ _
      · intro _
        apply only_bind (only_perform trivial)
        exact fun _ => plain_refresh config _
    · exact fun _ => only_perform trivial
  · exact only_perform trivial

/-- What is left of a request at a phase keeps to the protocol. -/
def Keeps {α : Type} (request : Gesture) (phase : Phase) (body : Edge α) : Prop :=
  body.Follows (phaseMonitor request) (fun _ phase => phase.Ends) phase

theorem keeps_plain {α : Type} {request : Gesture} {phase : Phase} {body : Edge α} (ends : phase.Ends)
    (only : body.Only Plain) : Keeps request phase body :=
  follows_only only (plain_unnoticed ends) fun _ => ends

theorem keeps_plain_then {α β : Type} {request : Gesture} {phase : Phase} {body : Edge α}
    {next : α → Edge β} (ends : phase.Ends) (only : body.Only Plain)
    (rest : ∀ value, Keeps request phase (next value)) : Keeps request phase (body.bind next) :=
  follows_yields_then (yields_of_only only) (plain_unnoticed ends) (fun value _ => rest value)
    fun _ => ends

theorem idle_ends : Phase.idle.Ends := trivial

theorem stored_ends (context : AuthorizationContext) : (Phase.stored context).Ends := trivial

theorem plain_random (byteLen : Nat) : (randomString byteLen).Only Plain :=
  only_bind (only_perform trivial) fun _ => trivial

theorem plain_set_error (error : Option String) : (setError error).Only Plain := only_perform trivial

/-- A login stores one flow, under the key of its state. -/
theorem keeps_begin : Keeps .login .idle (beginHubLogin config) := by
  apply keeps_plain_then idle_ends
  · unfold fetchAuthPublicConfig
    exact plain_fetched (fun response => response.ok = true) _ _
  · intro publicConfig
    apply keeps_plain_then idle_ends
    · unfold fetchDiscovery
      exact plain_fetched (fun response => response.ok = true) _ _
    · intro discovery
      apply keeps_plain_then idle_ends (plain_random 32)
      intro codeVerifier
      apply keeps_plain_then idle_ends
      · exact only_perform trivial
      · intro challengeBytes
        apply keeps_plain_then idle_ends (plain_random 16)
        intro state
        apply follows_perform_then
        · exact .inr (.inr ⟨rfl, _, rfl⟩)
        · intro _
          apply keeps_plain (stored_ends _)
          apply only_bind (only_perform trivial)
          exact fun _ => trivial
        · exact fun _ => trivial

/-- A handler that is plain runs where the body broke off. -/
theorem keeps_handle {α : Type} {request : Gesture} {phase : Phase} {body : Edge α}
    {handler : String → Edge α} (keeps : Keeps request phase body)
    (plain : ∀ error, (handler error).Only Plain) : Keeps request phase (body.handle handler) := by
  rw [Keeps, follows_handle]
  apply follows_mono keeps
  intro outcome after ends
  cases outcome with
  | ok value => exact ends
  | error error => exact keeps_plain ends (plain error)

/-- In front of a plain rest. -/
theorem keeps_then_plain {α β : Type} {request : Gesture} {phase : Phase} {body : Edge α}
    {next : α → Edge β} (keeps : Keeps request phase body) (plain : ∀ value, (next value).Only Plain) :
    Keeps request phase (body.bind next) := by
  rw [Keeps, follows_bind]
  apply follows_mono keeps
  intro outcome after ends
  cases outcome with
  | ok value => exact keeps_plain ends (plain value)
  | error error => exact ends

theorem served_login : sessionProtocol.Served (serve config) .login := by
  apply keeps_plain_then idle_ends
  · exact only_perform trivial
  · intro _
    apply keeps_then_plain
    · apply keeps_handle
      · exact keeps_then_plain (keeps_begin config) fun _ => trivial
      · exact fun _ => plain_set_error _
    · exact fun _ => only_perform trivial

/-- A callback redeems the flow it took, with its own code. -/
theorem keeps_complete {request : Gesture} {state code : String}
    (called : authOf request = some (state, code)) :
    Keeps request .idle (completeHubLogin state code) := by
  unfold completeHubLogin takeFlow
  simp only [Prog.bind_eq, Prog.bind_assoc]
  apply follows_perform_then
  · exact .inr (.inl ⟨state, code, called, rfl⟩)
  · intro raw
    cases raw with
    | none => exact trivial
    | some context =>
        simp only [Prog.bind_assoc, Prog.pure_eq, Prog.bind_ret]
        apply follows_perform_then
        · exact ⟨state, code, called, rfl⟩
        · intro _
          apply follows_perform_then
          · exact ⟨state, code, called, rfl⟩
          · exact fun _ => trivial
          · exact fun _ => trivial
        · exact fun _ => trivial
  · exact fun _ => trivial

theorem served_auth {link : DeepLink} (surface : link.surface = "auth") :
    sessionProtocol.Served (serve config) (.deepLink link) := by
  have begins : serve config (.deepLink link) = onAuth link := by
    simp only [serve, deepLink, surface]
    rfl
  unfold Protocol.Served
  rw [begins]
  unfold onAuth
  split
  · next code state coded stated =>
      have called : authOf (.deepLink link) = some (state, code) := by
        simp only [authOf, surface, coded, stated, if_true]
      apply keeps_handle
      · apply keeps_then_plain (keeps_complete called)
        rintro ⟨accessToken, _⟩
        apply only_bind (only_perform trivial)
        intro _
        apply only_bind (only_perform trivial)
        exact fun _ => plain_set_error _
      · exact fun _ => plain_set_error _
  · exact keeps_plain idle_ends (plain_set_error _)

theorem served (request : Gesture) : sessionProtocol.Served (serve config) request := by
  cases request with
  | boot => exact served_plain config (plain_boot config)
  | render => exact served_plain config (plain_render config)
  | login => exact served_login config
  | signOut => exact served_plain config plain_sign_out
  | connect instanceId => exact served_plain config (plain_connect config instanceId)
  | deepLink link =>
      by_cases auth : link.surface = "auth"
      · exact served_auth config auth
      · apply served_plain
        unfold serve deepLink
        dsimp only
        rw [if_neg auth]
        split
        · exact plain_oauth config link
        · trivial

/-! What the log of a task says of its phase. -/

/-- The context a task has got hold of. -/
def Phase.holds : Phase → Option AuthorizationContext
  | .found context | .taken context | .redeemed context => some context
  | _ => none

/-- The context a task has taken out of the session. -/
def Phase.took : Phase → Option AuthorizationContext
  | .taken context | .redeemed context => some context
  | _ => none

def exchanges (task : EdgeTask) : List Exchange := task.log.filterMap exchangeOp

def Told (request : Gesture) (phase : Phase) (exchanges : List Exchange)
    (stores : List AuthorizationContext) : Prop :=
  match phase with
  | .idle | .found _ | .taken _ => exchanges = [] ∧ stores = []
  | .redeemed context => (∃ state code, authOf request = some (state, code) ∧
      exchanges = [exchangeOf context code]) ∧ stores = []
  | .stored context => request = .login ∧ exchanges = [] ∧ stores = [context]

theorem plain_silent {op : EdgeOp} (plain : Plain op) (answer : Except String op.Res) :
    exchangeOp ⟨op, answer⟩ = none ∧ storeOp op = none := by
  cases op <;> first | exact plain.elim | exact ⟨rfl, rfl⟩

theorem told_next {request : Gesture} {phase : Phase} {exchanges : List Exchange}
    {stores : List AuthorizationContext} {op : EdgeOp} (answer : Except String op.Res)
    (told : Told request phase exchanges stores) (allowed : phase.Allows request op) :
    Told request (phase.next op answer) (exchanges ++ (exchangeOp ⟨op, answer⟩).toList)
      (stores ++ (storeOp op).toList) := by
  by_cases plain : Plain op
  · rw [plain_next phase plain, (plain_silent plain answer).1, (plain_silent plain answer).2]
    simpa using told
  · cases phase with
    | idle =>
        obtain ⟨rfl, rfl⟩ := told
        rcases allowed with free | ⟨state, code, called, rfl⟩ | ⟨login, context, rfl⟩
        · exact absurd free plain
        · rcases answer with error | (_ | context) <;> exact ⟨rfl, rfl⟩
        · exact ⟨login, rfl, rfl⟩
    | found context =>
        obtain ⟨rfl, rfl⟩ := told
        obtain ⟨state, code, called, rfl⟩ := allowed
        cases answer <;> exact ⟨rfl, rfl⟩
    | taken context =>
        obtain ⟨rfl, rfl⟩ := told
        obtain ⟨state, code, called, rfl⟩ := allowed
        exact ⟨⟨state, code, called, rfl⟩, rfl⟩
    | redeemed context => exact absurd allowed plain
    | stored context => exact absurd allowed plain

theorem took_next {phase : Phase} {op : EdgeOp} {answer : Except String op.Res}
    {context : AuthorizationContext} (took : (phase.next op answer).took = some context) :
    phase.took = some context ∨ phase = .found context ∧ ∃ key, op = .removeItem key := by
  unfold Phase.next at took
  split at took
  · cases took
  · cases took
  · obtain rfl := Option.some.inj took
    exact .inr ⟨rfl, _, rfl⟩
  · cases took
  · exact .inl took
  · exact .inl took

/-! What holds of the session and of all tasks. -/

def storedStates (history : List EdgeOp) : List String :=
  (history.filterMap storeOp).map AuthorizationContext.state

/-- No two flows were stored with one state. -/
def DrawnOnce (pool : EdgePool N) : Prop := (storedStates pool.state.history).Nodup

def BegunAt (pool : EdgePool N) (k : Nat) (context : AuthorizationContext) : Prop :=
  ∃ task : EdgeTask, pool.tasks[k]? = some task ∧ task.seen sessionProtocol = .stored context

def Begun (pool : EdgePool N) (context : AuthorizationContext) : Prop := ∃ k, BegunAt pool k context

structure Sound (pool : EdgePool N) : Prop where
  told : ∀ (j : Nat) (task : EdgeTask), pool.tasks[j]? = some task →
    Told task.request (task.seen sessionProtocol) (exchanges task) (begun task)
  kept : ∀ state context, pool.state.session.lookup (flowKey state) = some context →
    context.state = state ∧ Begun pool context
  owned : ∀ (j : Nat) (task : EdgeTask) context, pool.tasks[j]? = some task →
    (task.seen sessionProtocol).holds = some context →
      (∃ code, authOf task.request = some (context.state, code)) ∧ Begun pool context
  recorded : ∀ context, Begun pool context → context.state ∈ storedStates pool.state.history
  found : ∀ (j : Nat) (task : EdgeTask) context, pool.tasks[j]? = some task →
    task.seen sessionProtocol = .found context →
      pool.state.session.lookup (flowKey context.state) = some context
  taken : DrawnOnce pool → ∀ (j : Nat) (task : EdgeTask) context, pool.tasks[j]? = some task →
    (task.seen sessionProtocol).took = some context →
      pool.state.session.lookup (flowKey context.state) = none
  once : DrawnOnce pool → ∀ (i j : Nat) (task other : EdgeTask) context context',
    pool.tasks[i]? = some task → pool.tasks[j]? = some other →
      (task.seen sessionProtocol).took = some context →
        (other.seen sessionProtocol).took = some context' → context.state = context'.state → i = j

theorem flow_key_injective {first second : String} (same : flowKey first = flowKey second) :
    first = second := by
  have chars := congrArg String.toList same
  simp only [flowKey, String.toList_append] at chars
  exact String.toList_inj.mp (List.append_cancel_left chars)

theorem plain_session {op : EdgeOp} (world : EdgeWorld N) (plain : Plain op) :
    (edgeExec outside op world).2.session = world.session := by
  cases op with
  | storeToken token => exact (keyring_exec_same outside world () (some token)).2
  | getToken => exact (keyring_exec_same outside world world.keyring world.keyring).2
  | deleteToken => exact (keyring_exec_same outside world () none).2
  | openExternal url =>
      simp only [edgeExec, performExec]
      split <;> rfl
  | getItem key => exact plain.elim
  | setItem key context => exact plain.elim
  | removeItem key => exact plain.elim
  | exchangeOidcCode exchange => exact plain.elim
  | _ => rfl

theorem stored_states_snoc (history : List EdgeOp) (op : EdgeOp) :
    storedStates (history ++ [op]) =
      storedStates history ++ ((storeOp op).map AuthorizationContext.state).toList := by
  rw [storedStates, List.filterMap_append, List.map_append]
  cases stored : storeOp op with
  | none => simp [storedStates, stored]
  | some context => simp [storedStates, stored]

/-! One operation of one task. -/

theorem filter_map_snoc {α β : Type} (pick : α → Option β) (entries : List α) (entry : α) :
    (entries ++ [entry]).filterMap pick = entries.filterMap pick ++ (pick entry).toList := by
  cases picked : pick entry <;> simp [List.filterMap_append, picked]

section Performing

variable {outside} {pool : EdgePool N} {i : Nat} {task : EdgeTask} {op : EdgeOp}
  {resume : Except String op.Res → Edge Unit}

/-- What an allowed operation that is not plain can be. -/
theorem allowed_cases {request : Gesture} {phase : Phase} (allowed : phase.Allows request op) :
    Plain op ∨
      (phase = .idle ∧ ∃ state code, authOf request = some (state, code) ∧ op = .getItem (flowKey state)) ∨
      (phase = .idle ∧ ∃ context, op = .setItem (flowKey context.state) context) ∨
      (∃ context, phase = .found context ∧ ∃ state code, authOf request = some (state, code) ∧
        op = .removeItem (flowKey state)) ∨
      (∃ context exchange, phase = .taken context ∧ op = .exchangeOidcCode exchange) := by
  cases phase with
  | idle =>
      rcases allowed with plain | ⟨state, code, called, same⟩ | ⟨_, context, same⟩
      · exact .inl plain
      · exact .inr (.inl ⟨rfl, state, code, called, same⟩)
      · exact .inr (.inr (.inl ⟨rfl, context, same⟩))
  | found context => exact .inr (.inr (.inr (.inl ⟨context, rfl, allowed⟩)))
  | taken context =>
      obtain ⟨state, code, _, same⟩ := allowed
      exact .inr (.inr (.inr (.inr ⟨context, _, rfl, same⟩)))
  | redeemed context => exact .inl allowed
  | stored context => exact .inl allowed

/-- A flow that is in the session afterwards was there before, or was just stored. -/
theorem lookup_after {request : Gesture} {phase : Phase} {world : EdgeWorld N} {state : String}
    {context : AuthorizationContext} (allowed : phase.Allows request op)
    (held : (edgeExec outside op world).2.session.lookup (flowKey state) = some context) :
    world.session.lookup (flowKey state) = some context ∨
      phase = .idle ∧ op = .setItem (flowKey context.state) context ∧ context.state = state := by
  rcases allowed_cases allowed with plain | ⟨_, _, _, _, rfl⟩ | ⟨idle, stored, rfl⟩ |
    ⟨_, _, other, _, _, rfl⟩ | ⟨_, _, _, rfl⟩
  · rw [plain_session outside world plain] at held
    exact .inl held
  · exact .inl held
  · simp only [edgeExec, performExec] at held
    by_cases same : state = stored.state
    · subst same
      rw [AList.lookup_insert] at held
      obtain rfl := Option.some.inj held
      exact .inr ⟨idle, rfl, rfl⟩
    · rw [AList.lookup_insert_ne fun keys => same (flow_key_injective keys)] at held
      exact .inl held
  · simp only [edgeExec, performExec] at held
    by_cases same : state = other
    · subst same
      rw [AList.lookup_erase] at held
      cases held
    · rw [AList.lookup_erase_ne fun keys => same (flow_key_injective keys)] at held
      exact .inl held
  · exact .inl held

/-- A flow that is not there stays away unless it is stored. -/
theorem absent_after {request : Gesture} {phase : Phase} {world : EdgeWorld N} {state : String}
    (allowed : phase.Allows request op) (absent : world.session.lookup (flowKey state) = none)
    (unstored : ∀ context, storeOp op = some context → context.state ≠ state) :
    (edgeExec outside op world).2.session.lookup (flowKey state) = none := by
  cases held : (edgeExec outside op world).2.session.lookup (flowKey state) with
  | none => rfl
  | some context =>
      rcases lookup_after allowed held with before | ⟨_, rfl, same⟩
      · rw [absent] at before
        cases before
      · exact absurd same (unstored context rfl)

theorem seen_after (answer : Except String op.Res) (prog : Edge Unit) :
    (⟨task.request, task.log ++ [⟨op, answer⟩], prog⟩ : EdgeTask).seen sessionProtocol =
      (task.seen sessionProtocol).next op answer := seen_perform task op prog answer

/-- A task that stored a flow has done with the session. -/
theorem stored_after {context : AuthorizationContext} {answer : Except String op.Res}
    (allowed : (task.seen sessionProtocol).Allows task.request op)
    (stored : task.seen sessionProtocol = .stored context) :
    (task.seen sessionProtocol).next op answer = .stored context := by
  rw [stored] at allowed ⊢
  exact plain_next _ allowed answer

theorem begun_at_after {context : AuthorizationContext} {k : Nat}
    (present : pool.tasks[i]? = some task)
    (allowed : (task.seen sessionProtocol).Allows task.request op) (begun : BegunAt pool k context) :
    BegunAt (pool.perform (edgeExec outside) i task op resume) k context := by
  obtain ⟨other, found, stored⟩ := begun
  have bound : i < pool.tasks.length := (List.getElem?_eq_some_iff.mp present).1
  by_cases same : k = i
  · subst same
    rw [present] at found
    obtain rfl := Option.some.inj found
    refine ⟨_, by rw [Pool.perform]; exact List.getElem?_set_self bound, ?_⟩
    rw [seen_after]
    exact stored_after allowed stored
  · refine ⟨other, ?_, stored⟩
    rw [Pool.perform, List.getElem?_set_ne fun h => same h.symm]
    exact found

theorem begun_after {context : AuthorizationContext} (present : pool.tasks[i]? = some task)
    (allowed : (task.seen sessionProtocol).Allows task.request op) (begun : Begun pool context) :
    Begun (pool.perform (edgeExec outside) i task op resume) context := by
  obtain ⟨k, here⟩ := begun
  exact ⟨k, begun_at_after present allowed here⟩

/-- A flow that was begun afterwards was begun before, or is just being stored. -/
theorem begun_before {context : AuthorizationContext} (present : pool.tasks[i]? = some task)
    (begun : Begun (pool.perform (edgeExec outside) i task op resume) context) :
    Begun pool context ∨ storeOp op = some context := by
  obtain ⟨k, other, found, stored⟩ := begun
  rcases get_perform present found with ⟨rfl, rfl⟩ | ⟨_, before⟩
  · rw [seen_after] at stored
    unfold Phase.next at stored
    split at stored
    · cases stored
    · injection stored with same
      exact .inr (congrArg some same)
    · cases stored
    · cases stored
    · cases stored
    · exact .inl ⟨k, task, present, stored⟩
  · exact .inl ⟨k, other, before, stored⟩

/-- What a task has got hold of it had before, or has just found in the session. -/
theorem holds_after {phase : Phase} {request : Gesture} {world : EdgeWorld N}
    {context : AuthorizationContext} (allowed : phase.Allows request op)
    (holds : (phase.next op (edgeExec outside op world).1).holds = some context) :
    phase.holds = some context ∨ phase.next op (edgeExec outside op world).1 = .found context ∧
      ∃ state code, authOf request = some (state, code) ∧
        world.session.lookup (flowKey state) = some context := by
  rcases allowed_cases allowed with plain | ⟨rfl, state, code, called, rfl⟩ | ⟨rfl, stored, rfl⟩ |
    ⟨_, rfl, _, _, _, rfl⟩ | ⟨_, _, rfl, rfl⟩
  · rw [plain_next phase plain] at holds
    exact .inl holds
  · simp only [edgeExec, performExec] at holds ⊢
    cases held : world.session.lookup (flowKey state) with
    | none =>
        rw [held] at holds
        cases holds
    | some other =>
        rw [held] at holds
        obtain rfl := Option.some.inj holds
        exact .inr ⟨rfl, state, code, called, held⟩
  · cases holds
  · exact .inl holds
  · exact .inl holds

theorem found_after {phase : Phase} {request : Gesture} {world : EdgeWorld N}
    {context : AuthorizationContext} (allowed : phase.Allows request op)
    (found : phase.next op (edgeExec outside op world).1 = .found context) :
    ∃ state, op = .getItem (flowKey state) ∧ world.session.lookup (flowKey state) = some context := by
  rcases allowed_cases allowed with plain | ⟨rfl, state, code, called, rfl⟩ | ⟨rfl, stored, rfl⟩ |
    ⟨_, rfl, _, _, _, rfl⟩ | ⟨_, _, rfl, rfl⟩
  · rw [plain_next phase plain] at found
    subst found
    obtain ⟨_, _, _, rfl⟩ := allowed
    exact plain.elim
  · simp only [edgeExec, performExec] at found
    cases held : world.session.lookup (flowKey state) with
    | none =>
        rw [held] at found
        cases found
    | some other =>
        rw [held] at found
        injection found with same
        exact ⟨state, rfl, held.trans (congrArg some same)⟩
  · cases found
  · cases found
  · cases found

/-- The key a found flow is removed under is that of its state. -/
theorem removed_own (sound : Sound pool) (present : pool.tasks[i]? = some task)
    {context : AuthorizationContext} (seen : task.seen sessionProtocol = .found context)
    (allowed : (task.seen sessionProtocol).Allows task.request op) :
    op = .removeItem (flowKey context.state) := by
  have ⟨⟨code, called⟩, _⟩ := sound.owned i task context present (by rw [seen]; rfl)
  rw [seen] at allowed
  obtain ⟨state, code', called', same⟩ := allowed
  rw [called] at called'
  obtain ⟨rfl, _⟩ := Prod.mk.inj (Option.some.inj called')
  exact same

theorem holds_of_took {phase : Phase} {context : AuthorizationContext} (took : phase.took = some context) :
    phase.holds = some context := by
  cases phase <;> first | exact took | cases took

theorem drawn_before (drawn : DrawnOnce (pool.perform (edgeExec outside) i task op resume)) :
    DrawnOnce pool := by
  unfold DrawnOnce at drawn
  simp only [Pool.perform, edge_history, stored_states_snoc] at drawn
  exact drawn.of_append_left

/-- A flow that has been begun is not stored a second time. -/
theorem unstored_again (sound : Sound pool)
    (drawn : DrawnOnce (pool.perform (edgeExec outside) i task op resume))
    {context : AuthorizationContext} (begun : Begun pool context) (stored : AuthorizationContext)
    (stores : storeOp op = some stored) : stored.state ≠ context.state := by
  intro same
  have old := sound.recorded context begun
  unfold DrawnOnce at drawn
  simp only [Pool.perform, edge_history, stored_states_snoc, stores, Option.map_some,
    Option.toList_some] at drawn
  rw [← same] at old
  exact (List.nodup_append.mp drawn).2.2 _ old _ (List.mem_singleton.mpr rfl) rfl

theorem sound_perform (sound : Sound pool) (present : pool.tasks[i]? = some task)
    (allowed : (task.seen sessionProtocol).Allows task.request op)
    (alone : ∀ (j : Nat) (other : EdgeTask), j ≠ i → pool.tasks[j]? = some other →
      ∀ context, other.seen sessionProtocol ≠ .found context) :
    Sound (pool.perform (edgeExec outside) i task op resume) where
  told := by
    intro j other after
    rcases get_perform present after with ⟨_, rfl⟩ | ⟨_, before⟩
    · rw [seen_after]
      have told := told_next (edgeExec outside op pool.state).1 (sound.told i task present) allowed
      simpa only [exchanges, begun, filter_map_snoc] using told
    · exact sound.told j other before
  kept := by
    intro state context held
    rcases lookup_after allowed held with before | ⟨idle, rfl, same⟩
    · obtain ⟨same, begun⟩ := sound.kept state context before
      exact ⟨same, begun_after present allowed begun⟩
    · have bound : i < pool.tasks.length := (List.getElem?_eq_some_iff.mp present).1
      refine ⟨same, i, _, by rw [Pool.perform]; exact List.getElem?_set_self bound, ?_⟩
      rw [seen_after, idle]
      rfl
  owned := by
    intro j other context after holds
    rcases get_perform present after with ⟨_, rfl⟩ | ⟨_, before⟩
    · rw [seen_after] at holds
      rcases holds_after allowed holds with earlier | ⟨_, state, code, called, held⟩
      · obtain ⟨called, begun⟩ := sound.owned i task context present earlier
        exact ⟨called, begun_after present allowed begun⟩
      · obtain ⟨same, begun⟩ := sound.kept state context held
        rw [same]
        exact ⟨⟨code, called⟩, begun_after present allowed begun⟩
    · obtain ⟨called, begun⟩ := sound.owned j other context before holds
      exact ⟨called, begun_after present allowed begun⟩
  recorded := by
    intro context begun
    simp only [Pool.perform, edge_history, stored_states_snoc]
    rcases begun_before present begun with before | stored
    · exact List.mem_append_left _ (sound.recorded context before)
    · simp [stored]
  found := by
    intro j other context after seen
    rcases get_perform present after with ⟨_, rfl⟩ | ⟨different, before⟩
    · rw [seen_after] at seen
      obtain ⟨state, rfl, held⟩ := found_after allowed seen
      rw [(sound.kept state context held).1]
      exact held
    · exact absurd seen (alone j other different before context)
  taken := by
    intro drawn j other context after took
    have drawn' := drawn_before drawn
    -- A flow that had been taken before stays away, since it is not stored again.
    have away (k : Nat) (third : EdgeTask) (before : pool.tasks[k]? = some third)
        (earlier : (third.seen sessionProtocol).took = some context) :
        (edgeExec outside op pool.state).2.session.lookup (flowKey context.state) = none := by
      have begun := (sound.owned k third context before (holds_of_took earlier)).2
      exact absent_after allowed (sound.taken drawn' k third context before earlier)
        (unstored_again sound drawn begun)
    rcases get_perform present after with ⟨_, rfl⟩ | ⟨_, before⟩
    · rw [seen_after] at took
      rcases took_next took with earlier | ⟨seen, _⟩
      · exact away i task present earlier
      · obtain rfl := removed_own sound present seen allowed
        exact AList.lookup_erase _ _
    · exact away j other before took
  once := by
    intro drawn j k first second context context' after after' took took' same
    have drawn' := drawn_before drawn
    -- Of a flow that was found, nobody else has taken one with its state.
    have fresh {l : Nat} {third : EdgeTask} {own other : AuthorizationContext}
        (seen : task.seen sessionProtocol = .found own) (before : pool.tasks[l]? = some third)
        (earlier : (third.seen sessionProtocol).took = some other) (same : own.state = other.state) :
        False := by
      have there := sound.found i task own present seen
      rw [same, sound.taken drawn' l third other before earlier] at there
      cases there
    rcases get_perform present after with ⟨rfl, rfl⟩ | ⟨_, before⟩
    · rcases get_perform present after' with ⟨rfl, rfl⟩ | ⟨_, before'⟩
      · rfl
      · rw [seen_after] at took
        rcases took_next took with earlier | ⟨seen, _⟩
        · exact sound.once drawn' _ _ task second context context' present before' earlier took' same
        · exact (fresh seen before' took' same).elim
    · rcases get_perform present after' with ⟨rfl, rfl⟩ | ⟨_, before'⟩
      · rw [seen_after] at took'
        rcases took_next took' with earlier | ⟨seen, _⟩
        · exact sound.once drawn' _ _ first task context context' before present took earlier same
        · exact (fresh seen before took same.symm).elim
      · exact sound.once drawn' _ _ first second context context' before before' took took' same

end Performing

/-! Runs. -/

/-- Between two events nobody has found a flow without having taken it. -/
structure Steady (pool : EdgePool N) : Prop where
  watched : pool.Watched sessionProtocol
  sound : Sound pool
  settled : ∀ (j : Nat) (task : EdgeTask), pool.tasks[j]? = some task →
    ∀ context, task.seen sessionProtocol ≠ .found context

theorem begun_at_started {pool : EdgePool N} {request : Gesture} {context : AuthorizationContext}
    {k : Nat} (begun : BegunAt pool k context) :
    BegunAt (pool.step (edgeExec outside) EdgeState.instant (serve config) (.start request)) k context := by
  obtain ⟨task, found, stored⟩ := begun
  refine ⟨task, ?_, stored⟩
  rw [Pool.step, List.getElem?_append_left (List.getElem?_eq_some_iff.mp found).1]
  exact found

theorem begun_started {pool : EdgePool N} {request : Gesture} {context : AuthorizationContext}
    (begun : Begun pool context) :
    Begun (pool.step (edgeExec outside) EdgeState.instant (serve config) (.start request)) context := by
  obtain ⟨k, here⟩ := begun
  exact ⟨k, begun_at_started config outside here⟩

theorem begun_start {pool : EdgePool N} {request : Gesture} {context : AuthorizationContext}
    (begun : Begun (pool.step (edgeExec outside) EdgeState.instant (serve config) (.start request)) context) :
    Begun pool context := by
  obtain ⟨k, task, found, stored⟩ := begun
  rcases get_start found with before | rfl
  · exact ⟨k, task, before, stored⟩
  · cases stored

theorem sound_start {pool : EdgePool N} (sound : Sound pool) (request : Gesture) :
    Sound (pool.step (edgeExec outside) EdgeState.instant (serve config) (.start request)) where
  told := by
    intro j task found
    rcases get_start found with before | rfl
    · exact sound.told j task before
    · exact ⟨rfl, rfl⟩
  kept := by
    intro state context held
    have ⟨same, begun⟩ := sound.kept state context held
    exact ⟨same, begun_started config outside begun⟩
  owned := by
    intro j task context found holds
    rcases get_start found with before | rfl
    · have ⟨called, begun⟩ := sound.owned j task context before holds
      exact ⟨called, begun_started config outside begun⟩
    · cases holds
  recorded := fun context begun => sound.recorded context (begun_start config outside begun)
  found := by
    intro j task context found seen
    rcases get_start found with before | rfl
    · exact sound.found j task context before seen
    · cases seen
  taken := by
    intro drawn j task context found took
    rcases get_start found with before | rfl
    · exact sound.taken drawn j task context before took
    · cases took
  once := by
    intro drawn i j task other context context' found found' took took' same
    rcases get_start found with before | rfl
    · rcases get_start found' with before' | rfl
      · exact sound.once drawn i j task other context context' before before' took took' same
      · cases took'
    · cases took

/-- During a turn only the task whose turn it is may have found a flow. -/
structure Turning (i : Nat) (pool : EdgePool N) : Prop where
  watched : pool.Watched sessionProtocol
  sound : Sound pool
  alone : ∀ (j : Nat) (task : EdgeTask), j ≠ i → pool.tasks[j]? = some task →
    ∀ context, task.seen sessionProtocol ≠ .found context

theorem turning_perform {pool : EdgePool N} {i : Nat} {task : EdgeTask} {op : EdgeOp}
    {resume : Except String op.Res → Edge Unit} (turning : Turning i pool)
    (found : pool.tasks[i]? = some task) (left : task.prog = .await op resume) :
    Turning i (pool.perform (edgeExec outside) i task op resume) where
  watched := fun j => watched_at_perform (turning.watched j) found left
  sound := sound_perform turning.sound found (follows_of_watched (turning.watched i) found left).1
    turning.alone
  alone := by
    intro j other different after
    rcases get_perform found after with ⟨same, _⟩ | ⟨_, before⟩
    · exact absurd same different
    · exact turning.alone j other different before

/-- A task that has found a flow is about to remove it. -/
theorem removes_found {task : EdgeTask} {context : AuthorizationContext}
    (watched : task.Watched sessionProtocol) (seen : task.seen sessionProtocol = .found context) :
    ∃ key, task.awaits (.removeItem key) := by
  unfold Task.Watched at watched
  rw [seen] at watched
  cases left : task.prog with
  | ret value =>
      rw [left] at watched
      exact watched.elim
  | raise error =>
      rw [left] at watched
      exact watched.elim
  | await op resume =>
      rw [left] at watched
      obtain ⟨state, code, _, rfl⟩ := watched.1
      exact ⟨_, resume, left⟩

theorem steady_step {pool : EdgePool N} (steady : Steady pool) (event : Event Gesture) :
    Steady (pool.step (edgeExec outside) EdgeState.instant (serve config) event) := by
  cases event with
  | start request =>
      constructor
      · exact watched_start steady.watched (served config request)
      · exact sound_start config outside steady.sound request
      · intro j task found context
        rcases get_start found with before | rfl
        · exact steady.settled j task before context
        · exact nofun
  | resume i =>
      have turned : Turning i (pool.turn (edgeExec outside) EdgeState.instant i) := by
        apply turn_kept (Turning i)
        · exact ⟨steady.watched, steady.sound, fun j task _ => steady.settled j task⟩
        · intro task op resume found left
          have turning : Turning i pool :=
            ⟨steady.watched, steady.sound, fun j task _ => steady.settled j task⟩
          exact turning_perform outside turning found left
        · exact fun pool task op resume found left _ turning =>
            turning_perform outside turning found left
      refine ⟨turned.watched, turned.sound, fun j task found context seen => ?_⟩
      by_cases same : j = i
      · subst same
        obtain ⟨key, awaits⟩ := removes_found (turned.watched j task found) seen
        have settled := turn_settled found awaits
        cases settled
      · exact turned.alone j task same found context seen

/-- An app where no login has begun. -/
structure Unbegun (world : EdgeWorld N) : Prop where
  session : ∀ state, world.session.lookup (flowKey state) = none
  history : storedStates world.history = []

theorem steady_run {world : EdgeWorld N} (unbegun : Unbegun world) (events : List (Event Gesture)) :
    Steady (edgeRun config outside world events) := by
  have empty (i : Nat) (task : EdgeTask) : (⟨world, []⟩ : EdgePool N).tasks[i]? ≠ some task := nofun
  have start : Steady (⟨world, []⟩ : EdgePool N) := by
    constructor
    · exact fun i task found => absurd found (empty i task)
    · constructor
      · exact fun i task found => absurd found (empty i task)
      · intro state context held
        rw [unbegun.session] at held
        cases held
      · exact fun i task _ found => absurd found (empty i task)
      · rintro context ⟨i, task, found, _⟩
        exact absurd found (empty i task)
      · exact fun i task _ found => absurd found (empty i task)
      · exact fun _ i task _ found => absurd found (empty i task)
      · exact fun _ i _ task _ _ _ found => absurd found (empty i task)
    · exact fun i task found => absurd found (empty i task)
  have kept (pool : EdgePool N) (steady : Steady pool) : Steady (pool.play (edgeExec outside) EdgeState.instant
      (serve config) events) := by
    induction events generalizing pool with
    | nil => exact steady
    | cons event rest ih => exact ih _ (steady_step config outside steady event)
  exact kept _ start

end Lehen.Flows
