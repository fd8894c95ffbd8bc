import Lehen.EdgeApp
import Lehen.Query
import Lehen.Schedule

/-!
Where the Edge sends the callbacks of source logins. The slot that names the
instance of the next callback is one for all rows.
-/

namespace Lehen.Routing

open EdgeState EdgeHub EdgeApp Schedule

variable {N : Type} (config : EdgeConfig) (outside : EdgeOutside N)

abbrev EdgePool (N : Type) := Pool (EdgeWorld N) Gesture EdgeOp EdgeOp.Res String Unit

/-- The Edge after some events, from a world where nothing is running. -/
def edgeRun (world : EdgeWorld N) (events : List (Event Gesture)) : EdgePool N :=
  (⟨world, []⟩ : EdgePool N).play (edgeExec outside) EdgeState.instant (serve config) events

/-! The path of an instance. -/

theorem uri_byte_plain : ∀ byte : Fin 256,
    (Char.ofNat byte).isAlphanum ∨
        Char.ofNat byte ∈ ['-', '_', '.', '!', '~', '*', Char.ofNat 39, '(', ')'] →
      (Char.ofNat byte).toNat = byte ∧ byte.val < 128 ∧ Char.ofNat byte ≠ '+' ∧
        Char.ofNat byte ≠ '%' := by
  decide +kernel

theorem unquote_uri_byte (byte : UInt8) (rest : List Char) :
    Query.unquoteBytes (uriByte byte ++ rest) = byte :: Query.unquoteBytes rest := by
  have small := byte.toNat_lt
  unfold uriByte
  dsimp only
  split
  · next plain =>
      obtain ⟨same, ascii, plus, percent⟩ := uri_byte_plain ⟨byte.toNat, small⟩ plain
      dsimp only at same ascii plus percent
      rw [List.singleton_append, Query.unquote_plain plus percent, Query.charBytes, same, if_pos ascii,
        UInt8.ofNat_toNat]
      rfl
  · have high := (Query.hex_digit_value ⟨byte.toNat / 16, by omega⟩).1
    have low := (Query.hex_digit_value ⟨byte.toNat % 16, by omega⟩).1
    dsimp only at high low
    have whole : byte.toNat / 16 * 16 + byte.toNat % 16 = byte.toNat := by omega
    simp only [List.cons_append, List.nil_append, Query.unquoteBytes, high, low, whole,
      UInt8.ofNat_toNat]

theorem unquote_uri (bytes : Base64.Bytes) : Query.unquoteBytes (bytes.flatMap uriByte) = bytes := by
  induction bytes with
  | nil => rfl
  | cons byte rest ih => rw [List.flatMap_cons, unquote_uri_byte, ih]

theorem encode_injective {first second : String}
    (same : encodeURIComponent first = encodeURIComponent second) : first = second := by
  have chars := String.ofList_inj.mp same
  have bytes : Secrets.utf8Encode first = Secrets.utf8Encode second := by
    rw [← unquote_uri (Secrets.utf8Encode first), chars, unquote_uri]
  have decoded := Secrets.utf8_decode_encode first
  rw [bytes, Secrets.utf8_decode_encode] at decoded
  exact (Except.ok.inj decoded).symm

/-- Every instance has a path of its own. -/
theorem connection_url_injective {first second step : String}
    (same : connectionUrl config first step = connectionUrl config second step) : first = second := by
  apply encode_injective
  have chars := congrArg String.toList same
  simp only [connectionUrl, toString, String.toList_append] at chars
  have middle : (encodeURIComponent first).toList = (encodeURIComponent second).toList := by
    simpa using chars
  exact String.toList_inj.mp middle

/-! The slot, told by what was performed. -/

def changesSlot : EdgeOp → Bool
  | .setPendingConnectInstance _ => true
  | _ => false

/-- What the latest change of the slot left in it: a Connect that was granted puts its
instance there, and a callback that was completed clears it. -/
def lastChange (history : List EdgeOp) : Option String :=
  match history.reverse.find? changesSlot with
  | some (.setPendingConnectInstance instanceId) => instanceId
  | _ => none

/-- The history up to the last render. -/
def rendered (history : List EdgeOp) : List EdgeOp :=
  (history.reverse.dropWhile fun op => decide (op ≠ .commit)).reverse

/-- The latest change of the slot that was rendered. -/
def shownChange (history : List EdgeOp) : Option String := lastChange (rendered history)

theorem last_change_set (history : List EdgeOp) (instanceId : Option String) :
    lastChange (history ++ [.setPendingConnectInstance instanceId]) = instanceId := by
  rw [lastChange, List.reverse_append, List.reverse_singleton, List.singleton_append,
    List.find?_cons_of_pos rfl]

theorem last_change_other (history : List EdgeOp) {op : EdgeOp} (other : changesSlot op = false) :
    lastChange (history ++ [op]) = lastChange history := by
  simp [lastChange, other]

theorem rendered_commit (history : List EdgeOp) : rendered (history ++ [.commit]) = history ++ [.commit] := by
  simp [rendered]

theorem rendered_other (history : List EdgeOp) {op : EdgeOp} (other : op ≠ .commit) :
    rendered (history ++ [op]) = rendered history := by
  simp [rendered, other]

/-- The slot and its ref are what the history makes of them. -/
def Slotted (world : EdgeWorld N) : Prop :=
  world.app.pendingConnectInstance = lastChange world.history ∧
    world.app.refs.pendingConnect = shownChange world.history

/-- Only two operations touch the slot and the refs. -/
theorem slot_untouched {op : EdgeOp} (world : EdgeWorld N) (unchanged : changesSlot op = false)
    (other : op ≠ .commit) :
    (edgeExec outside op world).2.app.pendingConnectInstance = world.app.pendingConnectInstance ∧
      (edgeExec outside op world).2.app.refs = world.app.refs := by
  cases op with
  | commit => exact absurd rfl other
  | setPendingConnectInstance instanceId => cases unchanged
  | storeToken token =>
      simp only [edgeExec, performExec, (keyring_exec_same outside world () (some token)).1, and_self]
  | getToken =>
      simp only [edgeExec, performExec,
        (keyring_exec_same outside world world.keyring world.keyring).1, and_self]
  | deleteToken =>
      simp only [edgeExec, performExec, (keyring_exec_same outside world () none).1, and_self]
  | openExternal url =>
      simp only [edgeExec, performExec]
      split <;> exact ⟨rfl, rfl⟩
  | _ => exact ⟨rfl, rfl⟩

theorem slotted_exec (op : EdgeOp) (world : EdgeWorld N) (slotted : Slotted world) :
    Slotted (edgeExec outside op world).2 := by
  by_cases unchanged : changesSlot op = false
  · by_cases committed : op = .commit
    · subst committed
      constructor
      · rw [edge_history, last_change_other _ rfl]
        exact slotted.1
      · rw [edge_history, shownChange, rendered_commit, last_change_other _ rfl]
        exact slotted.1
    · have same := slot_untouched outside world unchanged committed
      rw [Slotted, same.1, same.2, edge_history, last_change_other _ unchanged, shownChange,
        rendered_other _ committed]
      exact slotted
  · cases op with
    | setPendingConnectInstance instanceId =>
        constructor
        · rw [edge_history, last_change_set]
          rfl
        · have other : EdgeOp.setPendingConnectInstance instanceId ≠ .commit := by
            intro same
            cases same
          rw [edge_history, shownChange, rendered_other _ other]
          exact slotted.2
    | _ => exact absurd rfl unchanged

/-- An app that shows its pages and has no source login under way. -/
structure Opened (world : EdgeWorld N) : Prop where
  pending : world.app.pendingConnectInstance = none
  shown : world.app.refs.pendingConnect = none
  history : world.history = []

theorem slotted_run {world : EdgeWorld N} (opened : Opened world) (events : List (Event Gesture)) :
    Slotted (edgeRun config outside world events).state := by
  apply play_state Slotted (slotted_exec outside)
  constructor
  · rw [opened.pending, opened.history]
    rfl
  · rw [opened.shown, opened.history]
    rfl

/-! A callback. -/

/-- Task `j` is a callback of a source login that has not run yet. -/
def Arrives (pool : EdgePool N) (j : Nat) (code state : String) : Prop :=
  ∃ link : DeepLink, link.surface = "oauth" ∧ given link.code = some code ∧
    given link.state = some state ∧
    pool.tasks[j]? = some ⟨.deepLink link, [], serve config (.deepLink link)⟩

/-- The user is signed in, as far as the listener can see. -/
def SignedIn (pool : EdgePool N) : Prop := (given pool.state.app.refs.bearer).isSome

/-- A Connect click on the instance was answered with the state. -/
def StartedFor (pool : EdgePool N) (instanceId state : String) : Prop :=
  ∃ task ∈ pool.tasks, task.request = .connect instanceId ∧
    ∃ bearer response grant,
      (⟨.fetch (.initiate (connectionUrl config instanceId "initiate") bearer (oauthRedirectUri config)),
        .ok response⟩ : (op : EdgeOp) × Except String op.Res) ∈ task.log ∧
      response.ok = true ∧ response.json = .ok grant ∧ grant.state = state

/-- The turn of task `j` ends in the request that completes the grant of the instance. -/
def Forwards (pool : EdgePool N) (j : Nat) (instanceId code state : String) : Prop :=
  ∃ task bearer, (pool.turn (edgeExec outside) EdgeState.instant j).tasks[j]? = some task ∧
    task.awaits (.fetch (.complete (connectionUrl config instanceId "complete") bearer code state))

theorem oauth_begins {link : DeepLink} (surface : link.surface = "oauth") :
    serve config (.deepLink link) = onOauth config link := by
  simp only [serve, deepLink, surface]
  rfl

/-- With nothing in the slot the callback ends in an error message. -/
theorem callback_dropped {pool : EdgePool N} {j : Nat} {link : DeepLink} {code state bearer : String}
    (found : pool.tasks[j]? = some ⟨.deepLink link, [], onOauth config link⟩)
    (coded : given link.code = some code) (stated : given link.state = some state)
    (held : given pool.state.app.refs.bearer = some bearer)
    (empty : given pool.state.app.refs.pendingConnect = none) :
    ∃ log, (pool.turn (edgeExec outside) EdgeState.instant j).tasks[j]? = some ⟨.deepLink link, log, .ret ()⟩ := by
  have bound : j < pool.tasks.length := (List.getElem?_eq_some_iff.mp found).1
  rw [Pool.turn, found]
  dsimp only
  rw [List.getElem?_set_self bound]
  simp only [Task.turn, onOauth, Prog.perform, Prog.bind_eq, Prog.bind_await, edgeExec, performExec,
    Prog.bind_ret, coded, stated, held, empty]
  exact ⟨_, rfl⟩

/-- With an instance in the slot the callback goes to the path of that one. -/
theorem callback_sent {pool : EdgePool N} {j : Nat} {link : DeepLink}
    {code state bearer pending : String}
    (found : pool.tasks[j]? = some ⟨.deepLink link, [], onOauth config link⟩)
    (coded : given link.code = some code) (stated : given link.state = some state)
    (held : given pool.state.app.refs.bearer = some bearer)
    (shown : given pool.state.app.refs.pendingConnect = some pending) :
    ∃ log resume, (pool.turn (edgeExec outside) EdgeState.instant j).tasks[j]? = some ⟨.deepLink link, log,
      .await (.fetch (.complete (connectionUrl config pending "complete") bearer code state)) resume⟩ := by
  have bound : j < pool.tasks.length := (List.getElem?_eq_some_iff.mp found).1
  rw [Pool.turn, found]
  dsimp only
  rw [List.getElem?_set_self bound]
  simp only [Task.turn, onOauth, Prog.perform, Prog.bind_eq, Prog.bind_await, edgeExec, performExec,
    Prog.bind_ret, coded, stated, held, shown]
  exact ⟨_, _, rfl⟩

theorem forwards_iff {pool : EdgePool N} {j : Nat} {code state : String}
    (arrives : Arrives config pool j code state) (signedIn : SignedIn pool) (instanceId : String) :
    Forwards config outside pool j instanceId code state ↔
      given pool.state.app.refs.pendingConnect = some instanceId := by
  obtain ⟨link, surface, coded, stated, found⟩ := arrives
  obtain ⟨bearer, held⟩ := Option.isSome_iff_exists.mp signedIn
  rw [oauth_begins config surface] at found
  cases shown : given pool.state.app.refs.pendingConnect with
  | none =>
      obtain ⟨log, after⟩ := callback_dropped config outside found coded stated held shown
      constructor
      · rintro ⟨task, bearer', same, resume, awaits⟩
        rw [after] at same
        obtain rfl := Option.some.inj same
        cases awaits
      · exact nofun
  | some pending =>
      obtain ⟨log, resume, after⟩ := callback_sent config outside found coded stated held shown
      constructor
      · rintro ⟨task, bearer', same, resume', awaits⟩
        rw [after] at same
        obtain rfl := Option.some.inj same
        injection awaits with request _
        injection request with request
        injection request with url _ _ _
        rw [connection_url_injective config url]
      · intro same
        obtain rfl := Option.some.inj same
        exact ⟨_, bearer, after, resume, rfl⟩

/-! The whole run. -/

/-- A property of every callback of a run that arrives while the user is signed in and
carries the state of a flow started for an instance. -/
def EachCallback (world : EdgeWorld N) (events : List (Event Gesture))
    (holds : EdgePool N → Nat → (instanceId code state : String) → Prop) : Prop :=
  ∀ before j after, events = before ++ .resume j :: after →
    ∀ instanceId code state, Arrives config (edgeRun config outside world before) j code state →
      SignedIn (edgeRun config outside world before) →
      StartedFor config (edgeRun config outside world before) instanceId state →
      holds (edgeRun config outside world before) j instanceId code state

/-- Every callback of a run goes to the instance of its flow exactly if, whenever one
arrives, the latest rendered change of the slot is the start of a flow of that instance. -/
theorem callbacks_forwarded_iff {world : EdgeWorld N} (opened : Opened world)
    (events : List (Event Gesture)) :
    EachCallback config outside world events (Forwards config outside) ↔
      EachCallback config outside world events fun pool _ instanceId _ _ =>
        given (shownChange pool.state.history) = some instanceId := by
  have slot (before : List (Event Gesture)) := (slotted_run config outside opened before).2
  constructor
  · intro forwarded before j after split instanceId code state arrives signedIn started
    have sent := forwarded before j after split instanceId code state arrives signedIn started
    rw [← slot before]
    exact (forwards_iff config outside arrives signedIn instanceId).mp sent
  · intro current before j after split instanceId code state arrives signedIn started
    have shown := current before j after split instanceId code state arrives signedIn started
    dsimp only at shown
    rw [← slot before] at shown
    exact (forwards_iff config outside arrives signedIn instanceId).mpr shown

/-! A Hub that names the path it was asked at as the state of the flow. -/

def sampleConfig : EdgeConfig := ⟨"http://hub", "/auth/callback", "/oauth/callback"⟩

def answered {Body : Type} (body : Body) : Response Body := ⟨200, "OK", .ok "", .ok body⟩

theorem zeros_length (count : Nat) : (List.replicate count (0 : UInt8)).length = count :=
  List.length_replicate

def sampleOutside : EdgeOutside Unit :=
  { fetch := fun request state =>
      match request with
      | .initiate url _ _ => (.ok (answered ⟨"http://idp", url⟩), state)
      | .complete _ _ _ _ => (.ok (answered .null), state)
      | .me _ _ => (.ok (answered ⟨"u1", "ann", [], []⟩), state)
      | _ => (.error "unreachable", state)
    exchange := fun _ state => (.error "unreachable", state)
    keyringFails := fun state => (none, state)
    openFails := fun _ state => (none, state)
    sha256 := fun _ => []
    randomValues := fun count state => (⟨List.replicate count 0, zeros_length count⟩, state) }

def signedInWorld : EdgeWorld Unit :=
  { app :=
      { boot := none, bearer := some "token", me := none, error := none, pendingConnectInstance := none
        rowPending := ∅, loginPending := false, refs := ⟨some "token", none⟩ }
    session := ∅, keyring := some "token", outside := (), history := [] }

theorem signed_in_opened : Opened signedInWorld := ⟨rfl, rfl, rfl⟩

def callbackOf (instanceId : String) : Gesture :=
  .deepLink ⟨"oauth", some "code", some (connectionUrl sampleConfig instanceId "initiate")⟩

/-- A Connect, rendered, and its callback, up to the end of both. -/
def connectAndReturn (instanceId : String) (i : Nat) : List (Event Gesture) :=
  [.start (.connect instanceId), .resume i, .resume i, .start .render, .resume (i + 1),
    .start (callbackOf instanceId), .resume (i + 2), .resume (i + 2), .resume (i + 2),
    .start .render, .resume (i + 3)]

def inTurn : List (Event Gesture) := connectAndReturn "mail" 0 ++ connectAndReturn "calendar" 4

/-- Two Connects, rendered, and the callback of the first. -/
def twoConnects : List (Event Gesture) :=
  [.start (.connect "mail"), .resume 0, .start (.connect "calendar"), .resume 1, .resume 0, .resume 1,
    .start .render, .resume 2, .start (callbackOf "mail")]

/-- The state of a flow names its instance. -/
theorem started_own {events : List (Event Gesture)} {instanceId state : String}
    (started : StartedFor sampleConfig (edgeRun sampleConfig sampleOutside signedInWorld events)
      instanceId state) : state = connectionUrl sampleConfig instanceId "initiate" := by
  obtain ⟨task, member, _, bearer, response, grant, logged, _, json, rfl⟩ := started
  obtain ⟨during, answer⟩ := play_answered (⟨signedInWorld, []⟩ : EdgePool Unit) events
    (fun task none => absurd none List.not_mem_nil) task member _ logged
  obtain rfl := Except.ok.inj answer
  exact congrArg InitiateGrantResponse.state (Except.ok.inj json).symm

/-- A callback that begins finds its instance in the latest change that was rendered. -/
def findsOwn (pool : EdgePool Unit) : Event Gesture → Bool
  | .start _ => true
  | .resume j =>
      match pool.tasks[j]? with
      | some ⟨.deepLink link, [], _⟩ =>
          (given (shownChange pool.state.history)).any fun instanceId =>
            link.state = some (connectionUrl sampleConfig instanceId "initiate")
      | _ => true

/-- Both callbacks go to their instances. -/
theorem connects_in_turn_forwarded :
    EachCallback sampleConfig sampleOutside signedInWorld inTurn
      (Forwards sampleConfig sampleOutside) := by
  apply (callbacks_forwarded_iff sampleConfig sampleOutside signed_in_opened inTurn).mpr
  intro before j after split instanceId code state arrives _ started
  have checked : along (edgeExec sampleOutside) EdgeState.instant (serve sampleConfig) findsOwn
      (⟨signedInWorld, []⟩ : EdgePool Unit) inTurn = true := by decide +kernel
  have found : Disciplined (edgeExec sampleOutside) EdgeState.instant (serve sampleConfig)
      (fun pool event => findsOwn pool event = true) (⟨signedInWorld, []⟩ : EdgePool Unit) inTurn :=
    disciplined_of_along _ _ checked fun _ _ same => same
  rw [split, disciplined_append] at found
  have own := found.2.1
  obtain ⟨link, _, _, stated, present⟩ := arrives
  have present' : ((⟨signedInWorld, []⟩ : EdgePool Unit).play (edgeExec sampleOutside) EdgeState.instant
      (serve sampleConfig) before).tasks[j]? = some ⟨.deepLink link, [], serve sampleConfig (.deepLink link)⟩ :=
    present
  simp only [findsOwn, present'] at own
  obtain ⟨shown, latest, names⟩ := (Option.any_eq_true _ _).mp own
  rw [decide_eq_true_iff] at names
  rw [names, started_own started] at stated
  have text := Option.some.inj (Option.filter_eq_some_iff.mp stated).1
  rw [connection_url_injective sampleConfig text] at latest
  exact latest

/-- Both rows started a flow; the callback of the first goes to the path of the second. -/
theorem overlapping_connects_misrouted :
    ¬ EachCallback sampleConfig sampleOutside signedInWorld (twoConnects ++ [.resume 3])
        (Forwards sampleConfig sampleOutside) ∧
      Forwards sampleConfig sampleOutside
        (edgeRun sampleConfig sampleOutside signedInWorld twoConnects) 3 "calendar" "code"
        (connectionUrl sampleConfig "mail" "initiate") := by
  have arrives : Arrives sampleConfig (edgeRun sampleConfig sampleOutside signedInWorld twoConnects) 3
      "code" (connectionUrl sampleConfig "mail" "initiate") :=
    ⟨_, rfl, rfl, rfl, rfl⟩
  have signedIn : SignedIn (edgeRun sampleConfig sampleOutside signedInWorld twoConnects) := rfl
  have shown : given (edgeRun sampleConfig sampleOutside signedInWorld
      twoConnects).state.app.refs.pendingConnect = some "calendar" := rfl
  constructor
  · intro each
    have started : StartedFor sampleConfig
        (edgeRun sampleConfig sampleOutside signedInWorld twoConnects) "mail"
        (connectionUrl sampleConfig "mail" "initiate") := by
      refine ⟨_, List.mem_of_getElem? (show _[0]? = some _ from rfl), rfl, "token", _, _,
        List.mem_of_getElem? (show _[2]? = some _ from rfl), rfl, rfl, rfl⟩
    have sent := each twoConnects 3 [] rfl "mail" "code" _ arrives signedIn started
    have slot := (forwards_iff sampleConfig sampleOutside arrives signedIn "mail").mp sent
    rw [shown] at slot
    exact absurd slot (by decide)
  · exact (forwards_iff sampleConfig sampleOutside arrives signedIn "calendar").mpr shown

end Lehen.Routing
