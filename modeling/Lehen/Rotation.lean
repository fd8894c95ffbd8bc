import Lehen.Refreshing
import Lehen.Consistency

/-!
Token calls on one connection against an endpoint with rotating refresh tokens.
Each call reads the blob, presents its refresh token, and persists the answer;
the endpoint honours a token only once.
-/

namespace Lehen.Rotation

open Storage OAuth SourceAdapter ConnectionsService Footprint Refreshing Schedule

variable {N : Type}

/-- A token response with an access token and the refresh token. -/
def Issues (response : HttpResponse) (refresh : String) : Prop :=
  response.status = 200 ∧ ∃ fields access, response.json = .ok (.obj fields) ∧
    fields.lookup "access_token" = some (.str access) ∧
    fields.lookup "refresh_token" = some (.str refresh) ∧
    (fields.lookup "expires_in" = none ∨ ∃ seconds, fields.lookup "expires_in" = some (.int seconds))

/-- What a token endpoint knows: the refresh token it issued last, which was not
used yet, and those that were. -/
structure Endpoint (N : Type) where
  url : String
  live : N → String
  used : N → List String

def Endpoint.Unmoved (endpoint : Endpoint N) (before after : N) : Prop :=
  endpoint.live after = endpoint.live before ∧ endpoint.used after = endpoint.used before

/-- The endpoint honours each refresh token exactly once and answers with a new
access and refresh token. Nothing else the Hub does uses a token up. -/
structure Rotating (outside : Outside N) (endpoint : Endpoint N) : Prop where
  unused : ∀ state, endpoint.live state ∉ endpoint.used state
  honours : ∀ form state, form.lookup "grant_type" = some "refresh_token" →
    form.lookup "refresh_token" = some (endpoint.live state) →
    ∃ response next, outside.http (.post endpoint.url form) state = (.ok response, next) ∧
      Issues response (endpoint.live next) ∧
      endpoint.used next = endpoint.live state :: endpoint.used state
  refuses : ∀ form state token, form.lookup "grant_type" = some "refresh_token" →
    form.lookup "refresh_token" = some token → token ≠ endpoint.live state →
    ∃ response next, outside.http (.post endpoint.url form) state = (.ok response, next) ∧
      response.status = 400 ∧ endpoint.Unmoved state next
  store : ∀ op state, endpoint.Unmoved state (outside.storeFails op state).2
  clock : ∀ state, endpoint.Unmoved state (outside.clock state).2
  tokenBytes : ∀ count state, endpoint.Unmoved state (outside.tokenBytes count state).2
  uuid4 : ∀ state, endpoint.Unmoved state (outside.uuid4 state).2

/-- The instance the store answers with for an id. -/
def instanceRow (store : Store) (id : String) : Option InstanceRow :=
  (store.instances.filter fun row => row.id = id).head?

/-- A connection, the instance it is on, and the endpoint the instance names. -/
structure Scene (N : Type) where
  settings : Settings
  outside : Outside N
  endpoint : Endpoint N
  id : String
  place : InstanceRow
  lawful : settings.aead.Lawful
  reliable : outside.Reliable
  rotating : Rotating outside endpoint
  configured : ∃ adapter clientSecret, buildAdapterForInstance place = .ok adapter ∧
    adapter.tokenEndpoint = endpoint.url ∧ clientSecretOf settings place = .ok clientSecret

namespace Scene

variable (scene : Scene N)

/-- The connection is at the instance and connected. -/
structure Connected (store : Store) (row : ConnectionRow) : Prop where
  found : connectionRow store scene.id = some row
  status : row.status = .connected
  place : instanceRow store row.integrationInstanceId = some scene.place

/-- Its blob holds tokens of which the refresh token is live. -/
structure Holds (world : World N) (row : ConnectionRow) (tokens : OAuthTokens) : Prop where
  connected : scene.Connected world.store row
  blob : ∃ envelope, row.encryptedCredentials = some envelope ∧
    decodeTokenBlob scene.settings envelope = some tokens
  live : tokens.refreshToken = some (scene.endpoint.live world.outside)

/-- The row is connected, and its refresh token is the latest one issued and not
yet used. -/
def UpToDate (world : World N) : Prop := ∃ row tokens, scene.Holds world row tokens

end Scene

theorem fresh_of_issues {response : HttpResponse} {refresh : String}
    (issues : Issues response refresh) (instant : Int) :
    ∃ fresh, freshTokens response instant = .ok fresh ∧ fresh.refreshToken = some refresh := by
  obtain ⟨status, fields, access, json, accessToken, refreshToken, expiry⟩ := issues
  have present : (fields.any fun field => field.1 == "access_token") = true := by
    obtain ⟨before, after, same, _⟩ := List.lookup_eq_some_iff.mp accessToken
    rw [same, List.any_append, List.any_cons]
    simp only [beq_self_eq_true, Bool.true_or, Bool.or_true]
  have accepted : acceptedBody response = .ok (.obj fields) := by
    simp only [acceptedBody, if_pos status, json, Json.contains, present]
    rfl
  obtain ⟨seconds, read⟩ : ∃ seconds,
      ((fields.lookup "expires_in").getD (.int 3600)).toInt = .ok seconds := by
    rcases expiry with missing | ⟨seconds, given⟩
    · exact ⟨3600, by rw [missing]; rfl⟩
    · exact ⟨seconds, by rw [given]; rfl⟩
  refine ⟨{ accessToken := access, refreshToken := some refresh, expiresAt := instant + seconds
            scope := strOr (fields.lookup "scope") ""
            tokenType := strOr (fields.lookup "token_type") "Bearer" }, ?_, rfl⟩
  rw [freshTokens, accepted]
  simp only [tokensOfResponse, Json.get, Json.getItem, bind, Except.bind, read, accessToken,
    refreshToken]
  rfl

section Calls

variable {scene : Scene N}

variable (scene) in
/-- What the scene makes of the request of a refresh. -/
theorem refresh_request (token : String) :
    ∃ form, refreshRequest scene.settings scene.place token = .ok (.post scene.endpoint.url form) ∧
      form.lookup "grant_type" = some "refresh_token" ∧
      form.lookup "refresh_token" = some token := by
  obtain ⟨adapter, clientSecret, built, url, opened⟩ := scene.configured
  refine ⟨withSecret
    [("grant_type", "refresh_token"),
      ("client_id", strOrEmpty (scene.place.configPublic.lookup "client_id")),
      ("refresh_token", token)] clientSecret, ?_, ?_, ?_⟩
  · rw [refreshRequest, built, opened, ← url]
    rfl
  · unfold withSecret
    split <;> rfl
  · unfold withSecret
    split <;> rfl

variable (scene) in
theorem exec_statement (statement : StoreOp) (world : World N) :
    (exec scene.outside (.store statement) world).1 = .ok (statement.apply world.store).1 ∧
      (exec scene.outside (.store statement) world).2.store = (statement.apply world.store).2 ∧
      scene.endpoint.live (exec scene.outside (.store statement) world).2.outside =
        scene.endpoint.live world.outside := by
  obtain ⟨answer, stored⟩ := exec_reliable scene.reliable statement world
  refine ⟨answer, stored, ?_⟩
  have live := (scene.rotating.store statement world.outside).1
  rcases answered : scene.outside.storeFails statement world.outside with ⟨_ | text, next⟩ <;>
    simp only [exec, answered] at live ⊢ <;> exact live

variable (scene) in
theorem exec_quick (op : Op) (world : World N) (quick : Quick op) :
    (∃ value, (exec scene.outside op world).1 = .ok value) ∧
      (exec scene.outside op world).2.store = world.store ∧
      scene.endpoint.live (exec scene.outside op world).2.outside =
        scene.endpoint.live world.outside := by
  cases op with
  | store statement => cases quick
  | http request => cases quick
  | clock => exact ⟨⟨_, rfl⟩, rfl, (scene.rotating.clock world.outside).1⟩
  | tokenBytes count => exact ⟨⟨_, rfl⟩, rfl, (scene.rotating.tokenBytes count world.outside).1⟩
  | uuid4 => exact ⟨⟨_, rfl⟩, rfl, (scene.rotating.uuid4 world.outside).1⟩

theorem holds_same {world after : World N} {row : ConnectionRow} {tokens : OAuthTokens}
    (store : after.store = world.store)
    (live : scene.endpoint.live after.outside = scene.endpoint.live world.outside)
    (holds : scene.Holds world row tokens) : scene.Holds after row tokens :=
  ⟨store ▸ holds.connected, holds.blob, live ▸ holds.live⟩

variable (scene) in
/-- What holds while a call is at a stage from which it may still write. -/
def Carries : Stage → World N → Prop
  | .holds row tokens, world => scene.Holds world row tokens
  | .located row token place, world => place = scene.place ∧
      ∃ tokens, scene.Holds world row tokens ∧ tokens.refreshToken = some token
  | .answered row response, world =>
      scene.Connected world.store row ∧ Issues response (scene.endpoint.live world.outside)
  | .unreadable _, _ | .refused _, _ => False
  | _, _ => True

theorem carries_same {world after : World N} {stage : Stage} (store : after.store = world.store)
    (live : scene.endpoint.live after.outside = scene.endpoint.live world.outside)
    (carries : Carries scene stage world) : Carries scene stage after := by
  cases stage with
  | holds row tokens => exact holds_same store live carries
  | located row token place =>
      obtain ⟨here, tokens, holds, token⟩ := carries
      exact ⟨here, tokens, holds_same store live holds, token⟩
  | answered row response => exact ⟨store ▸ carries.1, live ▸ carries.2⟩
  | _ => exact carries

/-- A call that carries on has fresh tokens to come. -/
theorem not_hopeless {world : World N} {stage : Stage} (carries : Carries scene stage world) :
    ¬ stage.Hopeless scene.settings := by
  intro hopeless
  cases stage with
  | unreadable row => exact carries
  | refused row => exact carries
  | holds row tokens =>
      have live := carries.live
      rw [show tokens.refreshToken = none from hopeless] at live
      cases live
  | located row token place =>
      obtain ⟨rfl, _⟩ := carries
      obtain ⟨error, wrong⟩ := hopeless
      obtain ⟨form, sent, _⟩ := refresh_request scene token
      rw [sent] at wrong
      cases wrong
  | answered row response =>
      obtain ⟨instant, error, wrong⟩ := hopeless
      obtain ⟨fresh, parsed, _⟩ := fresh_of_issues carries.2 instant
      rw [parsed] at wrong
      cases wrong
  | _ => exact hopeless

/-- A call that ends at such a stage has changed nothing. -/
theorem ended_up_to_date {world : World N} {stage : Stage} {outcome : Except PyError (Option String)}
    {row : ConnectionRow} (carries : Carries scene stage world) (pending : stage.pending = some row)
    (ends : stage.Ends scene.settings outcome) : scene.UpToDate world := by
  rcases outcome with error | (_ | token)
  · rcases ends with rfl | hopeless
    · cases pending
    · exact absurd hopeless (not_hopeless carries)
  · rcases ends with rfl | rfl <;> cases pending
  · rcases ends with ⟨held, tokens, rfl, _⟩ | ⟨response, rfl⟩
    · exact ⟨held, tokens, carries⟩
    · cases pending

/-- The read of the first stage, and the stage it leads to. -/
theorem read_step {world : World N} (current : scene.UpToDate world) :
    ∃ row tokens, scene.Holds world row tokens ∧
      Stage.next scene.settings .idle (.store (.selectConnections (.withId scene.id)))
        (.ok ((StoreOp.selectConnections (.withId scene.id)).apply world.store).1) =
          .holds row tokens := by
  obtain ⟨row, tokens, holds⟩ := current
  refine ⟨row, tokens, holds, ?_⟩
  obtain ⟨envelope, sealed, decoded⟩ := holds.blob
  have present : envelope ≠ "" := by
    rintro rfl
    rw [decode_empty] at decoded
    cases decoded
  have usable : usableRow (world.store.connections.filter (ConnectionWhere.withId scene.id).holds) =
      some (row, envelope) := by
    have first : (world.store.connections.filter
        (ConnectionWhere.withId scene.id).holds).head? = some row := holds.connected.found
    simp only [usableRow, first, usableCredentials, holds.connected.status, sealed, if_neg present,
      if_true, Option.map_some]
  simp only [Stage.next, StoreOp.apply, usable, Stage.ofRead, decoded]

theorem place_step {world : World N} {row : ConnectionRow} {tokens : OAuthTokens}
    (holds : scene.Holds world row tokens) :
    Stage.next scene.settings (.holds row tokens)
      (.store (.selectInstance row.integrationInstanceId))
      (.ok ((StoreOp.selectInstance row.integrationInstanceId).apply world.store).1) =
        .located row (scene.endpoint.live world.outside) scene.place := by
  have first : (world.store.instances.filter fun place =>
      place.id = row.integrationInstanceId).head? = some scene.place := holds.connected.place
  simp only [Stage.next, StoreOp.apply, first, Stage.ofPlace, holds.live]

/-- Persisting fresh tokens of an answer that issued the live refresh token. -/
theorem persist_step {world after : World N} {row : ConnectionRow} {response : HttpResponse}
    {instant : Int} {fresh : OAuthTokens} {nonce : Secrets.Nonce} {envelope : String}
    (connected : scene.Connected world.store row)
    (issues : Issues response (scene.endpoint.live world.outside))
    (parsed : freshTokens response instant = .ok fresh)
    (sealed : Secrets.encrypt scene.settings.aead (tokenBlob fresh) scene.settings.masterKey nonce =
      .ok envelope)
    (stored : after.store = { world.store with
      connections := setWhereId row.id (.credentials envelope) world.store.connections })
    (live : scene.endpoint.live after.outside = scene.endpoint.live world.outside) :
    scene.UpToDate after := by
  have named : row.id = scene.id := by
    have member := List.mem_of_head? connected.found
    exact of_decide_eq_true (List.mem_filter.mp member).2
  refine ⟨(ConnectionSet.credentials envelope).apply row, fresh, ⟨?_, ?_, ?_⟩, ?_, ?_⟩
  · rw [stored, named, connection_row_update, connected.found]
    rfl
  · exact connected.status
  · rw [stored]
    exact connected.place
  · exact ⟨envelope, rfl, decode_sealed scene.lawful fresh nonce envelope sealed⟩
  · obtain ⟨same, parsed', issued⟩ := fresh_of_issues issues instant
    rw [parsed] at parsed'
    obtain rfl := Except.ok.inj parsed'
    rw [issued, live]

/-- One operation of a call that may still write: it carries on, or it has
brought the connection up to date. -/
theorem mid_step {world : World N} {stage : Stage} {row : ConnectionRow} {op : Op}
    (carries : Carries scene stage world) (pending : stage.pending = some row)
    (allowed : stage.Allows scene.settings scene.id op) :
    Carries scene (stage.next scene.settings op (exec scene.outside op world).1)
        (exec scene.outside op world).2 ∧
      ((stage.next scene.settings op (exec scene.outside op world).1).pending = none →
        scene.UpToDate (exec scene.outside op world).2) := by
  unfold Stage.Allows at allowed
  split at allowed
  · cases pending
  · -- The instance is looked up.
    rename_i held tokens place
    obtain ⟨rfl, _⟩ := allowed
    obtain ⟨answer, stored, live⟩ := exec_statement scene
      (.selectInstance held.integrationInstanceId) world
    have same := holds_same stored live carries
    rw [answer, place_step carries]
    exact ⟨⟨rfl, tokens, same, carries.live⟩, fun none => by cases none⟩
  · -- The refresh token is presented, and it is live.
    rename_i held token place request
    obtain ⟨rfl, tokens, holds, presented⟩ := carries
    obtain ⟨form, sent, grantType, refreshToken⟩ := refresh_request scene token
    rw [sent] at allowed
    obtain rfl := Except.ok.inj allowed
    have current : token = scene.endpoint.live world.outside :=
      Option.some.inj (presented.symm.trans holds.live)
    rw [current] at refreshToken
    obtain ⟨response, next, answered, issues, _⟩ :=
      scene.rotating.honours form world.outside grantType refreshToken
    have moved : exec scene.outside (.http (.post scene.endpoint.url form)) world =
        (.ok response, { world with outside := next }) := by
      simp only [exec, answered]
    rw [moved]
    exact ⟨⟨holds.connected, issues⟩, fun none => by cases none⟩
  · -- The fresh tokens are persisted.
    rename_i held response target envelope
    obtain ⟨rfl, instant, fresh, nonce, parsed, sealed⟩ := allowed
    obtain ⟨answer, stored, live⟩ := exec_statement scene
      (.updateConnections held.id (.credentials envelope)) world
    rw [answer]
    exact ⟨trivial, fun _ => persist_step carries.1 carries.2 parsed sealed stored live⟩
  · exact absurd allowed.1 (not_hopeless carries)
  · obtain ⟨⟨value, answer⟩, stored, live⟩ := exec_quick scene op world allowed
    have stays : stage.next scene.settings op (.ok value) = stage :=
      (quick_unnoticed scene.settings scene.id stage op allowed).2.1 value
    rw [answer, stays]
    refine ⟨carries_same stored live carries, fun none => ?_⟩
    rw [pending] at none
    cases none

/-- A call that has no row to write draws no answer from outside but its read. -/
theorem unread_step {stage : Stage} {op : Op} (unread : stage.pending = none)
    (allowed : stage.Allows scene.settings scene.id op) :
    Quick op ∨ (stage = .idle ∧ op = .store (.selectConnections (.withId scene.id))) := by
  unfold Stage.Allows at allowed
  split at allowed
  · rw [show _ = ConnectionWhere.withId scene.id from allowed]
    exact .inr ⟨rfl, rfl⟩
  · cases unread
  · cases unread
  · cases unread
  · obtain ⟨_, row, pending, _⟩ := allowed
    rw [pending] at unread
    cases unread
  · exact .inl allowed

end Calls

/-! The pool: at most one call is between its read and its end. -/

variable (scene : Scene N)

/-- A call that has read the row and has not ended. -/
def Mid (task : HubTask) : Prop :=
  task.running ∧ ∃ row, (task.seen (tokenProtocol scene.settings)).pending = some row

/-- Only calls for the connection start, and a call reads the row only while no
other one is between its read and its end. -/
def ReadsAlone (pool : HubPool N) : Event Request → Prop
  | .start request => ∃ clockSkewSeconds nowTs,
      request = .getValidAccessToken scene.id clockSkewSeconds nowTs
  | .resume i => ∀ task : HubTask, pool.tasks[i]? = some task →
      task.awaits (.store (.selectConnections (.withId scene.id))) →
      ∀ (j : Nat) (other : HubTask), pool.tasks[j]? = some other → ¬ Mid scene other

structure Turning (pool : HubPool N) : Prop where
  calls : ∀ (i : Nat) (task : HubTask), pool.tasks[i]? = some task →
    ∃ clockSkewSeconds nowTs, task.request = .getValidAccessToken scene.id clockSkewSeconds nowTs
  rest : (∀ (i : Nat) (task : HubTask), pool.tasks[i]? = some task → ¬ Mid scene task) →
    scene.UpToDate pool.state
  alone : pool.Exclusive (Mid scene)
  carries : ∀ (i : Nat) (task : HubTask), pool.tasks[i]? = some task → Mid scene task →
    Carries scene (task.seen (tokenProtocol scene.settings)) pool.state

variable {scene}

theorem fresh_not_mid (request : Request) :
    ¬ Mid scene ⟨request, [], serve scene.settings request⟩ := by
  rintro ⟨_, row, pending⟩
  cases pending

theorem turning_start (pool : HubPool N) (clockSkewSeconds : Int) (nowTs : Option Int)
    (turning : Turning scene pool) :
    Turning scene (pool.step (exec scene.outside) instant (serve scene.settings)
      (.start (.getValidAccessToken scene.id clockSkewSeconds nowTs))) := by
  constructor
  · intro i task found
    rcases get_start found with before | rfl
    · exact turning.calls i task before
    · exact ⟨clockSkewSeconds, nowTs, rfl⟩
  · intro nobody
    apply turning.rest
    intro i task found
    apply nobody i task
    rw [Pool.step, List.getElem?_append_left (List.getElem?_eq_some_iff.mp found).1]
    exact found
  · exact exclusive_start turning.alone (fresh_not_mid _)
  · intro i task found mid
    rcases get_start found with before | rfl
    · exact turning.carries i task before mid
    · exact absurd mid (fresh_not_mid _)

/-- Where a call that no longer runs has come to. -/
theorem call_ended {prog : Hub Unit} {stage : Stage} {clockSkewSeconds : Int} {nowTs : Option Int}
    (follows : prog.Follows (tokenMonitor scene.settings scene.id)
      ((tokenProtocol scene.settings).post
        (.getValidAccessToken scene.id clockSkewSeconds nowTs)) stage)
    (ended : ¬ ∃ op resume, prog = .await op resume) :
    ∃ outcome, stage.Ends scene.settings outcome := by
  cases prog with
  | ret value =>
      obtain ⟨result, ends⟩ := follows
      exact ⟨.ok result, ends⟩
  | raise error => exact ⟨.error error, follows⟩
  | await op resume => exact absurd ⟨op, resume, rfl⟩ ended

section Step

variable {pool : HubPool N} {i : Nat} {task : HubTask} {op : Op}
  {resume : Except PyError op.Res → Hub Unit} {clockSkewSeconds : Int} {nowTs : Option Int}

theorem calls_perform (turning : Turning scene pool) (found : pool.tasks[i]? = some task)
    (j : Nat) (other : HubTask)
    (present : (pool.perform (exec scene.outside) i task op resume).tasks[j]? = some other) :
    ∃ clockSkewSeconds nowTs,
      other.request = .getValidAccessToken scene.id clockSkewSeconds nowTs := by
  rcases get_perform found present with ⟨_, rfl⟩ | ⟨_, before⟩
  · exact turning.calls i task found
  · exact turning.calls j other before

/-- A step of the call that is between its read and its end. -/
theorem turning_mid (turning : Turning scene pool) (found : pool.tasks[i]? = some task)
    (mid : Mid scene task)
    (carries : Carries scene ((pool.stepped (exec scene.outside) task op resume).seen
      (tokenProtocol scene.settings)) (exec scene.outside op pool.state).2)
    (ended : ¬ Mid scene (pool.stepped (exec scene.outside) task op resume) →
      scene.UpToDate (exec scene.outside op pool.state).2) :
    Turning scene (pool.perform (exec scene.outside) i task op resume) := by
  have here : (pool.perform (exec scene.outside) i task op resume).tasks[i]? =
      some (pool.stepped (exec scene.outside) task op resume) :=
    List.getElem?_set_self (List.getElem?_eq_some_iff.mp found).1
  constructor
  · exact calls_perform turning found
  · intro nobody
    exact ended (nobody i _ here)
  · exact exclusive_perform turning.alone found fun _ => .inl mid
  · intro j other present busy
    rcases get_perform found present with ⟨_, rfl⟩ | ⟨different, before⟩
    · exact carries
    · exact absurd (turning.alone j i other task before found busy mid) different

/-- A step that leaves the store and the endpoint as they are, of a call that is
not between its read and its end. -/
theorem turning_aside (turning : Turning scene pool) (found : pool.tasks[i]? = some task)
    (aside : ¬ Mid scene task) (stays : ¬ Mid scene (pool.stepped (exec scene.outside) task op resume))
    (stored : (exec scene.outside op pool.state).2.store = pool.state.store)
    (live : scene.endpoint.live (exec scene.outside op pool.state).2.outside =
      scene.endpoint.live pool.state.outside) :
    Turning scene (pool.perform (exec scene.outside) i task op resume) := by
  constructor
  · exact calls_perform turning found
  · intro nobody
    obtain ⟨row, tokens, holds⟩ := turning.rest fun j other before busy => by
      by_cases same : j = i
      · subst same
        rw [found] at before
        exact aside (Option.some.inj before ▸ busy)
      · apply nobody j other _ busy
        rw [Pool.perform, List.getElem?_set_ne fun h => same h.symm]
        exact before
    exact ⟨row, tokens, holds_same stored live holds⟩
  · exact exclusive_perform turning.alone found fun busy => absurd busy stays
  · intro j other present busy
    rcases get_perform found present with ⟨_, rfl⟩ | ⟨_, before⟩
    · exact absurd busy stays
    · exact carries_same stored live (turning.carries j other before busy)

/-- The read of a call while no other one is between its read and its end. -/
theorem turning_read (turning : Turning scene pool) (found : pool.tasks[i]? = some task)
    (nobody : ∀ (j : Nat) (other : HubTask), pool.tasks[j]? = some other → ¬ Mid scene other)
    (current : scene.UpToDate (exec scene.outside op pool.state).2)
    (carries : Carries scene ((pool.stepped (exec scene.outside) task op resume).seen
      (tokenProtocol scene.settings)) (exec scene.outside op pool.state).2) :
    Turning scene (pool.perform (exec scene.outside) i task op resume) := by
  constructor
  · exact calls_perform turning found
  · exact fun _ => current
  · exact exclusive_perform turning.alone found fun _ => .inr fun j other _ before =>
      nobody j other before
  · intro j other present busy
    rcases get_perform found present with ⟨_, rfl⟩ | ⟨_, before⟩
    · exact carries
    · exact absurd busy (nobody j other before)

theorem turning_perform (turning : Turning scene pool) (found : pool.tasks[i]? = some task)
    (left : task.prog = .await op resume)
    (follows : (Prog.await op resume).Follows ((tokenProtocol scene.settings).monitor task.request)
      ((tokenProtocol scene.settings).post task.request)
      (task.seen (tokenProtocol scene.settings)))
    (permitted : op = .store (.selectConnections (.withId scene.id)) →
      ∀ (j : Nat) (other : HubTask), pool.tasks[j]? = some other → ¬ Mid scene other) :
    Turning scene (pool.perform (exec scene.outside) i task op resume) := by
  obtain ⟨clockSkewSeconds, nowTs, request⟩ := turning.calls i task found
  have seen : (pool.stepped (exec scene.outside) task op resume).seen (tokenProtocol scene.settings) =
      (task.seen (tokenProtocol scene.settings)).next scene.settings op
        (exec scene.outside op pool.state).1 := by
    rw [seen_stepped, request]
    rfl
  rw [request] at follows
  have allowed : (task.seen (tokenProtocol scene.settings)).Allows scene.settings scene.id op :=
    follows.1
  have onward := follows.2 (exec scene.outside op pool.state).1
  cases unread : (task.seen (tokenProtocol scene.settings)).pending with
  | some row =>
      have mid : Mid scene task := ⟨⟨op, resume, left⟩, row, unread⟩
      obtain ⟨carries, current⟩ := mid_step (turning.carries i task found mid) unread allowed
      apply turning_mid turning found mid
      · rw [seen]
        exact carries
      · intro finished
        cases pending : ((task.seen (tokenProtocol scene.settings)).next scene.settings op
            (exec scene.outside op pool.state).1).pending with
        | none => exact current pending
        | some held =>
            -- The call ended on the way, so it had changed nothing yet.
            have ended : ¬ ∃ op' resume', resume (exec scene.outside op pool.state).1 =
                .await op' resume' := by
              rintro ⟨op', resume', runs⟩
              exact finished ⟨⟨op', resume', runs⟩, held, by rw [seen]; exact pending⟩
            obtain ⟨outcome, ends⟩ := call_ended onward ended
            exact ended_up_to_date carries pending ends
  | none =>
      rcases unread_step unread allowed with quick | ⟨idle, rfl⟩
      · obtain ⟨⟨value, answer⟩, stored, live⟩ := exec_quick scene op pool.state quick
        -- A clock or random bytes, which no stage notices.
        have unmoved : (task.seen (tokenProtocol scene.settings)).next scene.settings op
            (.ok value) = task.seen (tokenProtocol scene.settings) :=
          (quick_unnoticed scene.settings scene.id _ op quick).2.1 value
        apply turning_aside turning found _ _ stored live
        · rintro ⟨_, row, pending⟩
          rw [unread] at pending
          cases pending
        · rintro ⟨_, row, pending⟩
          rw [seen, answer, unmoved, unread] at pending
          cases pending
      · -- The call reads the row, and nobody else is between read and end.
        have nobody := permitted rfl
        obtain ⟨row, tokens, holds, reached⟩ := read_step (turning.rest nobody)
        obtain ⟨answer, stored, live⟩ := exec_statement scene
          (.selectConnections (.withId scene.id)) pool.state
        have after := holds_same stored live holds
        apply turning_read turning found nobody ⟨row, tokens, after⟩
        rw [seen, answer, idle, reached]
        exact after

end Step

/-- Over any interleaving of calls in which none reads the row while another one
is between its read and its end, the finished calls leave the row connected and
its refresh token the latest one issued and not yet used. -/
theorem calls_leave_live_token (scene : Scene N) (world : World N) (events : List (Event Request))
    (start : scene.UpToDate world)
    (disciplined : Disciplined (exec scene.outside) instant (serve scene.settings)
      (ReadsAlone scene) ⟨world, []⟩ events)
    (finished : ∀ task ∈ ((⟨world, []⟩ : HubPool N).play (exec scene.outside) instant
      (serve scene.settings) events).tasks, ¬ task.running) :
    scene.UpToDate ((⟨world, []⟩ : HubPool N).play (exec scene.outside) instant
      (serve scene.settings) events).state := by
  have initial : (⟨world, []⟩ : HubPool N).Watched (tokenProtocol scene.settings) ∧
      Turning scene (⟨world, []⟩ : HubPool N) := by
    refine ⟨?_, ?_, fun _ => start, exclusive_empty world _, ?_⟩
    · intro i task found
      cases found
    · intro i task found
      cases found
    · intro i task found
      cases found
  have kept := play_kept
    (fun pool => pool.Watched (tokenProtocol scene.settings) ∧ Turning scene pool) _ events
    disciplined initial ?_
  · apply kept.2.rest
    rintro i task found ⟨running, _⟩
    exact finished task (List.mem_of_getElem? found) running
  · rintro pool event ⟨watched, turning⟩ permitted
    apply watched_step_kept (Turning scene)
      (fun pool i task op => op = .store (.selectConnections (.withId scene.id)) →
        ∀ (j : Nat) (other : HubTask), pool.tasks[j]? = some other → ¬ Mid scene other)
    · intro pool i task op quick read
      rw [read] at quick
      cases quick
    · intro pool i task op resume turning found left follows alone
      exact turning_perform turning found left follows alone
    · exact watched
    · exact turning
    · rintro request rfl
      obtain ⟨clockSkewSeconds, nowTs, rfl⟩ := permitted
      exact token_served scene.settings _ (.call ..)
    · rintro request rfl
      obtain ⟨clockSkewSeconds, nowTs, rfl⟩ := permitted
      exact turning_start pool clockSkewSeconds nowTs turning
    · rintro i task op rfl found awaits rfl
      exact permitted task found awaits

/-! An endpoint that numbers the refresh tokens it issues. -/

def serial (count : Nat) : String := "refresh-" ++ toString count

theorem serial_inj {first second : Nat} (same : serial first = serial second) :
    first = second := by
  have texts := congrArg String.toList same
  simp only [serial, toString, String.toList_append, Nat.toList_repr] at texts
  have numbers := congrArg (fun digits => Nat.ofDigitChars 10 digits 0)
    (List.append_cancel_left texts)
  simpa only [Nat.ofDigitChars_ten_toDigits] using numbers

def numbering (request : HttpRequest) (count : Nat) : Except String HttpResponse × Nat :=
  match request with
  | .post _ form =>
      if form.lookup "grant_type" = some "refresh_token" ∧
          form.lookup "refresh_token" = some (serial count) then
        (.ok (tokenAnswer "access" (some (serial (count + 1)))), count + 1)
      else (.ok ⟨400, "invalid_grant", .error "no JSON"⟩, count)
  | .get _ _ => (.error "connection refused", count)

def numberingEndpoint : Endpoint Nat :=
  { url := OutlookGraphAdapter.tokenEndpoint ⟨"t"⟩, live := serial
    used := fun count => (List.range count).reverse.map serial }

theorem numbering_rotates : Rotating (Outside.still numbering) numberingEndpoint where
  unused := by
    intro count spent
    obtain ⟨earlier, member, same⟩ := List.mem_map.mp spent
    have below := List.mem_range.mp (List.mem_reverse.mp member)
    have equal := serial_inj same
    omega
  honours := by
    intro form count grantType refreshToken
    refine ⟨tokenAnswer "access" (some (serial (count + 1))), count + 1, ?_, ?_, ?_⟩
    · exact if_pos ⟨grantType, refreshToken⟩
    · exact ⟨rfl, _, "access", rfl, rfl, rfl, .inl rfl⟩
    · simp only [numberingEndpoint, List.range_succ, List.reverse_append, List.reverse_singleton,
        List.singleton_append, List.map_cons]
  refuses := by
    intro form count token grantType presented wrong
    refine ⟨⟨400, "invalid_grant", .error "no JSON"⟩, count, ?_, rfl, rfl, rfl⟩
    apply if_neg
    rintro ⟨_, live⟩
    exact wrong (Option.some.inj (presented.symm.trans live))
  store := fun _ _ => ⟨rfl, rfl⟩
  clock := fun _ => ⟨rfl, rfl⟩
  tokenBytes := fun _ _ => ⟨rfl, rfl⟩
  uuid4 := fun _ => ⟨rfl, rfl⟩

def sampleScene : Scene Nat :=
  { settings := sampleSettings, outside := Outside.still numbering, endpoint := numberingEndpoint
    id := "u1:mail:0", place := samplePlace
    lawful := Secrets.tagging_aead_lawful, reliable := still_reliable numbering
    rotating := numbering_rotates, configured := ⟨⟨"t"⟩, "", rfl, rfl, rfl⟩ }

theorem sample_up_to_date : sampleScene.UpToDate ⟨sampleStore, 0⟩ := by
  refine ⟨sampleConnection, sampleTokens, ⟨rfl, rfl, rfl⟩, ?_, rfl⟩
  exact ⟨sealTokens sampleTokens, rfl, decode_seal sampleTokens⟩

def overlappingCalls : List (Event Request) :=
  [.start sampleCall, .start sampleCall, .resume 0, .resume 1,
    .resume 0, .resume 0, .resume 0, .resume 1, .resume 1, .resume 1]

def overlappedPool : HubPool Nat :=
  (⟨⟨sampleStore, 0⟩, []⟩ : HubPool Nat).play (exec sampleScene.outside) instant
    (serve sampleScene.settings) overlappingCalls

/-- Both calls read the same token; the second one to present it marks the row
stale after the first has persisted its successor. -/
theorem overlapping_calls_leave_stale :
    sampleScene.UpToDate ⟨sampleStore, 0⟩ ∧
      (∀ task ∈ overlappedPool.tasks, ¬ task.running) ∧
      ¬ sampleScene.UpToDate overlappedPool.state := by
  have ended : (∀ task ∈ overlappedPool.tasks, ¬ task.running) ∧
      (connectionRow overlappedPool.state.store "u1:mail:0").map ConnectionRow.status =
        some .stale := by
    decide +kernel
  refine ⟨sample_up_to_date, ended.1, ?_⟩
  rintro ⟨row, tokens, holds⟩
  have status := ended.2
  rw [show connectionRow overlappedPool.state.store "u1:mail:0" = some row from
    holds.connected.found] at status
  have connected := holds.connected.status
  rw [Option.some.inj status] at connected
  cases connected

def awaitsRead (task : HubTask) : Bool :=
  match task.prog with
  | .await (.store (.selectConnections _)) _ => true
  | _ => false

variable (scene) in
/-- A call is resumed that does not wait for the row, or nobody is between its read
and its end. -/
def readsAlone (pool : HubPool N) : Event Request → Bool
  | .start (.getValidAccessToken id _ _) => decide (id = scene.id)
  | .start _ => false
  | .resume i => (pool.tasks[i]?.all fun task => !awaitsRead task) ||
      pool.tasks.all fun task =>
        !decide task.running || (task.seen (tokenProtocol scene.settings)).pending.isNone

theorem reads_alone (pool : HubPool N) (event : Event Request)
    (checked : readsAlone scene pool event = true) : ReadsAlone scene pool event := by
  cases event with
  | start request =>
      cases request with
      | getValidAccessToken id clockSkewSeconds nowTs =>
          obtain rfl : id = scene.id := of_decide_eq_true checked
          exact ⟨clockSkewSeconds, nowTs, rfl⟩
      | _ => cases checked
  | resume i =>
      rintro task found ⟨resume, left⟩ j other present ⟨running, row, pending⟩
      rw [readsAlone, found, Bool.or_eq_true] at checked
      rcases checked with elsewhere | nobody
      · rw [Option.all_some, awaitsRead, left] at elsewhere
        cases elsewhere
      · have idle := List.all_eq_true.mp nobody other (List.mem_of_getElem? present)
        rw [pending, decide_eq_true running] at idle
        cases idle

/-- A call by which the tokens of the first one have expired. -/
def laterCall : Request := .getValidAccessToken "u1:mail:0" 60 (some 10000)

def callsInTurn : List (Event Request) :=
  [.start sampleCall, .start laterCall] ++ List.replicate 4 (.resume 0) ++ List.replicate 4 (.resume 1)

def turnsPool : HubPool Nat :=
  (⟨⟨sampleStore, 0⟩, []⟩ : HubPool Nat).play (exec sampleScene.outside) instant
    (serve sampleScene.settings) callsInTurn

/-- Two calls that are in flight together and refresh in turn. -/
theorem calls_in_turn_leave_live_token :
    sampleScene.UpToDate turnsPool.state ∧ turnsPool.state.outside = 2 := by
  have checked : along (exec sampleScene.outside) instant (serve sampleScene.settings)
      (readsAlone sampleScene) ⟨⟨sampleStore, 0⟩, []⟩ callsInTurn = true := by
    decide +kernel
  have ended : (∀ task ∈ turnsPool.tasks, ¬ task.running) ∧ turnsPool.state.outside = 2 := by
    decide +kernel
  refine ⟨?_, ended.2⟩
  apply calls_leave_live_token sampleScene ⟨sampleStore, 0⟩ callsInTurn sample_up_to_date
  · exact disciplined_of_along _ _ checked reads_alone
  · exact ended.1

end Lehen.Rotation
