import Lehen.Refreshing

/-!
The refresh token over a run of refreshes. Each refresh replaces the stored blob
as a whole by what the answer of the token endpoint gives.
-/

namespace Lehen.Renewal

open Storage OAuth ConnectionsService Footprint Refreshing

variable {N : Type}

/-- The refresh token in the blob of the row. -/
def storedRefreshToken (settings : Settings) (store : Store) (id : String) : Option String := do
  let row ← connectionRow store id
  let envelope ← row.encryptedCredentials
  let tokens ← decodeTokenBlob settings envelope
  tokens.refreshToken

/-- The refresh token a token response issues, if it issues one. -/
def carriedToken (response : HttpResponse) : Option String :=
  match response.json with
  | .ok (.obj fields) => optionalStr (fields.lookup "refresh_token")
  | _ => none

/-- A call that asked the endpoint, got the response, and returned a token. -/
def Refresh (settings : Settings) (outside : Outside N) (id : String) (before : World N)
    (response : HttpResponse) (after : World N) : Prop :=
  ∃ clockSkewSeconds nowTs token request,
    (getValidAccessToken settings id clockSkewSeconds nowTs).run (exec outside) before =
        (.ok (some token), after) ∧
      (⟨.http request, .ok response⟩ : (op : Op) × Except PyError op.Res) ∈
        (getValidAccessToken settings id clockSkewSeconds nowTs).trace (exec outside) before

/-- Successful refreshes, one after the other, with the response and the store
after each. Between two of them the world outside may change in any way. -/
inductive Refreshes (settings : Settings) (outside : Outside N) (id : String) :
    World N → List (HttpResponse × Store) → Prop
  | done (world : World N) : Refreshes settings outside id world []
  | next (store : Store) (state later : N) (response : HttpResponse) (after : World N)
      (rest : List (HttpResponse × Store))
      (refresh : Refresh settings outside id ⟨store, later⟩ response after)
      (onward : Refreshes settings outside id after rest) :
      Refreshes settings outside id ⟨store, state⟩ ((response, after.store) :: rest)

/-- After each refresh the blob holds the most recently issued refresh token:
that of the response, or else the one issued before. -/
def KeepsLatest (settings : Settings) (id : String) : String → List (HttpResponse × Store) → Prop
  | _, [] => True
  | latest, (response, store) :: rest =>
      storedRefreshToken settings store id = some ((carriedToken response).getD latest) ∧
        KeepsLatest settings id ((carriedToken response).getD latest) rest

/-- The tokens of a response have its refresh token, and no other. -/
theorem fresh_carries {response : HttpResponse} {instant : Int} {fresh : OAuthTokens}
    (parsed : freshTokens response instant = .ok fresh) :
    fresh.refreshToken = carriedToken response := by
  unfold freshTokens acceptedBody at parsed
  by_cases status : response.status = 200
  · rw [if_pos status] at parsed
    cases json : response.json with
    | error text =>
        rw [json] at parsed
        cases parsed
    | ok data =>
        -- A body that is read to the end is an object.
        have read : tokensOfResponse data instant = .ok fresh := by
          simp only [json, bind, Except.bind] at parsed
          split at parsed
          · cases parsed
          · rename_i accepted body
            split at body
            · cases body
            · split at body
              · obtain rfl := Except.ok.inj body
                exact parsed
              · split at body <;> cases body
        cases data with
        | obj fields =>
            simp only [tokensOfResponse, Json.get, Json.getItem, bind, Except.bind] at read
            split at read
            · cases read
            · split at read
              · cases read
              · obtain rfl := Except.ok.inj read
                simp only [carriedToken, json]
        | _ => cases read
  · rw [if_neg status] at parsed
    cases parsed

variable {settings : Settings} {outside : Outside N} {id : String}

/-! What a call at a stage knows of the row. -/

structure Knows (settings : Settings) (id : String) (stage : Stage) (store : Store) : Prop where
  row : ∀ row, stage.pending = some row → connectionRow store id = some row
  persisted : ∀ response, stage = .persisted response →
    storedRefreshToken settings store id = carriedToken response

theorem knows_nothing {stage : Stage} {store : Store} (settled : stage.pending = none)
    (unpersisted : ∀ response, stage ≠ .persisted response) : Knows settings id stage store := by
  constructor
  · intro row pending
    rw [settled] at pending
    cases pending
  · intro response same
    exact absurd same (unpersisted response)

theorem knows_failed (store : Store) : Knows settings id .failed store :=
  knows_nothing rfl fun _ same => by cases same

/-- A stage about the same row, on unchanged connections. -/
theorem knows_onward {stage after : Stage} {store stored : Store}
    (knows : Knows settings id stage store) (same : stored.connections = store.connections)
    (row : after.pending = stage.pending)
    (unpersisted : ∀ response, after ≠ .persisted response) : Knows settings id after stored := by
  constructor
  · intro held pending
    rw [connectionRow, same]
    exact knows.row held (row ▸ pending)
  · intro response impossible
    exact absurd impossible (unpersisted response)

theorem stored_token {store : Store} {row : ConnectionRow} {envelope : String} {tokens : OAuthTokens}
    (found : connectionRow store id = some row) (carries : row.encryptedCredentials = some envelope)
    (opened : decodeTokenBlob settings envelope = some tokens) :
    storedRefreshToken settings store id = tokens.refreshToken := by
  simp only [storedRefreshToken, found, carries, opened, bind, Option.bind]

theorem stored_after_persist (lawful : settings.aead.Lawful) {store : Store} {row : ConnectionRow}
    {response : HttpResponse} {instant : Int} {fresh : OAuthTokens} {nonce : Secrets.Nonce}
    {envelope : String} (found : connectionRow store id = some row)
    (parsed : freshTokens response instant = .ok fresh)
    (sealed : Secrets.encrypt settings.aead (tokenBlob fresh) settings.masterKey nonce =
      .ok envelope) :
    storedRefreshToken settings
      { store with connections := setWhereId row.id (.credentials envelope) store.connections } id =
        carriedToken response := by
  have named : row.id = id :=
    of_decide_eq_true (List.mem_filter.mp (List.mem_of_head? found)).2
  rw [storedRefreshToken, named, connection_row_update, found]
  change (decodeTokenBlob settings envelope).bind OAuthTokens.refreshToken = _
  rw [decode_sealed lawful fresh nonce envelope sealed]
  exact fresh_carries parsed

theorem place_pending (row : ConnectionRow) (tokens : OAuthTokens) (found : Option InstanceRow) :
    (Stage.ofPlace row tokens found).pending = some row ∧
      ∀ response, Stage.ofPlace row tokens found ≠ .persisted response := by
  unfold Stage.ofPlace
  split
  · exact ⟨rfl, fun _ same => by cases same⟩
  · split <;> exact ⟨rfl, fun _ same => by cases same⟩

theorem knows_read (store : Store) :
    Knows settings id
      (Stage.ofRead settings (usableRow (store.connections.filter (ConnectionWhere.withId id).holds)))
      store := by
  cases usable : usableRow (store.connections.filter (ConnectionWhere.withId id).holds) with
  | none => exact knows_nothing rfl fun _ same => by cases same
  | some read =>
      obtain ⟨row, envelope⟩ := read
      have first := (usable_found usable).1
      cases decoded : decodeTokenBlob settings envelope with
      | none =>
          simp only [Stage.ofRead, decoded]
          exact ⟨fun held pending => Option.some.inj pending ▸ first, fun _ same => by cases same⟩
      | some tokens =>
          simp only [Stage.ofRead, decoded]
          exact ⟨fun held pending => Option.some.inj pending ▸ first, fun _ same => by cases same⟩

/-- One operation of a call keeps what it knows. -/
theorem knows_kept (lawful : settings.aead.Lawful) (stage : Stage) (op : Op) (world : World N)
    (knows : Knows settings id stage world.store) (allowed : stage.Allows settings id op) :
    Knows settings id (stage.next settings op (exec outside op world).1)
      (exec outside op world).2.store := by
  unfold Stage.Allows at allowed
  split at allowed
  · -- The row is read.
    rename_i rows
    obtain rfl : rows = .withId id := allowed
    rcases exec_read outside (.selectConnections (.withId id)) world rfl with
      ⟨_, failed, _⟩ | ⟨answer, same⟩
    · rw [failed]
      exact knows_failed _
    · rw [answer, same]
      exact knows_read world.store
  · -- The instance is looked up.
    rename_i held tokens place
    rcases exec_read outside (.selectInstance place) world rfl with ⟨_, failed, _⟩ | ⟨answer, same⟩
    · rw [failed]
      exact knows_failed _
    · rw [answer, same]
      obtain ⟨pending, unpersisted⟩ := place_pending held tokens
        (List.head? (world.store.instances.filter fun row => row.id = place))
      exact knows_onward knows rfl pending unpersisted
  · -- The endpoint answers or does not.
    rename_i held token place request
    have same := exec_elsewhere outside (.http request) world fun _ store => by cases store
    rw [same]
    cases (exec outside (.http request) world).1 with
    | ok response => exact knows_onward knows rfl rfl fun _ other => by cases other
    | error error => exact knows_onward knows rfl rfl fun _ other => by cases other
  · -- The fresh tokens are persisted.
    rename_i held response target envelope
    obtain ⟨rfl, instant, fresh, nonce, parsed, sealed⟩ := allowed
    rcases exec_store outside (.updateConnections held.id (.credentials envelope)) world with
      ⟨_, failed, _⟩ | ⟨answer, same⟩
    · rw [failed]
      exact knows_failed _
    · rw [answer, same]
      have stored := stored_after_persist lawful (knows.row held rfl) parsed sealed
      constructor
      · intro row pending
        cases pending
      · intro other named
        obtain rfl := Stage.persisted.inj named
        exact stored
  · -- The row is marked stale.
    rename_i target
    rcases exec_store outside (.updateConnections target .stale) world with
      ⟨error, failed, _⟩ | ⟨answer, _⟩
    · rw [failed, error_fails]
      exact knows_failed _
    · have staled : stage.next settings (.store (.updateConnections target .stale)) (.ok ()) =
          .staled := by cases stage <;> rfl
      rw [answer, show stage.next settings _ (.ok _) = _ from staled]
      exact knows_nothing rfl fun _ same => by cases same
  · -- A clock or random bytes.
    obtain ⟨_, unmoved, broken⟩ := quick_unnoticed settings id stage op allowed
    have elsewhere : ∀ statement, op ≠ .store statement := by
      rintro statement rfl
      cases allowed
    rw [exec_elsewhere outside op world elsewhere]
    cases (exec outside op world).1 with
    | ok value =>
        rw [show stage.next settings op (.ok value) = stage from unmoved value]
        exact knows
    | error error =>
        rw [show stage.next settings op (.error error) = .failed from broken error]
        exact knows_failed _

/-- A call that has the response, or is past it. -/
def Has (response : HttpResponse) (stage : Stage) : Prop :=
  (∃ row, stage = .answered row response) ∨ stage = .persisted response ∨ stage = .staled ∨
    stage = .failed

theorem has_onward {response : HttpResponse} {stage : Stage} {op : Op}
    {answer : Except PyError op.Res} (has : Has response stage)
    (allowed : stage.Allows settings id op) : Has response (stage.next settings op answer) := by
  unfold Stage.Allows at allowed
  split at allowed
  · rcases has with ⟨row, same⟩ | same | same | same <;> cases same
  · rcases has with ⟨row, same⟩ | same | same | same <;> cases same
  · rcases has with ⟨row, same⟩ | same | same | same <;> cases same
  · rcases has with ⟨row, same⟩ | same | same | same <;> cases same
    cases answer with
    | ok value => exact .inr (.inl rfl)
    | error error => exact .inr (.inr (.inr rfl))
  · cases answer with
    | ok value =>
        right
        right
        left
        cases stage <;> rfl
    | error error => exact .inr (.inr (.inr (error_fails _ _ error)))
  · obtain ⟨_, unmoved, broken⟩ := quick_unnoticed settings id stage op allowed
    cases answer with
    | ok value =>
        rw [show stage.next settings op (.ok value) = stage from unmoved value]
        exact has
    | error error => exact .inr (.inr (.inr (broken error)))

/-- Every response a call got is the one it has. -/
def Noted (stage : Stage) (past : List ((op : Op) × Except PyError op.Res)) : Prop :=
  ∀ request response, (⟨.http request, .ok response⟩ : (op : Op) × Except PyError op.Res) ∈ past →
    Has response stage

theorem noted_kept (stage : Stage) (op : Op) (answer : Except PyError op.Res)
    (past : List ((op : Op) × Except PyError op.Res)) (noted : Noted stage past)
    (allowed : stage.Allows settings id op) :
    Noted (stage.next settings op answer) (past ++ [⟨op, answer⟩]) := by
  intro request response member
  rcases List.mem_append.mp member with earlier | new
  · exact has_onward (noted request response earlier) allowed
  · obtain ⟨rfl, matched⟩ := Sigma.mk.inj (List.mem_singleton.mp new)
    obtain rfl := eq_of_heq matched
    cases stage with
    | located row token place => exact .inl ⟨row, rfl⟩
    | _ => cases allowed

/-- A refresh leaves in the blob the refresh token of its response, and none when
the response carries none. -/
theorem refresh_stores (lawful : settings.aead.Lawful) {before after : World N}
    {response : HttpResponse} (refresh : Refresh settings outside id before response after) :
    storedRefreshToken settings after.store id = carriedToken response := by
  obtain ⟨clockSkewSeconds, nowTs, token, request, ran, asked⟩ := refresh
  have follows := access_token_follows settings id clockSkewSeconds nowTs
  have start : Knows settings id .idle before.store := knows_nothing rfl fun _ same => by cases same
  have unasked : Noted .idle [] := fun request response member => by cases member
  have noted : Noted (Prog.watch (tokenMonitor settings id) .idle
      ((getValidAccessToken settings id clockSkewSeconds nowTs).trace (exec outside) before))
      ([] ++ (getValidAccessToken settings id clockSkewSeconds nowTs).trace (exec outside) before) :=
    Prog.watch_kept Noted follows [] unasked noted_kept
  have kept (stage : Stage) (op : Op) (now : World N) (knows : Knows settings id stage now.store)
      (allowed : stage.Allows settings id op) :
      Knows settings id (stage.next settings op (exec outside op now).1)
        (exec outside op now).2.store := knows_kept lawful stage op now knows allowed
  have ended := Prog.leaves_follows
    (fun stage (world : World N) => Knows settings id stage world.store) follows start kept
  unfold Prog.Leaves at ended
  rw [ran] at ended
  obtain ⟨knows, ends⟩ := ended
  have has := noted request response asked
  revert knows ends has
  generalize Prog.watch (tokenMonitor settings id) .idle
    ((getValidAccessToken settings id clockSkewSeconds nowTs).trace (exec outside) before) = stage
  intro knows ends has
  rcases ends with ⟨row, tokens, rfl, _⟩ | ⟨persisted, rfl⟩
  · rcases has with ⟨_, same⟩ | same | same | same <;> cases same
  · rcases has with ⟨_, same⟩ | same | same | same
    · cases same
    · rw [← Stage.persisted.inj same]
      exact knows.persisted persisted rfl
    · cases same
    · cases same

/-- Over any sequence of successful refreshes, the blob holds the most recently
issued refresh token after each of them exactly if every response carried one. -/
theorem keeps_latest_iff (settings : Settings) (outside : Outside N) (id : String)
    (lawful : settings.aead.Lawful) (world : World N) (steps : List (HttpResponse × Store))
    (refreshes : Refreshes settings outside id world steps) (granted : String) :
    KeepsLatest settings id granted steps ↔
      ∀ step ∈ steps, (carriedToken step.1).isSome = true := by
  induction refreshes generalizing granted with
  | done world =>
      constructor
      · intro _ step member
        cases member
      · exact fun _ => trivial
  | next store state later response after rest refresh onward ih =>
      have stored := refresh_stores lawful refresh
      rw [KeepsLatest, ih, List.forall_mem_cons, stored]
      apply and_congr_left
      intro _
      cases carriedToken response with
      | none =>
          constructor
          · intro same
            cases same
          · intro carried
            cases carried
      | some token => exact ⟨fun _ => rfl, fun _ => rfl⟩

/-! Calls at the sample connection, while an endpoint gives its answers in turn. -/

def inTurn (_ : HttpRequest) :
    List HttpResponse → Except String HttpResponse × List HttpResponse
  | [] => (.error "connection refused", [])
  | response :: rest => (.ok response, rest)

def callAt (nowTs : Int) (world : World (List HttpResponse)) :
    Except PyError (Option String) × World (List HttpResponse) :=
  (getValidAccessToken sampleSettings "u1:mail:0" 60 (some nowTs)).run (exec (Outside.still inTurn)) world

def responseOf (entry : (op : Op) × Except PyError op.Res) : Option HttpResponse :=
  match entry with
  | ⟨.http _, .ok response⟩ => some response
  | _ => none

/-- The responses that a call at the sample connection gets. -/
def responsesAt (nowTs : Int) (world : World (List HttpResponse)) : List HttpResponse :=
  ((getValidAccessToken sampleSettings "u1:mail:0" 60 (some nowTs)).trace
    (exec (Outside.still inTurn)) world).filterMap responseOf

/-- The sample store with other tokens sealed in it. -/
def storeWith (tokens : OAuthTokens) : Store :=
  { sampleStore with
    connections := [{ sampleConnection with encryptedCredentials := some (sealTokens tokens) }] }

/-- A call from the tokens it has read. -/
def callFrom (tokens : OAuthTokens) (nowTs : Int) : Hub (Option String) := do
  let instant ← readClock (some nowTs)
  if instant < tokens.expiresAt - 60 then return some tokens.accessToken
  else
    match ← refreshOnce sampleSettings
        { sampleConnection with encryptedCredentials := some (sealTokens tokens) } tokens instant with
    | none => do
        markStale "u1:mail:0"
        return none
    | some fresh => do
        persistTokens sampleSettings "u1:mail:0" fresh
        return some fresh.accessToken

/-- What a sealed blob decodes to is known, so a run need not decode it. -/
theorem resumed_with_tokens (tokens : OAuthTokens) (nowTs : Int) :
    ∃ resume, getValidAccessToken sampleSettings "u1:mail:0" 60 (some nowTs) =
        .await (.store (.selectConnections (.withId "u1:mail:0"))) resume ∧
      resume (.ok (storeWith tokens).connections) = callFrom tokens nowTs := by
  refine ⟨_, rfl, ?_⟩
  have usable : usableRow (storeWith tokens).connections =
      some ({ sampleConnection with encryptedCredentials := some (sealTokens tokens) },
        sealTokens tokens) := by
    simp [storeWith, usableRow, usableCredentials, sampleConnection, seal_filled]
  simp only [Prog.bind_ret, Prog.pure_eq, usable, decode_seal]
  rfl

theorem run_with_tokens (nowTs : Int) (tokens : OAuthTokens) (responses : List HttpResponse) :
    callAt nowTs ⟨storeWith tokens, responses⟩ =
      (callFrom tokens nowTs).run (exec (Outside.still inTurn)) ⟨storeWith tokens, responses⟩ := by
  obtain ⟨resume, begins, resumes⟩ := resumed_with_tokens tokens nowTs
  rw [callAt, begins, Prog.run_await, ← resumes]
  rfl

theorem responses_with_tokens (nowTs : Int) (tokens : OAuthTokens) (responses : List HttpResponse) :
    responsesAt nowTs ⟨storeWith tokens, responses⟩ =
      ((callFrom tokens nowTs).trace (exec (Outside.still inTurn))
        ⟨storeWith tokens, responses⟩).filterMap responseOf := by
  obtain ⟨resume, begins, resumes⟩ := resumed_with_tokens tokens nowTs
  rw [responsesAt, begins, Prog.trace, ← resumes]
  rfl

theorem refresh_at {nowTs : Int} {world after : World (List HttpResponse)} {token : String}
    {response : HttpResponse} (returned : callAt nowTs world = (.ok (some token), after))
    (asked : responsesAt nowTs world = [response]) :
    Refresh sampleSettings (Outside.still inTurn) "u1:mail:0" world response after := by
  have got : response ∈ responsesAt nowTs world := by
    rw [asked]
    exact List.mem_cons_self
  obtain ⟨⟨op, answer⟩, member, same⟩ := List.mem_filterMap.mp got
  cases op with
  | http request =>
      cases answer with
      | ok given =>
          cases same
          exact ⟨60, some nowTs, token, request, returned, member⟩
      | error error => cases same
  | _ => cases answer <;> cases same

def renewedTokens (access : String) (refresh : Option String) (expiresAt : Int) : OAuthTokens :=
  { sampleTokens with accessToken := access, refreshToken := refresh, expiresAt }

/-- The stored refresh token is lost with the first response that omits one, and
the call after the next expiry marks the row stale. -/
theorem omitted_token_is_lost :
    storedRefreshToken sampleSettings sampleStore "u1:mail:0" = some "refresh-0" ∧
      Refreshes sampleSettings (Outside.still inTurn) "u1:mail:0"
        ⟨sampleStore, [tokenAnswer "access-1" none]⟩
        [(tokenAnswer "access-1" none, storeWith (renewedTokens "access-1" none 3700))] ∧
      ¬ KeepsLatest sampleSettings "u1:mail:0" "refresh-0"
        [(tokenAnswer "access-1" none, storeWith (renewedTokens "access-1" none 3700))] ∧
      (connectionRow (callAt 5000 ⟨storeWith (renewedTokens "access-1" none 3700), []⟩).2.store
        "u1:mail:0").map ConnectionRow.status = some .stale := by
  have refresh : Refresh sampleSettings (Outside.still inTurn) "u1:mail:0"
      ⟨storeWith sampleTokens, [tokenAnswer "access-1" none]⟩ (tokenAnswer "access-1" none)
      ⟨storeWith (renewedTokens "access-1" none 3700), []⟩ := by
    apply refresh_at
    · exact run_with_tokens 100 sampleTokens _
    · exact responses_with_tokens 100 sampleTokens _
  refine ⟨stored_token rfl rfl (decode_seal sampleTokens), .next _ _ _ _ _ _ refresh (.done _), ?_, ?_⟩
  · rintro ⟨kept, _⟩
    have lost := refresh_stores Secrets.tagging_aead_lawful refresh
    rw [lost] at kept
    cases kept
  · rw [run_with_tokens]
    rfl

/-- Two refreshes, each answered with another token. -/
theorem renewed_tokens_are_kept :
    KeepsLatest sampleSettings "u1:mail:0" "refresh-0"
      [(tokenAnswer "access-1" (some "refresh-1"),
          storeWith (renewedTokens "access-1" (some "refresh-1") 3700)),
        (tokenAnswer "access-2" (some "refresh-2"),
          storeWith (renewedTokens "access-2" (some "refresh-2") 8600))] := by
  have first : Refresh sampleSettings (Outside.still inTurn) "u1:mail:0"
      ⟨storeWith sampleTokens,
        [tokenAnswer "access-1" (some "refresh-1"), tokenAnswer "access-2" (some "refresh-2")]⟩
      (tokenAnswer "access-1" (some "refresh-1"))
      ⟨storeWith (renewedTokens "access-1" (some "refresh-1") 3700),
        [tokenAnswer "access-2" (some "refresh-2")]⟩ := by
    apply refresh_at
    · exact run_with_tokens 100 sampleTokens _
    · exact responses_with_tokens 100 sampleTokens _
  have second : Refresh sampleSettings (Outside.still inTurn) "u1:mail:0"
      ⟨storeWith (renewedTokens "access-1" (some "refresh-1") 3700),
        [tokenAnswer "access-2" (some "refresh-2")]⟩
      (tokenAnswer "access-2" (some "refresh-2"))
      ⟨storeWith (renewedTokens "access-2" (some "refresh-2") 8600), []⟩ := by
    apply refresh_at
    · exact run_with_tokens 5000 _ _
    · exact responses_with_tokens 5000 _ _
  apply (keeps_latest_iff sampleSettings (Outside.still inTurn) "u1:mail:0"
    Secrets.tagging_aead_lawful ⟨storeWith sampleTokens, []⟩ _
    (.next _ _ _ _ _ _ first (.next _ _ _ _ _ _ second (.done _))) "refresh-0").mpr
  simp only [List.forall_mem_cons]
  exact ⟨rfl, rfl, List.forall_mem_nil _⟩

end Lehen.Renewal
