import Lehen.Keeping
import Lehen.Refreshing

/-!
What one call of `get_valid_access_token` leaves behind, for every row, stored
secret and answer of the token endpoint, on a store that does not fail.
-/

namespace Lehen.Retrieval

open Storage OAuth SourceAdapter ConnectionsService Footprint Refreshing Keeping

variable {N : Type}

/-! The worlds a call passes on its way to the token endpoint. -/

section Passing

variable (outside : Outside N) (world : World N) (id : String) (nowTs : Option Int)

def afterRead : World N := (exec outside (.store (.selectConnections (.withId id))) world).2

/-- The time the call compares the expiry with. -/
def callTime : Int :=
  match nowTs with
  | some given => given
  | none => unixSeconds (outside.clock (afterRead outside world id).outside).1

def afterClock : World N :=
  match nowTs with
  | some _ => afterRead outside world id
  | none => (exec outside .clock (afterRead outside world id)).2

/-- The world in which the call posts to the token endpoint of an instance. -/
def beforePost (instanceId : String) : World N :=
  (exec outside (.store (.selectInstance instanceId)) (afterClock outside world id nowTs)).2

end Passing

def rowsOf (store : Store) (id : String) : List ConnectionRow :=
  store.connections.filter (ConnectionWhere.withId id).holds

def placeOf (store : Store) (instanceId : String) : Option InstanceRow :=
  (store.instances.filter fun row => row.id = instanceId).head?

def withUpdate (store : Store) (id : String) (set : ConnectionSet) : Store :=
  { store with connections := setWhereId id set store.connections }

section Contract

variable (settings : Settings) (outside : Outside N) (world : World N) (id : String)
  (clockSkewSeconds : Int) (nowTs : Option Int)

/-- The row is usable and its blob decodes to these tokens. -/
def Holding (row : ConnectionRow) (tokens : OAuthTokens) : Prop :=
  ∃ envelope, usableRow (rowsOf world.store id) = some (row, envelope) ∧
    decodeTokenBlob settings envelope = some tokens

def Valid (tokens : OAuthTokens) : Prop :=
  callTime outside world id nowTs < tokens.expiresAt - clockSkewSeconds

/-- The call refreshes: it asks the instance of the row with the refresh token. -/
structure Refreshes (row : ConnectionRow) (token : String) (place : InstanceRow) : Prop where
  holding : ∃ tokens, Holding settings world id row tokens ∧
    ¬ Valid outside world id clockSkewSeconds nowTs tokens ∧ tokens.refreshToken = some token
  place : placeOf world.store row.integrationInstanceId = some place

/-- What the endpoint answers to the request of a refresh. -/
def Answers (row : ConnectionRow) (token : String) (place : InstanceRow) (response : HttpResponse) :
    Prop :=
  ∃ request, refreshRequest settings place token = .ok request ∧
    (exec outside (.http request)
      (beforePost outside world id nowTs row.integrationInstanceId)).1 = .ok response

/-- What the call promises of its outcome and of the store it leaves. -/
inductive Served : Except PyError (Option String) → Store → Prop
  | unusable (missing : usableRow (rowsOf world.store id) = none) : Served (.ok none) world.store
  | stored (row : ConnectionRow) (tokens : OAuthTokens)
      (holding : Holding settings world id row tokens)
      (valid : Valid outside world id clockSkewSeconds nowTs tokens) :
      Served (.ok (some tokens.accessToken)) world.store
  | renewed (row : ConnectionRow) (token : String) (place : InstanceRow) (response : HttpResponse)
      (fresh : OAuthTokens) (nonce : Secrets.Nonce) (envelope : String)
      (refreshes : Refreshes settings outside world id clockSkewSeconds nowTs row token place)
      (answers : Answers settings outside world id nowTs row token place response)
      (issued : freshTokens response (callTime outside world id nowTs) = .ok fresh)
      (sealed : Secrets.encrypt settings.aead (tokenBlob fresh) settings.masterKey nonce =
        .ok envelope) :
      Served (.ok (some fresh.accessToken)) (withUpdate world.store row.id (.credentials envelope))
  | stale (row : ConnectionRow) (envelope : String)
      (usable : usableRow (rowsOf world.store id) = some (row, envelope))
      (invalid : ∀ tokens, decodeTokenBlob settings envelope = some tokens →
        ¬ Valid outside world id clockSkewSeconds nowTs tokens) :
      Served (.ok none) (withUpdate world.store row.id .stale)

/-- A body the call can make something of: not a 200, not JSON, or an object
that lacks an access token or whose `expires_in` is an integer. -/
def Readable (response : HttpResponse) : Prop :=
  response.status ≠ 200 ∨ (∃ text, response.json = .error text) ∨
    ∃ fields, response.json = .ok (.obj fields) ∧
      ((fields.any fun field => field.1 == "access_token") = false ∨
        ∃ seconds, ((fields.lookup "expires_in").getD (.int 3600)).toInt = .ok seconds)

/-- No adapter can be built for the place, or the stored client secret decrypts
and the answer is readable. -/
def Managed (row : ConnectionRow) (token : String) (place : InstanceRow) : Prop :=
  ∀ adapter, buildAdapterForInstance place = .ok adapter →
    (∃ clientSecret, clientSecretOf settings place = .ok clientSecret) ∧
      ∀ response, Answers settings outside world id nowTs row token place response →
        Readable response

def Manageable : Prop :=
  ∀ row token place, Refreshes settings outside world id clockSkewSeconds nowTs row token place →
    Managed settings outside world id nowTs row token place

end Contract

/-! Which errors a refresh survives. -/

theorem emit_error {byte : Nat} {rest : Except PyError Base64.Bytes} {error : PyError}
    (failed : Base64.emit byte rest = .error error) : rest = .error error := by
  cases rest with
  | ok bytes => cases failed
  | error cause => exact failed

theorem decode_error {position left pads seen : Nat} {text : List Char} {error : PyError}
    (failed : Base64.decodeFrom position left pads seen text = .error error) :
    error.kind = .binasciiError := by
  induction text generalizing position left pads seen with
  | nil =>
      unfold Base64.decodeFrom at failed
      split at failed
      · cases failed
      · split at failed <;> cases failed <;> rfl
  | cons c rest ih =>
      unfold Base64.decodeFrom at failed
      by_cases padding : c = '='
      · rw [if_pos padding] at failed
        split at failed
        · split at failed
          · cases failed
          · exact ih failed
        · exact ih failed
      · rw [if_neg padding] at failed
        split at failed
        · exact ih failed
        · split at failed
          · exact ih failed
          · split at failed
            · exact ih (emit_error failed)
            · split at failed <;> exact ih (emit_error failed)

/-- An undecryptable secret is none of the errors a refresh survives. -/
theorem decrypt_error {settings : Settings} {sealed : String} {error : PyError}
    (failed : Secrets.decrypt settings.aead sealed settings.masterKey = .error error) :
    isRefreshFailure error = false := by
  have other {kind : ErrorKind} (same : error.kind = kind)
      (apart : kind ≠ .oauthExchangeError ∧ kind ≠ .sourceAdapterError ∧
        kind ≠ .sourceAdapterNotImplementedError) : isRefreshFailure error = false := by
    subst same
    simp [isRefreshFailure, apart]
  unfold Secrets.decrypt at failed
  rw [if_pos settings.masterKeyLength] at failed
  cases decoded : Base64.urlsafeB64decode sealed with
  | error cause =>
      rw [decoded] at failed
      cases failed
      unfold Base64.urlsafeB64decode at decoded
      split at decoded
      · exact other (decode_error decoded) (by decide)
      · cases decoded
        rfl
  | ok blob =>
      rw [decoded] at failed
      dsimp only [bind, Except.bind, Secrets.openEnvelope] at failed
      split at failed
      · cases failed
        rfl
      · split at failed
        · split at failed
          · unfold Secrets.utf8Decode at failed
            split at failed <;> cases failed
            rfl
          · cases failed
            rfl
        · cases failed
          rfl

theorem client_secret_error {settings : Settings} {place : InstanceRow} {error : PyError}
    (failed : clientSecretOf settings place = .error error) : isRefreshFailure error = false := by
  unfold clientSecretOf at failed
  split at failed
  · cases failed
  · split at failed
    · cases failed
    · exact decrypt_error failed

theorem build_error {place : InstanceRow} {error : PyError}
    (failed : buildAdapterForInstance place = .error error) : isRefreshFailure error = true := by
  unfold buildAdapterForInstance at failed
  split at failed
  · cases failed
    rfl
  · split at failed
    · dsimp only at failed
      split at failed
      · split at failed <;> cases failed
        rfl
      · cases failed
        rfl
    · cases failed
      rfl

theorem to_int_error {value : Json} {error : PyError} (failed : value.toInt = .error error) :
    isRefreshFailure error = false := by
  unfold Json.toInt at failed
  split at failed
  · cases failed
  · cases failed
  · split at failed
    · cases failed
    · split at failed <;> cases failed <;> rfl
  · unfold Json.intOfText at failed
    split at failed
    · split at failed <;> cases failed
      rfl
    · cases failed
      rfl
  · cases failed
    rfl

theorem fresh_refused {response : HttpResponse} {error : PyError} (instant : Int)
    (refused : acceptedBody response = .error error) :
    freshTokens response instant = .error error := by
  rw [freshTokens, refused]
  rfl

/-- A value that is not an object raises what no refresh survives. -/
theorem fresh_of_value {response : HttpResponse} {data : Json} (instant : Int)
    (success : response.status = 200) (body : response.json = .ok data)
    (other : ∀ fields, data ≠ .obj fields) :
    ∃ error, freshTokens response instant = .error error ∧ isRefreshFailure error = false := by
  have accepted : acceptedBody response = (do
      if ← data.contains "access_token" then .ok data
      else
        let keys ← data.keys
        .error
          { kind := .oauthExchangeError
            text := s!"token endpoint response missing access_token: keys={keys.repr}" }) := by
    rw [acceptedBody, if_pos success, body]
  rw [freshTokens, accepted]
  cases data with
  | obj fields => exact absurd rfl (other fields)
  | arr items =>
      obtain ⟨found, same⟩ : ∃ found, (Json.arr items).contains "access_token" = .ok found := ⟨_, rfl⟩
      rw [same]
      cases found <;> exact ⟨_, rfl, rfl⟩
  | str text =>
      obtain ⟨found, same⟩ : ∃ found, (Json.str text).contains "access_token" = .ok found := ⟨_, rfl⟩
      rw [same]
      cases found <;> exact ⟨_, rfl, rfl⟩
  | null => exact ⟨_, rfl, rfl⟩
  | bool value => exact ⟨_, rfl, rfl⟩
  | int value => exact ⟨_, rfl, rfl⟩
  | float value => exact ⟨_, rfl, rfl⟩

/-- An object with an access token: only the conversion of `expires_in` can fail. -/
theorem fresh_of_object {response : HttpResponse} {fields : List (String × Json)} (instant : Int)
    (success : response.status = 200) (body : response.json = .ok (.obj fields))
    (present : (fields.any fun field => field.1 == "access_token") = true) (error : PyError) :
    freshTokens response instant = .error error ↔
      ((fields.lookup "expires_in").getD (.int 3600)).toInt = .error error := by
  have accepted : acceptedBody response = .ok (.obj fields) := by
    simp only [acceptedBody, if_pos success, body, Json.contains, bind, Except.bind, present, if_true]
  have found : ∃ value, fields.lookup "access_token" = some value := by
    apply Option.isSome_iff_exists.mp
    apply List.lookup_isSome_iff.mpr
    obtain ⟨field, member, named⟩ := List.any_eq_true.mp present
    exact ⟨field, member, beq_iff_eq.mpr (beq_iff_eq.mp named).symm⟩
  obtain ⟨value, held⟩ := found
  rw [freshTokens, accepted]
  simp only [bind, Except.bind, tokensOfResponse, Json.get, Json.getItem, held]
  cases ((fields.lookup "expires_in").getD (.int 3600)).toInt with
  | ok seconds => simp [pure, Except.pure]
  | error cause => simp

/-- Just the readable answers give tokens or an error that a refresh survives. -/
theorem readable_iff (response : HttpResponse) (instant : Int) :
    Readable response ↔ ∀ error, freshTokens response instant = .error error →
      isRefreshFailure error = true := by
  have survives (readable : Readable response) {kept : PyError}
      (refused : acceptedBody response = .error kept) (failure : isRefreshFailure kept = true) :
      Readable response ↔ ∀ error, freshTokens response instant = .error error →
        isRefreshFailure error = true := by
    constructor
    · intro _ error failed
      rw [fresh_refused instant refused] at failed
      cases failed
      exact failure
    · exact fun _ => readable
  by_cases success : response.status = 200
  · cases body : response.json with
    | error text =>
        apply survives (.inr (.inl ⟨text, body⟩))
        · rw [acceptedBody, if_pos success, body]
        · rfl
    | ok data =>
        by_cases object : ∃ fields, data = .obj fields
        · obtain ⟨fields, rfl⟩ := object
          cases present : fields.any fun field => field.1 == "access_token" with
          | false =>
              apply survives (.inr (.inr ⟨fields, body, .inl present⟩))
              · simp only [acceptedBody, if_pos success, body, Json.contains, bind, Except.bind,
                  present, Json.keys]
                rfl
              · rfl
          | true =>
              have fresh := fresh_of_object instant success body present
              constructor
              · rintro (failed | ⟨text, failed⟩ | ⟨others, same, lacks | ⟨seconds, read⟩⟩) error wrong
                · exact absurd success failed
                · rw [body] at failed
                  cases failed
                · rw [body] at same
                  cases same
                  rw [present] at lacks
                  cases lacks
                · rw [body] at same
                  cases same
                  rw [fresh error, read] at wrong
                  cases wrong
              · intro survived
                refine .inr (.inr ⟨fields, body, .inr ?_⟩)
                cases read : ((fields.lookup "expires_in").getD (.int 3600)).toInt with
                | ok seconds => exact ⟨seconds, rfl⟩
                | error error =>
                    have failure := survived error ((fresh error).mpr read)
                    rw [to_int_error read] at failure
                    cases failure
        · have other : ∀ fields, data ≠ .obj fields := fun fields same => object ⟨fields, same⟩
          obtain ⟨error, failed, fatal⟩ := fresh_of_value instant success body other
          constructor
          · rintro (unsuccessful | ⟨text, unread⟩ | ⟨fields, same, _⟩)
            · exact absurd success unsuccessful
            · rw [body] at unread
              cases unread
            · rw [body] at same
              exact absurd (Except.ok.inj same) (other fields)
          · intro survived
            rw [survived error failed] at fatal
            cases fatal
  · apply survives (.inl success)
    · rw [acceptedBody, if_neg success]
    · rfl

/-! The call, step by step. -/

section Calling

variable {settings : Settings} {outside : Outside N} {world : World N} {id : String}
  {clockSkewSeconds : Int} {nowTs : Option Int} {row : ConnectionRow} {token : String}
  {place : InstanceRow}

theorem after_read_store (reliable : outside.Reliable) :
    (afterRead outside world id).store = world.store :=
  (exec_reliable reliable (.selectConnections (.withId id)) world).2

theorem after_clock_store (reliable : outside.Reliable) :
    (afterClock outside world id nowTs).store = world.store := by
  cases nowTs with
  | none => exact after_read_store reliable
  | some given => exact after_read_store reliable

theorem before_post_store (reliable : outside.Reliable) (instanceId : String) :
    (beforePost outside world id nowTs instanceId).store = world.store :=
  (exec_reliable reliable (.selectInstance instanceId) _).2.trans (after_clock_store reliable)

theorem holding_unique {row' : ConnectionRow} {tokens tokens' : OAuthTokens}
    (first : Holding settings world id row tokens) (second : Holding settings world id row' tokens') :
    row' = row ∧ tokens' = tokens := by
  obtain ⟨envelope, usable, decoded⟩ := first
  obtain ⟨envelope', usable', decoded'⟩ := second
  rw [usable] at usable'
  cases usable'
  rw [decoded] at decoded'
  cases decoded'
  exact ⟨rfl, rfl⟩

theorem manageable_iff
    (refreshes : Refreshes settings outside world id clockSkewSeconds nowTs row token place) :
    Manageable settings outside world id clockSkewSeconds nowTs ↔
      Managed settings outside world id nowTs row token place := by
  constructor
  · intro manageable
    exact manageable row token place refreshes
  · intro managed row' token' place' again
    obtain ⟨tokens, holding, _, carries⟩ := refreshes.holding
    obtain ⟨tokens', holding', _, carries'⟩ := again.holding
    obtain ⟨rfl, rfl⟩ := holding_unique holding holding'
    rw [carries] at carries'
    cases carries'
    have located := again.place
    rw [refreshes.place] at located
    cases located
    exact managed

/-- A request fails on its way, or it is answered. -/
theorem exec_http (request : HttpRequest) (before : World N) :
    ((∃ text, (exec outside (.http request) before).1 = .error ⟨.httpError, text⟩) ∧
        (exec outside (.http request) before).2.store = before.store) ∨
      (∃ response, (exec outside (.http request) before).1 = .ok response) ∧
        (exec outside (.http request) before).2.store = before.store := by
  have kept := exec_elsewhere outside (.http request) before (by simp)
  rcases answered : outside.http request before.outside with ⟨text | response, next⟩
  · refine .inl ⟨⟨text, ?_⟩, kept⟩
    simp only [exec, answered]
  · refine .inr ⟨⟨response, ?_⟩, kept⟩
    simp only [exec, answered]

/-- The request and its answer, in one step. -/
theorem post_token_endpoint (url : String) (body : List (String × String)) (instant : Int) :
    postTokenEndpoint url body (some instant) =
      ((httpSend (.post url body)).handle fun exc =>
        if exc.kind = .httpError then
          fail .oauthExchangeError s!"token endpoint unreachable: {exc.text}"
        else .raise exc).bind fun response => Prog.lift (freshTokens response instant) := by
  rw [postTokenEndpoint, Prog.bind_eq]
  congr 1
  funext response
  rw [freshTokens]
  cases acceptedBody response with
  | ok data => rfl
  | error error => rfl

/-- A refresh with an adapter and a secret is managed if the answer to its request is readable. -/
theorem managed_iff_readable {adapter : OutlookGraphAdapter} {clientSecret : String} {request : HttpRequest}
    (built : buildAdapterForInstance place = .ok adapter)
    (opened : clientSecretOf settings place = .ok clientSecret)
    (sent : refreshRequest settings place token = .ok request) :
    Managed settings outside world id nowTs row token place ↔
      ∀ response, (exec outside (.http request)
        (beforePost outside world id nowTs row.integrationInstanceId)).1 = .ok response →
          Readable response := by
  constructor
  · intro managed response answered
    exact (managed adapter built).2 response ⟨request, sent, answered⟩
  · intro readable other _
    refine ⟨⟨clientSecret, opened⟩, ?_⟩
    rintro response ⟨request', sent', answered⟩
    rw [sent] at sent'
    cases sent'
    exact readable response answered

/-- A request and its answer: what it raises is survived exactly if the answer is readable. -/
theorem exchanged_leaves (request : HttpRequest) (before : World N) (instant : Int) :
    Prog.Leaves (exec outside)
      (((httpSend request).handle fun exc =>
        if exc.kind = .httpError then
          fail .oauthExchangeError s!"token endpoint unreachable: {exc.text}"
        else .raise exc).bind fun response => Prog.lift (freshTokens response instant)) before
      fun outcome after => after.store = before.store ∧
        match outcome with
        | .ok fresh => ∃ response, (exec outside (.http request) before).1 = .ok response ∧
            Readable response ∧ freshTokens response instant = .ok fresh
        | .error error => isRefreshFailure error = true ↔
            ∀ response, (exec outside (.http request) before).1 = .ok response → Readable response := by
  rw [Prog.leaves_bind, Prog.leaves_handle, httpSend, Prog.leaves_perform]
  rcases exec_http request before with ⟨⟨text, answered⟩, store⟩ | ⟨⟨response, answered⟩, store⟩
  · rw [answered]
    refine ⟨store, fun _ response other => ?_, fun _ => rfl⟩
    cases other
  · rw [answered]
    have readable := readable_iff response instant
    dsimp only
    rw [Prog.leaves_lift]
    cases parsed : freshTokens response instant with
    | ok fresh =>
        refine ⟨store, response, rfl, readable.mpr fun error failed => ?_, parsed⟩
        rw [parsed] at failed
        cases failed
    | error error =>
        refine ⟨store, fun failure other same => ?_, fun read => readable.mp (read response rfl) error parsed⟩
        cases same
        apply readable.mpr
        intro other failed
        rw [parsed] at failed
        cases failed
        exact failure

theorem refresh_leaves (instant : Int) :
    Prog.Leaves (exec outside) (refreshWith settings place token instant)
      (beforePost outside world id nowTs row.integrationInstanceId) fun outcome after =>
        after.store = (beforePost outside world id nowTs row.integrationInstanceId).store ∧
          match outcome with
          | .ok fresh => Managed settings outside world id nowTs row token place ∧
              ∃ response, Answers settings outside world id nowTs row token place response ∧
                freshTokens response instant = .ok fresh
          | .error error => isRefreshFailure error = true ↔
              Managed settings outside world id nowTs row token place := by
  rw [refreshWith]
  cases built : buildAdapterForInstance place with
  | error error =>
      refine ⟨rfl, fun _ adapter other => ?_, fun _ => build_error built⟩
      rw [built] at other
      cases other
  | ok adapter =>
      cases opened : clientSecretOf settings place with
      | error error =>
          refine ⟨rfl, fun failure => ?_, fun managed => ?_⟩
          · rw [client_secret_error opened] at failure
            cases failure
          · obtain ⟨clientSecret, readable⟩ := (managed adapter built).1
            rw [opened] at readable
            cases readable
      | ok clientSecret =>
          have sent : ∃ request, refreshRequest settings place token = .ok request ∧
              refreshAccessToken adapter.tokenEndpoint
                (strOrEmpty (place.configPublic.lookup "client_id")) clientSecret token
                (some instant) =
              ((httpSend request).handle fun exc =>
                if exc.kind = .httpError then
                  fail .oauthExchangeError s!"token endpoint unreachable: {exc.text}"
                else .raise exc).bind fun response => Prog.lift (freshTokens response instant) := by
            refine ⟨_, ?_, post_token_endpoint ..⟩
            rw [refreshRequest, built, opened]
            rfl
          obtain ⟨request, sent, same⟩ := sent
          have managed := @managed_iff_readable _ settings outside world id nowTs row token place adapter
            clientSecret request built opened sent
          simp only [Prog.lift, Prog.bind_eq, Prog.bind_ret]
          rw [same]
          apply Prog.leaves_mono (exchanged_leaves request _ instant)
          rintro outcome after ⟨store, facts⟩
          cases outcome with
          | ok fresh =>
              obtain ⟨response, answered, readable, parsed⟩ := facts
              refine ⟨store, managed.mpr fun other same => ?_, response, ⟨request, sent, answered⟩, parsed⟩
              rw [answered] at same
              cases same
              exact readable
          | error error => exact ⟨store, facts.trans managed.symm⟩

theorem once_leaves (reliable : outside.Reliable) {tokens : OAuthTokens}
    (holding : Holding settings world id row tokens)
    (expired : ¬ Valid outside world id clockSkewSeconds nowTs tokens) :
    Prog.Leaves (exec outside) (refreshOnce settings row tokens (callTime outside world id nowTs))
      (afterClock outside world id nowTs) fun outcome after =>
        after.store = world.store ∧
          match outcome with
          | .ok none => Manageable settings outside world id clockSkewSeconds nowTs
          | .ok (some fresh) => Manageable settings outside world id clockSkewSeconds nowTs ∧
              ∃ token place response,
                Refreshes settings outside world id clockSkewSeconds nowTs row token place ∧
                Answers settings outside world id nowTs row token place response ∧
                freshTokens response (callTime outside world id nowTs) = .ok fresh
          | .error _ => ¬ Manageable settings outside world id clockSkewSeconds nowTs := by
  -- Without a refresh token or an instance there is nothing to manage.
  have vacuous (impossible : ∀ token place,
      ¬ (tokens.refreshToken = some token ∧
        placeOf world.store row.integrationInstanceId = some place)) :
      Manageable settings outside world id clockSkewSeconds nowTs := by
    rintro row' token place ⟨⟨tokens', holding', _, carries⟩, located⟩
    obtain ⟨rfl, rfl⟩ := holding_unique holding holding'
    exact absurd ⟨carries, located⟩ (impossible token place)
  unfold refreshOnce
  cases carries : tokens.refreshToken with
  | none =>
      refine ⟨after_clock_store reliable, vacuous fun token place both => ?_⟩
      rw [carries] at both
      cases both.1
  | some token =>
      have carried := exec_reliable reliable (.selectInstance row.integrationInstanceId)
        (afterClock outside world id nowTs)
      simp only [fetchInstance, Prog.bind_eq, Prog.bind_assoc, query, Prog.pure_eq]
      rw [Prog.leaves_bind, Prog.leaves_perform, carried.1]
      simp only [StoreOp.apply, after_clock_store reliable, Prog.bind_ret]
      have located : (world.store.instances.filter fun place =>
          place.id = row.integrationInstanceId).head? =
            placeOf world.store row.integrationInstanceId := rfl
      rw [located]
      cases found : placeOf world.store row.integrationInstanceId with
      | none =>
          refine ⟨before_post_store reliable _, vacuous fun token place both => ?_⟩
          rw [found] at both
          cases both.2
      | some place =>
          have refreshes : Refreshes settings outside world id clockSkewSeconds nowTs row token
              place := ⟨⟨tokens, holding, expired, carries⟩, found⟩
          dsimp only
          rw [Prog.leaves_handle, Prog.leaves_bind]
          apply Prog.leaves_mono (refresh_leaves _)
          rintro outcome after ⟨kept, facts⟩
          have store := kept.trans (before_post_store reliable _)
          have manageable := manageable_iff refreshes
          cases outcome with
          | ok fresh =>
              obtain ⟨managed, response, answers, parsed⟩ := facts
              exact ⟨store, manageable.mpr managed, token, place, response, refreshes, answers, parsed⟩
          | error error =>
              dsimp only at facts ⊢
              split
              · exact ⟨store, manageable.mpr (facts.mp ‹_›)⟩
              · exact ⟨store, fun managed => ‹¬ _› (facts.mpr (manageable.mp managed))⟩

variable (clockSkewSeconds nowTs) in
/-- A call that gives up marks the row it read. -/
theorem stale_leaves (reliable : outside.Reliable) {envelope : String} {before : World N}
    (same : before.store = world.store)
    (usable : usableRow (rowsOf world.store id) = some (row, envelope))
    (invalid : ∀ tokens, decodeTokenBlob settings envelope = some tokens →
      ¬ Valid outside world id clockSkewSeconds nowTs tokens) :
    Prog.Leaves (exec outside) ((markStale row.id).bind fun _ => (.ret none : Hub (Option String)))
      before fun outcome after =>
        Served settings outside world id clockSkewSeconds nowTs outcome after.store := by
  apply leaves_reliable_then reliable
  intro after moved
  have store : after.store = withUpdate world.store row.id .stale := by
    rw [moved, same]
    rfl
  rw [Prog.leaves_ret, store]
  exact .stale row envelope usable invalid

/-- A call that got fresh tokens seals them into the row. -/
theorem persist_leaves (reliable : outside.Reliable) {response : HttpResponse} {fresh : OAuthTokens}
    {before : World N} (same : before.store = world.store)
    (refreshes : Refreshes settings outside world id clockSkewSeconds nowTs row token place)
    (answers : Answers settings outside world id nowTs row token place response)
    (issued : freshTokens response (callTime outside world id nowTs) = .ok fresh) :
    Prog.Leaves (exec outside)
      ((persistTokens settings row.id fresh).bind fun _ =>
        (.ret (some fresh.accessToken) : Hub (Option String))) before fun outcome after =>
          Served settings outside world id clockSkewSeconds nowTs outcome after.store := by
  rw [persistTokens, encryptFresh, Prog.bind_eq, Prog.bind_eq, Prog.bind_assoc, Prog.bind_assoc,
    tokenBytes, Prog.leaves_bind, Prog.leaves_perform]
  dsimp only [exec]
  cases sealed : Secrets.encrypt settings.aead (tokenBlob fresh) settings.masterKey
      (outside.tokenBytes Secrets.nonceLen before.outside).1 with
  | error error => exact absurd sealed (encrypt_master settings _ _ error)
  | ok envelope =>
      apply leaves_reliable_then reliable
      intro after moved
      have store : after.store = withUpdate world.store row.id (.credentials envelope) := by
        rw [moved, same]
        rfl
      rw [Prog.leaves_ret, store]
      exact .renewed row token place response fresh _ envelope refreshes answers issued sealed

/-- A call that refreshes nothing is manageable. -/
theorem manageable_idle (valid : ∀ row tokens, Holding settings world id row tokens →
      Valid outside world id clockSkewSeconds nowTs tokens) :
    Manageable settings outside world id clockSkewSeconds nowTs := by
  rintro row token place ⟨⟨tokens, holding, expired, _⟩, _⟩
  exact absurd (valid row tokens holding) expired

theorem leaves_read_clock (rest : Int → Hub (Option String))
    (post : Except PyError (Option String) → World N → Prop) :
    Prog.Leaves (exec outside) ((readClock nowTs).bind rest) (afterRead outside world id) post ↔
      Prog.Leaves (exec outside) (rest (callTime outside world id nowTs)) (afterClock outside world id nowTs)
        post := by
  cases nowTs <;> rfl

/-- A call whose row holds tokens: they are given while they are valid, or refreshed once. -/
theorem holding_leaves (reliable : outside.Reliable) {envelope : String} {tokens : OAuthTokens}
    (usable : usableRow (rowsOf world.store id) = some (row, envelope))
    (decoded : decodeTokenBlob settings envelope = some tokens) :
    Prog.Leaves (exec outside)
      ((readClock nowTs).bind fun now =>
        if now < tokens.expiresAt - clockSkewSeconds then .ret (some tokens.accessToken)
        else (refreshOnce settings row tokens now).bind fun refreshed =>
          match refreshed with
          | none => (markStale row.id).bind fun _ => .ret none
          | some fresh => (persistTokens settings row.id fresh).bind fun _ => .ret (some fresh.accessToken))
      (afterRead outside world id) fun outcome after =>
        Served settings outside world id clockSkewSeconds nowTs outcome after.store ∧
            Manageable settings outside world id clockSkewSeconds nowTs ∨
          (∃ error, outcome = .error error) ∧
            ¬ Manageable settings outside world id clockSkewSeconds nowTs := by
  have holding : Holding settings world id row tokens := ⟨envelope, usable, decoded⟩
  rw [leaves_read_clock]
  by_cases valid : callTime outside world id nowTs < tokens.expiresAt - clockSkewSeconds
  · rw [if_pos valid, Prog.leaves_ret, after_clock_store reliable]
    left
    constructor
    · exact .stored row tokens holding valid
    · apply manageable_idle
      intro row' tokens' other
      obtain ⟨rfl, rfl⟩ := holding_unique holding other
      exact valid
  · rw [if_neg valid, Prog.leaves_bind]
    apply Prog.leaves_mono (once_leaves reliable holding valid)
    rintro outcome after ⟨store, facts⟩
    cases outcome with
    | error error => exact .inr ⟨⟨error, rfl⟩, facts⟩
    | ok refreshed =>
        cases refreshed with
        | none =>
            -- The call gives up with the tokens that it has found expired.
            have expired : ∀ other, decodeTokenBlob settings envelope = some other →
                ¬ Valid outside world id clockSkewSeconds nowTs other := by
              intro other same
              rw [decoded] at same
              cases same
              exact valid
            have settled := stale_leaves clockSkewSeconds nowTs reliable store usable expired
            exact Prog.leaves_mono settled fun _ _ served => .inl ⟨served, facts⟩
        | some fresh =>
            obtain ⟨manageable, token, place, response, refreshes, answers, issued⟩ := facts
            exact Prog.leaves_mono (persist_leaves reliable store refreshes answers issued)
              fun _ _ served => .inl ⟨served, manageable⟩

/-- A call keeps its promise, or it raises where it was not manageable. -/
theorem access_token_leaves (settings : Settings) (reliable : outside.Reliable) (world : World N)
    (id : String) (clockSkewSeconds : Int) (nowTs : Option Int) :
    Prog.Leaves (exec outside) (getValidAccessToken settings id clockSkewSeconds nowTs) world
      fun outcome after =>
        Served settings outside world id clockSkewSeconds nowTs outcome after.store ∧
            Manageable settings outside world id clockSkewSeconds nowTs ∨
          (∃ error, outcome = .error error) ∧
            ¬ Manageable settings outside world id clockSkewSeconds nowTs := by
  have carried := exec_reliable reliable (.selectConnections (.withId id)) world
  simp only [getValidAccessToken, fetchConnectionRow, query, Prog.bind_eq, Prog.bind_assoc,
    Prog.pure_eq]
  rw [Prog.leaves_bind, Prog.leaves_perform, carried.1]
  have read : ((StoreOp.selectConnections (.withId id)).apply world.store).1 =
    rowsOf world.store id := rfl
  have reached : (exec outside (.store (.selectConnections (.withId id))) world).2 =
    afterRead outside world id := rfl
  have store : (afterRead outside world id).store = world.store := after_read_store reliable
  simp only [read, Prog.bind_ret]
  cases usable : usableRow (rowsOf world.store id) with
  | none =>
      rw [Prog.leaves_ret, reached, store]
      left
      constructor
      · exact .unusable usable
      · apply manageable_idle
        rintro row tokens ⟨envelope, other, _⟩
        rw [usable] at other
        cases other
  | some found =>
      obtain ⟨row, envelope⟩ := found
      cases decoded : decodeTokenBlob settings envelope with
      | none =>
          have unreadable : ∀ tokens, decodeTokenBlob settings envelope ≠ some tokens := by
            intro tokens other
            rw [decoded] at other
            cases other
          have settled := stale_leaves clockSkewSeconds nowTs reliable store usable
            fun tokens other => absurd other (unreadable tokens)
          simp only [decoded]
          apply Prog.leaves_mono settled
          intro outcome after served
          refine .inl ⟨served, manageable_idle ?_⟩
          rintro row' tokens ⟨envelope', other, holding⟩
          rw [usable] at other
          cases other
          exact absurd holding (unreadable tokens)
      | some tokens =>
          simp only [decoded]
          exact holding_leaves reliable usable decoded

end Calling

/-! The requests a call makes. -/

/-- No request has been sent yet. -/
def Unspent : Stage → Prop
  | .idle | .holds _ _ | .located _ _ _ => True
  | _ => False

def isPost : Op → Bool
  | .http _ => true
  | _ => false

/-- The requests to a token endpoint among the operations of a run. -/
def posts (entries : List ((op : Op) × Except PyError op.Res)) : Nat :=
  entries.countP fun entry => isPost entry.1

theorem unspent_before {settings : Settings} {stage : Stage} {op : Op}
    {answer : Except PyError op.Res} (unspent : Unspent (stage.next settings op answer)) :
    Unspent stage := by
  unfold Stage.next at unspent
  split at unspent
  · trivial
  · cases unspent
  · trivial
  · trivial
  · trivial
  · cases unspent
  · cases unspent
  · exact unspent

/-- Only a call that has its request ready posts, and then it has posted. -/
theorem post_spends {settings : Settings} {id : String} {stage : Stage} {op : Op}
    (allowed : stage.Allows settings id op) (post : isPost op = true) :
    Unspent stage ∧ ∀ answer, ¬ Unspent (stage.next settings op answer) := by
  cases op with
  | http request =>
      cases stage with
      | located row token place =>
          refine ⟨trivial, fun answer => ?_⟩
          cases answer <;> exact not_false
      | _ => cases allowed
  | _ => cases post

/-- At most one post, and none as long as one may come. -/
def Sparing (stage : Stage) (past : List ((op : Op) × Except PyError op.Res)) : Prop :=
  posts past ≤ 1 ∧ (Unspent stage → posts past = 0)

theorem sparing_kept {settings : Settings} {id : String} {stage : Stage} {op : Op}
    {past : List ((op : Op) × Except PyError op.Res)} (answer : Except PyError op.Res)
    (sparing : Sparing stage past) (allowed : stage.Allows settings id op) :
    Sparing (stage.next settings op answer) (past ++ [⟨op, answer⟩]) := by
  by_cases post : isPost op = true
  · obtain ⟨unspent, spent⟩ := post_spends allowed post
    have none := sparing.2 unspent
    constructor
    · simp only [posts, List.countP_append] at none ⊢
      rw [none]
      simp [post]
    · exact fun impossible => absurd impossible (spent answer)
  · have same : posts (past ++ [⟨op, answer⟩]) = posts past := by
      simp [posts, List.countP_append, post]
    rw [Sparing, same]
    exact ⟨sparing.1, fun unspent => sparing.2 (unspent_before unspent)⟩

theorem at_most_one_post (settings : Settings) (outside : Outside N) (world : World N) (id : String)
    (clockSkewSeconds : Int) (nowTs : Option Int) :
    posts ((getValidAccessToken settings id clockSkewSeconds nowTs).trace (exec outside) world) ≤ 1 := by
  have start : Sparing .idle [] := ⟨Nat.zero_le 1, fun _ => rfl⟩
  have run : Prog.Leaves (exec outside) _ world _ :=
    Prog.leaves_past (fun stage past _ => Sparing stage past) []
      (access_token_follows settings id clockSkewSeconds nowTs) start
      fun stage past op _ sparing allowed => sparing_kept _ sparing allowed
  obtain ⟨last, sparing, _⟩ := run
  exact sparing.1

theorem usable_seal {store : Store} {id : String} {row : ConnectionRow} {tokens : OAuthTokens}
    (found : rowsOf store id = [row]) (connected : row.status = .connected)
    (carries : row.encryptedCredentials = some (sealTokens tokens)) :
    usableRow (rowsOf store id) = some (row, sealTokens tokens) := by
  rw [found]
  simp [usableRow, usableCredentials, connected, carries, seal_filled]

/-- The sample connection is refreshed at the sample place. -/
theorem sample_refreshes (outside : Outside Unit) :
    Refreshes sampleSettings outside ⟨sampleStore, ()⟩ "u1:mail:0" 60 (some 100) sampleConnection
      "refresh-0" samplePlace := by
  have found : rowsOf sampleStore "u1:mail:0" = [sampleConnection] := by
    simp [rowsOf, sampleStore, ConnectionWhere.holds, sampleConnection]
  refine ⟨⟨sampleTokens, ⟨_, usable_seal found rfl rfl, decode_seal _⟩, ?_, rfl⟩, rfl⟩
  simp [Valid, callTime, sampleTokens]

end Lehen.Retrieval
