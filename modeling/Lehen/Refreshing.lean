import Lehen.Footprint
import Lehen.Schedule

/-!
The protocol of `get_valid_access_token`: what a call has read before it writes
the row, and where the tokens it persists come from. The cascades run beside
such calls, so they have their place in the protocol too.
-/

namespace Lehen.Refreshing

open Storage OAuth SourceAdapter ConnectionsService Footprint
open Prog (Monitor)

variable (settings : Settings)

/-- The request a refresh sends, or the error that keeps it from sending one. -/
def refreshRequest (place : InstanceRow) (token : String) : Except PyError HttpRequest := do
  let adapter ← buildAdapterForInstance place
  let clientSecret ← clientSecretOf settings place
  .ok (.post adapter.tokenEndpoint
    (withSecret
      [("grant_type", "refresh_token"),
        ("client_id", strOrEmpty (place.configPublic.lookup "client_id")),
        ("refresh_token", token)] clientSecret))

/-- The tokens an answer of the endpoint gives. -/
def freshTokens (response : HttpResponse) (instant : Int) : Except PyError OAuthTokens := do
  let data ← acceptedBody response
  tokensOfResponse data instant

/-- How far a call has come, with what it has read. -/
inductive Stage where
  | idle
  | absent
  | unreadable (row : ConnectionRow)
  | holds (row : ConnectionRow) (tokens : OAuthTokens)
  | located (row : ConnectionRow) (token : String) (place : InstanceRow)
  | refused (row : ConnectionRow)
  | answered (row : ConnectionRow) (response : HttpResponse)
  | persisted (response : HttpResponse)
  | staled
  | failed

namespace Stage

/-- The row a call may still write. -/
def pending : Stage → Option ConnectionRow
  | .unreadable row | .holds row _ | .located row _ _ | .refused row | .answered row _ => some row
  | _ => none

/-- No fresh tokens will come. -/
def Hopeless : Stage → Prop
  | .unreadable _ | .refused _ => True
  | .holds _ tokens => tokens.refreshToken = none
  | .located _ token place => ∃ error, refreshRequest settings place token = .error error
  | .answered _ response => ∃ instant error, freshTokens response instant = .error error
  | _ => False

def ofRead : Option (ConnectionRow × String) → Stage
  | none => .absent
  | some (row, envelope) =>
      match decodeTokenBlob settings envelope with
      | none => .unreadable row
      | some tokens => .holds row tokens

def ofPlace (row : ConnectionRow) (tokens : OAuthTokens) : Option InstanceRow → Stage
  | none => .refused row
  | some place =>
      match tokens.refreshToken with
      | none => .refused row
      | some token => .located row token place

def next : Stage → (op : Op) → Except PyError op.Res → Stage
  | .located row _ _, .http _, .error _ => .refused row
  | _, _, .error _ => .failed
  | .idle, .store (.selectConnections _), .ok rows => ofRead settings (usableRow rows)
  | .holds row tokens, .store (.selectInstance _), .ok rows => ofPlace row tokens (List.head? rows)
  | .located row _ _, .http _, .ok response => .answered row response
  | .answered _ response, .store (.updateConnections _ (.credentials _)), .ok _ =>
      .persisted response
  | _, .store (.updateConnections _ .stale), .ok _ => .staled
  | stage, _, _ => stage

def Allows (id : String) : Stage → Op → Prop
  | .idle, .store (.selectConnections rows) => rows = .withId id
  | .holds row tokens, .store (.selectInstance place) =>
      place = row.integrationInstanceId ∧ tokens.refreshToken.isSome = true
  | .located _ token place, .http request => refreshRequest settings place token = .ok request
  | .answered row response, .store (.updateConnections target (.credentials envelope)) =>
      target = row.id ∧ ∃ instant fresh nonce, freshTokens response instant = .ok fresh ∧
        Secrets.encrypt settings.aead (tokenBlob fresh) settings.masterKey nonce = .ok envelope
  | stage, .store (.updateConnections target .stale) =>
      stage.Hopeless settings ∧ ∃ row, stage.pending = some row ∧ target = row.id
  | _, op => Quick op

/-- Where a call that ends has come to. -/
def Ends (stage : Stage) : Except PyError (Option String) → Prop
  | .ok none => stage = .absent ∨ stage = .staled
  | .ok (some token) =>
      (∃ row tokens, stage = .holds row tokens ∧ token = tokens.accessToken) ∨
        ∃ response, stage = .persisted response
  | .error _ => stage = .failed ∨ stage.Hopeless settings

end Stage

def tokenMonitor (id : String) : Monitor Op Op.Res PyError Stage :=
  { allowed := Stage.Allows settings id, next := Stage.next settings }

theorem quick_unnoticed (id : String) (stage : Stage) (op : Op) (quick : Quick op) :
    (tokenMonitor settings id).allowed stage op ∧
      (∀ value, (tokenMonitor settings id).next stage op (.ok value) = stage) ∧
      ∀ error, (tokenMonitor settings id).next stage op (.error error) = .failed := by
  cases op with
  | store statement => cases quick
  | http request => cases quick
  | clock => cases stage <;> exact ⟨rfl, fun _ => rfl, fun _ => rfl⟩
  | tokenBytes count => cases stage <;> exact ⟨rfl, fun _ => rfl, fun _ => rfl⟩
  | uuid4 => cases stage <;> exact ⟨rfl, fun _ => rfl, fun _ => rfl⟩

/-! The parts of a call. -/

variable {settings} {id : String}

theorem quick_then {α β : Type} {body : Hub α} {rest : α → Hub β} {raises : Prop} {stage : Stage}
    {post : Except PyError β → Stage → Prop} (quick : body.Straight Quick raises)
    (then_ : ∀ value, (rest value).Follows (tokenMonitor settings id) post stage)
    (raised : raises → ∀ error, post (.error error) stage)
    (failed : ∀ error, post (.error error) .failed) :
    (body.bind rest).Follows (tokenMonitor settings id) post stage :=
  Prog.follows_straight_then quick (quick_unnoticed settings id stage) then_ raised failed

theorem error_fails (stage : Stage) (statement : StoreOp) (error : PyError) :
    stage.next settings (.store statement) (.error error) = .failed := by
  cases stage <;> rfl

theorem stale_then {stage : Stage} {row : ConnectionRow} (hopeless : stage.Hopeless settings)
    (pending : stage.pending = some row) :
    ((markStale row.id).bind fun _ => (.ret none : Hub (Option String))).Follows
      (tokenMonitor settings id) (fun outcome stage => stage.Ends settings outcome) stage := by
  apply Prog.follows_perform_then
  · cases stage <;> exact ⟨hopeless, row, pending, rfl⟩
  · intro _
    right
    cases stage <;> rfl
  · intro error
    exact .inl (error_fails stage _ error)

/-- The call to the endpoint, with what its outcome says of the answer. -/
theorem refresh_follows (row : ConnectionRow) (token : String) (place : InstanceRow) (nowTs : Int) :
    (refreshWith settings place token nowTs).Follows (tokenMonitor settings id)
      (fun outcome stage =>
        match outcome with
        | .ok fresh => ∃ response, stage = .answered row response ∧
            freshTokens response nowTs = .ok fresh
        | .error _ => stage.Hopeless settings ∧ stage.pending = some row)
      (.located row token place) := by
  apply Prog.follows_lift_then
  · intro adapter built
    apply Prog.follows_lift_then
    · intro clientSecret opened
      have sent : refreshRequest settings place token = .ok (.post adapter.tokenEndpoint
          (withSecret
            [("grant_type", "refresh_token"),
              ("client_id", strOrEmpty (place.configPublic.lookup "client_id")),
              ("refresh_token", token)] clientSecret)) := by
        rw [refreshRequest, built, opened]
        rfl
      apply (Prog.follows_bind ..).mpr
      apply (Prog.follows_handle ..).mpr
      apply (Prog.follows_perform ..).mpr
      refine ⟨sent, fun answer => ?_⟩
      cases answer with
      | error error =>
          dsimp only
          -- No answer came, and the row is still pending.
          split <;> exact ⟨trivial, rfl⟩
      | ok response =>
          -- From an answer without tokens the call can only give up.
          have unusable (error : PyError) (wrong : freshTokens response nowTs = .error error) :
              (Stage.answered row response).Hopeless settings ∧
                (Stage.answered row response).pending = some row :=
            ⟨⟨nowTs, error, wrong⟩, rfl⟩
          apply Prog.follows_lift_then
          · intro data accepted
            have same : freshTokens response nowTs = tokensOfResponse data nowTs := by
              rw [freshTokens, accepted]
              rfl
            apply (Prog.follows_lift ..).mpr
            cases parsed : tokensOfResponse data nowTs with
            | ok fresh => exact ⟨response, rfl, same.trans parsed⟩
            | error error => exact unusable error (same.trans parsed)
          · intro error refused
            apply unusable error
            rw [freshTokens, refused]
            rfl
    · intro error sealed
      refine ⟨⟨error, ?_⟩, rfl⟩
      rw [refreshRequest, built, sealed]
      rfl
  · intro error unbuilt
    refine ⟨⟨error, ?_⟩, rfl⟩
    rw [refreshRequest, unbuilt]
    rfl

/-- Refreshing once: fresh tokens of an answer, or a reason to give up. -/
theorem once_follows (row : ConnectionRow) (tokens : OAuthTokens) (nowTs : Int) :
    (refreshOnce settings row tokens nowTs).Follows (tokenMonitor settings id)
      (fun outcome stage =>
        match outcome with
        | .ok none => stage.Hopeless settings ∧ stage.pending = some row
        | .ok (some fresh) => ∃ response, stage = .answered row response ∧
            freshTokens response nowTs = .ok fresh
        | .error _ => stage = .failed ∨ stage.Hopeless settings)
      (.holds row tokens) := by
  unfold refreshOnce
  cases refresh : tokens.refreshToken with
  | none => exact ⟨refresh, rfl⟩
  | some token =>
      dsimp only
      rw [Prog.bind_eq, fetchInstance, Prog.bind_eq, Prog.bind_assoc]
      apply Prog.follows_perform_then
      · exact ⟨rfl, by rw [refresh]; rfl⟩
      · intro rows
        have moved : (tokenMonitor settings id).next (.holds row tokens)
            (.store (.selectInstance row.integrationInstanceId)) (.ok rows) =
              Stage.ofPlace row tokens (List.head? rows) := rfl
        rw [moved]
        cases List.head? rows with
        | none => exact ⟨trivial, rfl⟩
        | some place =>
            have located : Stage.ofPlace row tokens (some place) = .located row token place := by
              rw [Stage.ofPlace, refresh]
            rw [located]
            apply (Prog.follows_handle ..).mpr
            apply (Prog.follows_bind ..).mpr
            apply Prog.follows_mono (refresh_follows row token place nowTs)
            intro outcome stage facts
            cases outcome with
            | ok fresh => exact facts
            | error error =>
                dsimp only at facts ⊢
                split
                · exact facts
                · exact .inr facts.1
      · intro error
        exact .inl rfl

theorem encrypt_master (settings : Settings) (plaintext : String) (nonce : Secrets.Nonce)
    (error : PyError) :
    Secrets.encrypt settings.aead plaintext settings.masterKey nonce ≠ .error error := by
  rw [Secrets.encrypt, if_pos settings.masterKeyLength]
  intro impossible
  cases impossible

theorem persist_follows (row : ConnectionRow) (response : HttpResponse) (instant : Int)
    (fresh : OAuthTokens) (parsed : freshTokens response instant = .ok fresh) :
    ((persistTokens settings row.id fresh).bind fun _ =>
      (.ret (some fresh.accessToken) : Hub (Option String))).Follows (tokenMonitor settings id)
        (fun outcome stage => stage.Ends settings outcome) (.answered row response) := by
  rw [persistTokens, encryptFresh, Prog.bind_eq, Prog.bind_eq, Prog.bind_assoc, Prog.bind_assoc]
  have drawn : (tokenBytes Secrets.nonceLen).Straight Quick False := quick_perform rfl
  apply quick_then drawn
  · intro nonce
    apply Prog.follows_lift_then
    · intro envelope sealed
      apply Prog.follows_perform_then
      · exact ⟨rfl, instant, fresh, nonce, parsed, sealed⟩
      · exact fun _ => .inr ⟨response, rfl⟩
      · exact fun _ => .inl rfl
    · intro error impossible
      exact absurd impossible (encrypt_master settings _ nonce error)
  · exact False.elim
  · exact fun _ => .inl rfl

/-- A call keeps to the protocol. -/
theorem access_token_follows (settings : Settings) (id : String) (clockSkewSeconds : Int)
    (nowTs : Option Int) :
    (getValidAccessToken settings id clockSkewSeconds nowTs).Follows (tokenMonitor settings id)
      (fun outcome stage => stage.Ends settings outcome) .idle := by
  rw [getValidAccessToken, Prog.bind_eq, fetchConnectionRow, Prog.bind_eq, Prog.bind_assoc]
  apply Prog.follows_perform_then rfl
  · intro rows
    have moved : (tokenMonitor settings id).next .idle
        (.store (.selectConnections (.withId id))) (.ok rows) =
          Stage.ofRead settings (usableRow rows) := rfl
    rw [moved]
    cases usable : usableRow rows with
    | none => exact .inl rfl
    | some found =>
        obtain ⟨row, envelope⟩ := found
        cases decoded : decodeTokenBlob settings envelope with
        | none =>
            have stage : Stage.ofRead settings (some (row, envelope)) = .unreadable row := by
              rw [Stage.ofRead, decoded]
            rw [stage]
            dsimp only [Prog.pure_eq, Prog.bind_ret]
            rw [decoded]
            -- A blob that does not open leaves the call to mark its row.
            exact stale_then trivial rfl
        | some tokens =>
            have stage : Stage.ofRead settings (some (row, envelope)) = .holds row tokens := by
              rw [Stage.ofRead, decoded]
            rw [stage]
            dsimp only [Prog.pure_eq, Prog.bind_ret]
            rw [decoded]
            apply quick_then (quick_clock nowTs)
            · intro instant
              split
              · exact .inl ⟨row, tokens, rfl, rfl⟩
              · apply Prog.follows_then (once_follows row tokens instant)
                · intro refreshed stage facts
                  cases refreshed with
                  | none => exact stale_then facts.1 facts.2
                  | some fresh =>
                      obtain ⟨response, rfl, parsed⟩ := facts
                      exact persist_follows row response instant fresh parsed
                · exact fun _ _ facts => facts
            · exact False.elim
            · exact fun _ => .inl rfl
  · exact fun _ => .inl rfl

/-! What the protocol says of one operation. -/

/-- A call writes only the row it has read. -/
theorem writes_pending {stage : Stage} {op : Op} (allowed : stage.Allows settings id op) :
    Calm op ∨ ∃ row set, op = .store (.updateConnections row.id set) ∧ stage.pending = some row := by
  unfold Stage.Allows at allowed
  split at allowed
  · exact .inl trivial
  · exact .inl trivial
  · exact .inl trivial
  · obtain ⟨rfl, _⟩ := allowed
    exact .inr ⟨_, _, rfl, rfl⟩
  · obtain ⟨_, row, pending, rfl⟩ := allowed
    exact .inr ⟨row, _, rfl, pending⟩
  · exact .inl (calm_of_quiet _ (quiet_of_quick _ allowed))

/-- What a call writes besides its reads. -/
theorem writes_renewal {stage : Stage} {op : Op} (allowed : stage.Allows settings id op) :
    Calm op ∨ ∃ row set, op = .store (.updateConnections row.id set) ∧ stage.pending = some row ∧
      (set = .stale ∨ ∃ envelope, set = .credentials envelope) := by
  rcases writes_pending allowed with calm | ⟨row, set, rfl, pending⟩
  · exact .inl calm
  · right
    refine ⟨row, set, rfl, pending, ?_⟩
    cases set with
    | disconnect ts => cases stage <;> cases allowed
    | withdraw ts reason => cases stage <;> cases allowed
    | credentials envelope => exact .inr ⟨envelope, rfl⟩
    | stale => exact .inl rfl

/-- A call has a row to write only after it has read it. -/
theorem pending_read {stage : Stage} {op : Op} {answer : Except PyError op.Res}
    {row : ConnectionRow} (pending : (stage.next settings op answer).pending = some row) :
    stage.pending = some row ∨
      ∃ (rows : ConnectionWhere) (found : List ConnectionRow) (envelope : String),
        (⟨op, answer⟩ : (op : Op) × Except PyError op.Res) =
          ⟨.store (.selectConnections rows), .ok found⟩ ∧
        usableRow found = some (row, envelope) := by
  unfold Stage.next at pending
  split at pending
  · exact .inl pending
  · cases pending
  · rename_i rows found
    right
    cases usable : usableRow found with
    | none =>
        rw [usable] at pending
        cases pending
    | some read =>
        obtain ⟨held, envelope⟩ := read
        rw [usable, Stage.ofRead] at pending
        have same : held = row := by
          split at pending <;> exact Option.some.inj pending
        subst same
        exact ⟨rows, found, envelope, rfl, usable⟩
  · left
    unfold Stage.ofPlace at pending
    split at pending
    · exact pending
    · split at pending <;> exact pending
  · exact .inl pending
  · cases pending
  · cases pending
  · exact .inl pending

/-- A usable row is one of the rows, connected and with credentials. -/
theorem usable_found {rows : List ConnectionRow} {row : ConnectionRow} {envelope : String}
    (usable : usableRow rows = some (row, envelope)) :
    rows.head? = some row ∧ row.status = .connected ∧
      row.encryptedCredentials = some envelope := by
  unfold usableRow at usable
  cases first : rows.head? with
  | none =>
      rw [first] at usable
      cases usable
  | some held =>
      simp only [first, Option.map_eq_some_iff, Prod.mk.injEq] at usable
      obtain ⟨text, carries, rfl, rfl⟩ := usable
      unfold usableCredentials at carries
      split at carries
      · rename_i connected
        split at carries
        · rename_i sealed present
          split at carries
          · cases carries
          · exact ⟨rfl, connected, present.trans carries⟩
        · cases carries
      · cases carries

/-- There is nothing to read in an empty text. -/
theorem decode_empty (settings : Settings) : decodeTokenBlob settings "" = none := by
  have broken : ∃ error, Secrets.decrypt settings.aead "" settings.masterKey = .error error := by
    rw [Secrets.decrypt, if_pos settings.masterKeyLength]
    exact ⟨_, rfl⟩
  obtain ⟨error, failed⟩ := broken
  rw [decodeTokenBlob, failed]
  rfl

/-- What a call persists is read back by the next one. -/
theorem decode_sealed (lawful : settings.aead.Lawful) (tokens : OAuthTokens) (nonce : Secrets.Nonce)
    (envelope : String)
    (sealed : Secrets.encrypt settings.aead (tokenBlob tokens) settings.masterKey nonce =
      .ok envelope) : decodeTokenBlob settings envelope = some tokens := by
  have opened := Secrets.decrypt_encrypt lawful (tokenBlob tokens) settings.masterKey nonce envelope
    sealed
  have read := token_blob_reads_back tokens
  cases loaded : JsonText.loads (tokenBlob tokens) with
  | error error =>
      rw [loaded] at read
      cases read
  | ok data =>
      rw [loaded] at read
      have parsed : OAuthTokens.fromStorageDict data = .ok tokens := read
      simp only [decodeTokenBlob, opened, bind, Except.bind, loaded, parsed]

/-- The row the store answers with for an id. -/
def connectionRow (store : Store) (id : String) : Option ConnectionRow :=
  (store.connections.filter (ConnectionWhere.withId id).holds).head?

theorem connection_row_update (store : Store) (id : String) (set : ConnectionSet) :
    connectionRow { store with connections := setWhereId id set store.connections } id =
      (connectionRow store id).map set.apply := by
  have kept (row : ConnectionRow) : (set.apply row).id = row.id := by cases set <;> rfl
  simp only [connectionRow, setWhereId]
  induction store.connections with
  | nil => rfl
  | cons row rest ih =>
      by_cases named : row.id = id
      · simp [ConnectionWhere.holds, named, kept]
      · simp only [List.map_cons, List.filter_cons, ConnectionWhere.holds, named,
          decide_false, Bool.false_eq_true, if_false]
        exact ih

/-! Calls and cascades side by side. -/

/-- The monitor of a cascade: it withdraws rows, and has none to refresh. -/
def cascadeMonitor : Monitor Op Op.Res PyError Stage :=
  { allowed := fun _ => Withdrawing, next := fun stage _ _ => stage }

/-- The requests that have a place in the protocol. -/
inductive Concerned : Request → Prop
  | call (id : String) (clockSkewSeconds : Int) (nowTs : Option Int) :
      Concerned (.getValidAccessToken id clockSkewSeconds nowTs)
  | cascadeInstance (instanceId reason : String) (requestId : Option String) :
      Concerned (.revokeAllForInstance instanceId reason requestId)
  | cascadeMapping (previousMapping newMapping : SiamService.Mapping) (requestId : Option String) :
      Concerned (.revokeForUsersNoLongerAuthorized previousMapping newMapping requestId)

variable (settings) in
def tokenProtocol : Schedule.Protocol Request Op Op.Res PyError Unit Stage :=
  { monitor
      | .getValidAccessToken id _ _ => tokenMonitor settings id
      | _ => cascadeMonitor
    initial := fun _ => .idle
    post
      | .getValidAccessToken _ _ _, .ok _, stage => ∃ result, stage.Ends settings (.ok result)
      | .getValidAccessToken _ _ _, .error error, stage => stage.Ends settings (.error error)
      | _, _, _ => True }

theorem follows_cascade {body : Hub Unit} (withdrawing : body.Only Withdrawing) (stage : Stage) :
    body.Follows cascadeMonitor (fun _ _ => True) stage :=
  Prog.follows_confined withdrawing (fun _ _ fits => fits) fun _ _ => trivial

theorem token_served (settings : Settings) (request : Request) (concerned : Concerned request) :
    (tokenProtocol settings).Served (serve settings) request := by
  cases concerned with
  | call id clockSkewSeconds nowTs =>
      apply Prog.follows_then (access_token_follows settings id clockSkewSeconds nowTs)
      · exact fun result _ ends => ⟨result, ends⟩
      · exact fun _ _ ends => ends
  | cascadeInstance instanceId reason requestId =>
      exact follows_cascade (only_drop (withdrawing_revoke_all ..)) .idle
  | cascadeMapping previousMapping newMapping requestId =>
      exact follows_cascade (only_drop (withdrawing_revoke_unauthorized ..)) .idle

/-! A connection whose access token has expired, for runs. -/

def sampleTokens : OAuthTokens :=
  { accessToken := "access-0", refreshToken := some "refresh-0", expiresAt := 0, scope := "" }

/-- The blob of the tokens under the sample settings, with a nonce of zeros. -/
def sealTokens (tokens : OAuthTokens) : String :=
  match Secrets.encrypt sampleSettings.aead (tokenBlob tokens) sampleSettings.masterKey
    ⟨List.replicate 12 0, rfl⟩ with
  | .ok envelope => envelope
  | .error _ => ""

theorem seal_tokens (tokens : OAuthTokens) :
    Secrets.encrypt sampleSettings.aead (tokenBlob tokens) sampleSettings.masterKey
      ⟨List.replicate 12 0, rfl⟩ = .ok (sealTokens tokens) := by
  unfold sealTokens Secrets.encrypt
  rw [if_pos sampleSettings.masterKeyLength]

theorem decode_seal (tokens : OAuthTokens) :
    decodeTokenBlob sampleSettings (sealTokens tokens) = some tokens :=
  decode_sealed Secrets.tagging_aead_lawful tokens _ _ (seal_tokens tokens)

theorem seal_filled (tokens : OAuthTokens) : sealTokens tokens ≠ "" := by
  intro empty
  have decoded := decode_seal tokens
  rw [empty, decode_empty] at decoded
  cases decoded

def sampleConnection : ConnectionRow :=
  { id := "u1:mail:0", userSub := "u1", username := "ann", integrationInstanceId := "mail"
    connectionSeq := 0, externalSubject := "ann@example.org", displayLabel := "Ann"
    privacyClass := defaultPrivacyClass, encryptedCredentials := some (sealTokens sampleTokens)
    status := .connected, connectedAt := 0, disconnectedAt := none
    lastHealthStatus := none, lastHealthCheckAt := none }

def sampleStore : Store :=
  { Store.empty with connections := [sampleConnection], instances := [samplePlace] }

def sampleCall : Request := .getValidAccessToken "u1:mail:0" 60 (some 100)

/-- A network where every request gets the same answer. -/
def answering (response : HttpResponse) (_ : HttpRequest) (state : Unit) :
    Except String HttpResponse × Unit := (.ok response, state)

end Lehen.Refreshing
