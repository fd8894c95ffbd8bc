import Lehen.SiamService
import Lehen.SourceAdapter

/-!
`user/connections_service.py`: the connections of a user, the two-step OAuth
flow, the cascades of admin actions, and token retrieval.
-/

namespace Lehen.ConnectionsService

open Secrets Storage OAuth SourceAdapter AuditService SiamService

def defaultPrivacyClass : String := "company"

def connectionId (userSub instanceId : String) (seq : Nat) : String :=
  s!"{userSub}:{instanceId}:{seq}"

variable (settings : Settings)

/-! Helpers that more than one flow uses. -/

def isSiamAuthorized (user : CurrentUser) (instanceId : String) : Hub Bool := do
  let mapping ← SiamService.get
  return user.realmRoles.any fun role => decide (instanceId ∈ mapping.allowed role)

def fetchInstance (instanceId : String) : Hub (Option InstanceRow) := do
  let rows ← query (.selectInstance instanceId)
  return rows.head?

/-- One after the highest sequence number in use, starting at zero. -/
def seqAfter (m : Option Nat) : Nat :=
  match m with
  | none => 0
  | some m => m + 1

def nextSeq (userSub instanceId : String) : Hub Nat := do
  let m ← query (.selectMaxSeq userSub instanceId)
  return seqAfter m

def retainUntil (instant : Time) : Time :=
  instant + settings.consentRetentionDays * 86400000000

def recordConsent (user : CurrentUser) (action instanceId : String) (connectionSeq : Nat)
    (privacyClass externalSubject : String) (requestId : Option String) (ts : Time) :
    Hub Unit := do
  let id ← uuid4
  let requestId ← requestIdOr requestId
  command (.insertConsent
    { id, ts, userSub := user.sub, username := user.username, action
      integrationInstanceId := instanceId, connectionSeq, externalSubject, privacyClass, requestId
      retainUntil := retainUntil settings ts })

def rolesText (user : CurrentUser) : String :=
  (Json.arr ((user.realmRoles.insertionSort (· ≤ ·)).map Json.str)).repr

/-- The gates in front of `grant`, `initiate_grant` and `complete_grant`: the
instance exists, is enabled, and is mapped to a role of the user. -/
def passGates (user : CurrentUser) (instanceId : String) : Hub InstanceRow := do
  let some row ← fetchInstance instanceId
    | fail .connectionNotFoundError s!"integration instance not found: {instanceId}"
  Prog.require (row.enabled = true)
    ⟨.integrationDisabledError, s!"integration instance is disabled: {instanceId}"⟩
  let authorized ← isSiamAuthorized user instanceId
  Prog.require (authorized = true)
    { kind := .integrationNotAuthorizedForRoleError
      text := s!"user roles {rolesText user} are not SIAM-mapped to instance {instanceId}" }
  return row

/-- The uniqueness check: no active row for (user, instance, external_subject). -/
def requireUnconnected (userSub instanceId externalSubject text : String) : Hub Unit := do
  let existing ← query (.selectConnections (.ofMailbox userSub instanceId externalSubject))
  Prog.require (existing = []) ⟨.connectionAlreadyExistsError, text⟩

def listForUser (userSub : String) : Hub (List ConnectionRow) :=
  query (.selectConnections (.ofUser userSub))

def grant (user : CurrentUser) (instanceId : String) (privacyClass : String := defaultPrivacyClass)
    (externalSubject : String := "") (displayLabel : String := "")
    (requestId : Option String := none) : Hub ConnectionRow := do
  let _ ← passGates user instanceId
  requireUnconnected user.sub instanceId externalSubject
    (s!"user already has an active connection to {instanceId} " ++
      s!"for external_subject={Json.reprString externalSubject}; " ++
      "disconnect it first or grant a different external_subject")
  let seq ← nextSeq user.sub instanceId
  let instant ← now
  let connectionDoc : ConnectionRow :=
    { id := connectionId user.sub instanceId seq, userSub := user.sub, username := user.username
      integrationInstanceId := instanceId, connectionSeq := seq, externalSubject, displayLabel
      privacyClass, encryptedCredentials := none, status := .stubConnected
      connectedAt := instant, disconnectedAt := none
      lastHealthStatus := none, lastHealthCheckAt := none }
  command (.insertConnection connectionDoc)
  recordConsent settings user "granted" instanceId seq privacyClass externalSubject requestId instant
  return connectionDoc

def revoke (user : CurrentUser) (instanceId : String) (externalSubject : Option String := none)
    (requestId : Option String := none) : Hub Unit := do
  let active ← query (.selectConnections (match externalSubject with
    | none => .ofUserOn user.sub instanceId
    | some subject => .ofMailbox user.sub instanceId subject))
  Prog.require (active ≠ [])
    ⟨.connectionNotFoundError, s!"no active connection for ({user.sub}, {instanceId})"⟩
  let instant ← now
  Prog.forEach active fun row => do
    command (.updateConnections row.id (.disconnect instant))
    recordConsent settings user "revoked" instanceId row.connectionSeq row.privacyClass
      row.externalSubject requestId instant

/-! The two-step OAuth flow. -/

def initiateGrant (user : CurrentUser) (instanceId redirectUri : String) :
    Hub OAuthAuthorizationRequest := do
  let row ← passGates user instanceId
  Prog.require (redirectUri ∈ settings.allowedRedirectUris)
    { kind := .redirectUriNotAllowedError
      text := s!"redirect_uri {Json.reprString redirectUri} is not on the Hub allowlist" }
  let adapter ← Prog.lift (buildAdapterForInstance row)
  let clientId := strOrEmpty (row.configPublic.lookup "client_id")
  Prog.require (clientId ≠ "")
    ⟨.oauthFlowConfigError, s!"instance {instanceId} has no client_id"⟩
  buildAuthorizationUrl settings adapter.authEndpoint clientId redirectUri
    OutlookGraphAdapter.scopes user.sub instanceId settings.stateKey
    OutlookGraphAdapter.extraAuthorizationParams

/-- The stored `client_secret` in the clear, empty for a public client. -/
def clientSecretOf (row : InstanceRow) : Except PyError String :=
  match row.configSecretsEncrypted.lookup "client_secret" with
  | none => .ok ""
  | some sealed =>
      if sealed = "" then .ok "" else decrypt settings.aead sealed settings.masterKey

/-- What `complete_grant` learns of the mailbox before it looks at the table. -/
structure Authorized where
  tokens : OAuthTokens
  externalSubject : String
  displayLabel : String
  healthOk : Bool

def authorize (user : CurrentUser) (instanceId code state : String) : Hub Authorized := do
  let flow ← decodeState settings state settings.stateKey
  Prog.require (flow.userSub = user.sub)
    ⟨.oauthStateError, "state user_sub does not match caller"⟩
  Prog.require (flow.instanceId = instanceId)
    ⟨.oauthStateError, "state instance_id does not match URL path"⟩
  let row ← passGates user instanceId
  let adapter ← Prog.lift (buildAdapterForInstance row)
  let clientId := strOrEmpty (row.configPublic.lookup "client_id")
  Prog.require (clientId ≠ "")
    ⟨.oauthFlowConfigError, s!"instance {instanceId} missing client_id"⟩
  let clientSecret ← Prog.lift (clientSecretOf settings row)
  let tokens ← exchangeCodeForTokens adapter.tokenEndpoint clientId clientSecret
    flow.redirectUri code flow.codeVerifier
  let (externalSubject, displayLabel) ← fetchUserIdentity tokens.accessToken
  let healthOk ← health tokens.accessToken
  return { tokens, externalSubject, displayLabel, healthOk }

/-- `complete_grant`, up to the answer: the row without its credentials. -/
def completeGrant (user : CurrentUser) (instanceId code state : String)
    (requestId : Option String := none) : Hub ConnectionRow := do
  let granted ← authorize settings user instanceId code state
  requireUnconnected user.sub instanceId granted.externalSubject
    (s!"user already has an active connection to {instanceId} " ++
      s!"for {Json.reprString granted.externalSubject}")
  let seq ← nextSeq user.sub instanceId
  let instant ← now
  let encryptedCredentials ← encryptFresh settings (tokenBlob granted.tokens) settings.masterKey
  let connectionDoc : ConnectionRow :=
    { id := connectionId user.sub instanceId seq, userSub := user.sub, username := user.username
      integrationInstanceId := instanceId, connectionSeq := seq
      externalSubject := granted.externalSubject, displayLabel := granted.displayLabel
      privacyClass := defaultPrivacyClass, encryptedCredentials := some encryptedCredentials
      status := .connected, connectedAt := instant, disconnectedAt := none
      lastHealthStatus := some (if granted.healthOk then "ok" else "fail")
      lastHealthCheckAt := some instant }
  command (.insertConnection connectionDoc)
  recordConsent settings user "granted" instanceId seq defaultPrivacyClass
    granted.externalSubject requestId instant
  return { connectionDoc with encryptedCredentials := none }

/-! The cascades of admin actions. -/

def recordWithdrawal (row : ConnectionRow) (reason : String) (requestId : Option String)
    (ts : Time) : Hub Unit := do
  let id ← uuid4
  let requestId ← requestIdOr requestId
  command (.insertConsent
    { id, ts, userSub := row.userSub, username := row.username, action := reason
      integrationInstanceId := row.integrationInstanceId, connectionSeq := row.connectionSeq
      externalSubject := row.externalSubject, privacyClass := row.privacyClass, requestId
      retainUntil := retainUntil settings ts })

/-- The body both cascades run for a row: wipe it, then record the consent event. -/
def withdraw (reason : String) (requestId : Option String) (ts : Time) (row : ConnectionRow) :
    Hub Unit := do
  command (.updateConnections row.id (.withdraw ts reason))
  recordWithdrawal settings row reason requestId ts

def revokeAllForInstance (instanceId reason : String) (requestId : Option String := none) :
    Hub Nat := do
  let active ← query (.selectConnections (.onInstance instanceId))
  if active = [] then return 0
  else
    let instant ← now
    Prog.forEach active (withdraw settings reason requestId instant)
    return active.length

/-- An active row is revoked when the old mapping listed its instance for some
role and the new one lists it for none. -/
def isOrphaned (previousMapping newMapping : Mapping) (row : ConnectionRow) : Bool :=
  !newMapping.lists row.integrationInstanceId && previousMapping.lists row.integrationInstanceId

def revokeForUsersNoLongerAuthorized (previousMapping newMapping : Mapping)
    (requestId : Option String := none) : Hub Nat := do
  let actives ← query (.selectConnections .anyActive)
  if actives = [] then return 0
  else
    let instant ← now
    let orphaned := actives.filter (isOrphaned previousMapping newMapping)
    Prog.forEach orphaned (withdraw settings "revoked-by-siam-change" requestId instant)
    return orphaned.length

/-! Token retrieval: refresh once, then stale. -/

/-- The row when it is connected and carries credentials, with these. -/
def usableCredentials (row : ConnectionRow) : Option String :=
  if row.status = .connected then
    match row.encryptedCredentials with
    | some envelope => if envelope = "" then none else some envelope
    | none => none
  else none

/-- The first row, if it is usable, with its credentials. -/
def usableRow (rows : List ConnectionRow) : Option (ConnectionRow × String) :=
  match rows.head? with
  | none => none
  | some row => (usableCredentials row).map fun envelope => (row, envelope)

def fetchConnectionRow (id : String) : Hub (Option (ConnectionRow × String)) := do
  let rows ← query (.selectConnections (.withId id))
  return usableRow rows

/-- `_decode_token_blob`: any exception makes the blob unreadable. -/
def decodeTokenBlob (envelope : String) : Option OAuthTokens :=
  match (do
    let blob ← decrypt settings.aead envelope settings.masterKey
    OAuthTokens.fromStorageDict (← JsonText.loads blob) : Except PyError OAuthTokens) with
  | .ok tokens => some tokens
  | .error _ => none

def refreshWith (row : InstanceRow) (refreshToken : String) (nowTs : Int) : Hub OAuthTokens := do
  let adapter ← Prog.lift (buildAdapterForInstance row)
  let clientId := strOrEmpty (row.configPublic.lookup "client_id")
  let clientSecret ← Prog.lift (clientSecretOf settings row)
  refreshAccessToken adapter.tokenEndpoint clientId clientSecret refreshToken (some nowTs)

/-- The errors `_refresh_once` turns into `None`. -/
def isRefreshFailure (exc : PyError) : Bool :=
  exc.kind = .oauthExchangeError || exc.kind = .sourceAdapterError ||
    exc.kind = .sourceAdapterNotImplementedError

def refreshOnce (row : ConnectionRow) (tokens : OAuthTokens) (nowTs : Int) :
    Hub (Option OAuthTokens) :=
  match tokens.refreshToken with
  | none => return none
  | some refreshToken => do
      let some instanceRow ← fetchInstance row.integrationInstanceId
        | return none
      (do
        let fresh ← refreshWith settings instanceRow refreshToken nowTs
        return some fresh : Hub (Option OAuthTokens)).handle fun exc =>
          if isRefreshFailure exc then return none else .raise exc

def persistTokens (id : String) (tokens : OAuthTokens) : Hub Unit := do
  let encrypted ← encryptFresh settings (tokenBlob tokens) settings.masterKey
  command (.updateConnections id (.credentials encrypted))

def markStale (id : String) : Hub Unit :=
  command (.updateConnections id .stale)

def getValidAccessToken (id : String) (clockSkewSeconds : Int := 60) (nowTs : Option Int := none) :
    Hub (Option String) := do
  let some (row, envelope) ← fetchConnectionRow id
    | return none
  match decodeTokenBlob settings envelope with
  | none => do
      markStale row.id
      return none
  | some tokens => do
      let instant ← readClock nowTs
      if instant < tokens.expiresAt - clockSkewSeconds then return some tokens.accessToken
      else
        match ← refreshOnce settings row tokens instant with
        | none => do
            markStale row.id
            return none
        | some fresh => do
            persistTokens settings row.id fresh
            return some fresh.accessToken

end Lehen.ConnectionsService
