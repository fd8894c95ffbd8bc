import Lehen.Jwt

/-!
`admin/local_admin_service.py`: the break-glass account. The CLI sets its
password, a login with that password yields a token of the Hub's own, and the
first SIAM admin login disables it.
-/

namespace Lehen.LocalAdminService

open AuthState Jwt
open Storage (Time)

def bootstrapUsername : String := "admin"

/-! `_SlidingWindowCounter`, with instants in microseconds. -/

def windowLength : Int := 60000000

/-- The bucket with the hit, and whether it is under the limit. -/
def hit (limit : Nat) (bucket : List Int) (now : Int) : List Int × Bool :=
  let events := bucket.filter (fun event => now - windowLength ≤ event) ++ [now]
  (events, events.length ≤ limit)

def hitAndCheck (limit : Nat) (key : String) : Auth Bool := do
  let now ← monotonic
  let bucket ← Prog.perform (AuthOp.readEvents key)
  Prog.perform (AuthOp.setEvents key (hit limit bucket now).1)
  return (hit limit bucket now).2

variable (settings : AuthSettings) (admin : LocalAdminSettings)

/-- `rows[0] if rows else None`. -/
def fetchRow (username : String) : Auth (Option LocalAdminRow) := do
  let rows ← query (.selectLocalAdmin username)
  return rows.head?

/-- `text[:512] if text else "-"`. -/
def agentText (userAgent : String) : String :=
  if userAgent = "" then "-" else prefixText userAgent 512

/-- `request_id or str(uuid.uuid4())`. -/
def requestIdOr (requestId : Option String) : Auth String :=
  match requestId with
  | some text => if text = "" then uuid4 else return text
  | none => uuid4

def recordLoginEvent (username clientIp userAgent : String) (outcome : LoginOutcome)
    (requestId : Option String) : Auth Unit := do
  let id ← uuid4
  let ts ← clock
  let requestId ← requestIdOr requestId
  command (.insertLoginEvent
    { id, ts, username, clientIp, userAgent := agentText userAgent, outcome, requestId })

/-- An empty hash matches nothing. -/
def verifyPassword (password expectedHash : String) : Bool :=
  expectedHash ≠ "" && settings.passwordMatches expectedHash password

def recordFailedAttempt (row : LocalAdminRow) (now : Time) : Auth Unit :=
  let attempts := row.failedAttempts + 1
  let lockedUntil := if admin.failedAttemptsThreshold ≤ attempts then
    some (now + admin.lockoutDurationSeconds * 1000000) else none
  command (.setFailedAttempts row.username attempts lockedUntil)

def recordSuccessfulLogin (row : LocalAdminRow) (now : Time) : Auth Unit :=
  command (.setSuccessfulLogin row.username now)

structure LoginRequest where
  username : String
  password : String
  clientIp : String
  userAgent : String
  requestId : Option String

structure LocalAdminLoginResult where
  token : String
  expiresAt : Time
  username : String

/-- Every refusal is recorded with its reason and raised without it. -/
def refuseLogin {α : Type} (request : LoginRequest) (outcome : LoginOutcome) : Auth α := do
  recordLoginEvent request.username request.clientIp request.userAgent outcome request.requestId
  throw ⟨.localAdminAuthError, "authentication failed"⟩

/-- `locked_until > now`, of a time that is set. -/
def isLocked (row : LocalAdminRow) (now : Time) : Bool :=
  match row.lockedUntil with
  | some lockedUntil => now < lockedUntil
  | none => false

def login (request : LoginRequest) : Auth LocalAdminLoginResult := do
  let ipAllowed ← hitAndCheck admin.rateLimitPerMinute ("ip:" ++ request.clientIp)
  if ipAllowed = false then refuseLogin request .rateLimited
  else
    let userAllowed ← hitAndCheck admin.rateLimitPerMinute ("user:" ++ request.username)
    if userAllowed = false then refuseLogin request .rateLimited
    else
      let row ← fetchRow request.username
      let now ← clock
      match row with
      | none => refuseLogin request .noSuchUser
      | some row =>
          if row.enabled = false then refuseLogin request .disabled
          else if isLocked row now then refuseLogin request .lockedOut
          else if verifyPassword settings request.password row.passwordHash = false then do
            recordFailedAttempt admin row now
            refuseLogin request .badPassword
          else do
            recordSuccessfulLogin row now
            let token ← issueLocalAdminToken settings request.username admin.signingKey
              admin.tokenTtlSeconds
            recordLoginEvent request.username request.clientIp request.userAgent .success
              request.requestId
            let instant ← clock
            return {
              token, expiresAt := instant + admin.tokenTtlSeconds * 1000000
              username := request.username }

def disableOnSiamAdminLogin (siamUsername : String) : Auth Bool := do
  match ← fetchRow bootstrapUsername with
  | none => return false
  | some row =>
      if row.enabled = false then return false
      else do
        let now ← clock
        command (.disableLocalAdmin bootstrapUsername now siamUsername)
        recordLoginEvent bootstrapUsername "-" "-" .autoDisabledOnSiamLogin none
        return true

/-- The document of a fresh credential. -/
def freshRow (username passwordHash : String) (existing : Option LocalAdminRow) (now : Time) :
    LocalAdminRow :=
  { username, passwordHash, enabled := true, failedAttempts := 0, lockedUntil := none
    lastLoginAt := none, createdAt := (existing.map LocalAdminRow.createdAt).getD now
    passwordRotatedAt := now, disabledAt := none, disabledBySiamUsername := none }

def saveRow (username : String) (existing : Option LocalAdminRow) (doc : LocalAdminRow) : Auth Unit :=
  if existing.isSome then command (.replaceLocalAdmin username doc)
  else command (.insertLocalAdmin doc)

def bootstrapSetPassword (username password : String) : Auth Unit := do
  let passwordHash ← Prog.perform (AuthOp.hashPassword password)
  let now ← clock
  let existing ← fetchRow username
  saveRow username existing (freshRow username passwordHash existing now)
  let id ← uuid4
  command (.insertRotation { id, ts := now, username, previousExisted := existing.isSome })

/-- `cli._create_admin` on a database that has its types: the password it prints. -/
def createAdmin (username : String) : Auth String := do
  Prog.require (settings.localAdmin.isSome = true)
    { kind := .localAdminNotConfiguredError
      text := "local-admin path is not configured. Set " ++
        "LEHEN_LOCAL_ADMIN__ENABLED=true and LEHEN_LOCAL_ADMIN__SIGNING_KEY " ++
        "(32 url-safe-base64 bytes) before running create-admin." }
  let password ← Prog.perform (AuthOp.tokenUrlsafe 32)
  bootstrapSetPassword username password
  return password

end Lehen.LocalAdminService
