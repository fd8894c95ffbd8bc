import Lehen.IdentityProvider
import Lehen.Jose
import Lehen.Storage

/-!
What the auth dependencies and the local-admin service await and share: the
`LocalAdmin` documents, the JWKS endpoint, and the state the app keeps in
memory. A memory operation never gives up the turn.
-/

namespace Lehen.AuthState

open Base64 (Bytes)
open IdentityProvider (Provider)
open Storage (Time HttpResponse)

/-! The documents. -/

structure LocalAdminRow where
  username : String
  passwordHash : String
  enabled : Bool
  failedAttempts : Nat
  lockedUntil : Option Time
  lastLoginAt : Option Time
  createdAt : Time
  passwordRotatedAt : Time
  disabledAt : Option Time
  disabledBySiamUsername : Option String
  deriving DecidableEq, Repr

inductive LoginOutcome where
  | rateLimited | noSuchUser | disabled | lockedOut | badPassword | success
  | autoDisabledOnSiamLogin
  deriving DecidableEq, Repr

structure LocalAdminLoginEvent where
  id : String
  ts : Time
  username : String
  clientIp : String
  userAgent : String
  outcome : LoginOutcome
  requestId : String
  deriving DecidableEq, Repr

structure LocalAdminCredentialRotated where
  id : String
  ts : Time
  username : String
  previousExisted : Bool
  deriving DecidableEq, Repr

structure AuthStore where
  localAdmins : List LocalAdminRow
  loginEvents : List LocalAdminLoginEvent
  rotations : List LocalAdminCredentialRotated
  deriving DecidableEq, Repr

def AuthStore.empty : AuthStore := ⟨[], [], []⟩

inductive AuthStatement where
  | selectLocalAdmin (username : String)
  | insertLocalAdmin (doc : LocalAdminRow)
  | replaceLocalAdmin (username : String) (doc : LocalAdminRow)
  | disableLocalAdmin (username : String) (ts : Time) (who : String)
  | setFailedAttempts (username : String) (attempts : Nat) (lockedUntil : Option Time)
  | setSuccessfulLogin (username : String) (ts : Time)
  | insertLoginEvent (event : LocalAdminLoginEvent)
  | insertRotation (event : LocalAdminCredentialRotated)
  deriving DecidableEq, Repr

@[reducible] def AuthStatement.Res : AuthStatement → Type
  | .selectLocalAdmin _ => List LocalAdminRow
  | _ => Unit

/-- `UPDATE LocalAdmin ... WHERE username = :u`. -/
def setWhereUsername (username : String) (set : LocalAdminRow → LocalAdminRow)
    (rows : List LocalAdminRow) : List LocalAdminRow :=
  rows.map fun row => if row.username = username then set row else row

def AuthStatement.apply : (statement : AuthStatement) → AuthStore → statement.Res × AuthStore
  | .selectLocalAdmin username, store =>
      (store.localAdmins.filter fun row => row.username = username, store)
  | .insertLocalAdmin doc, store => ((), { store with localAdmins := store.localAdmins ++ [doc] })
  | .replaceLocalAdmin username doc, store =>
      ((), { store with localAdmins := setWhereUsername username (fun _ => doc) store.localAdmins })
  | .disableLocalAdmin username ts who, store =>
      ((), { store with
        localAdmins := setWhereUsername username
          (fun row => { row with
            enabled := false, disabledAt := some ts, disabledBySiamUsername := some who })
          store.localAdmins })
  | .setFailedAttempts username failedAttempts lockedUntil, store =>
      ((), { store with
        localAdmins := setWhereUsername username
          (fun row => { row with failedAttempts, lockedUntil }) store.localAdmins })
  | .setSuccessfulLogin username ts, store =>
      ((), { store with
        localAdmins := setWhereUsername username
          (fun row => { row with failedAttempts := 0, lockedUntil := none, lastLoginAt := some ts })
          store.localAdmins })
  | .insertLoginEvent event, store => ((), { store with loginEvents := store.loginEvents ++ [event] })
  | .insertRotation event, store => ((), { store with rotations := store.rotations ++ [event] })

/-! What a process keeps in memory. Instants of the monotonic clock are in
microseconds. -/

/-- The attributes of `JWKSCache`; `locked` is its `asyncio.Lock`. -/
structure JwksState where
  keys : Option (Dict Json)
  fetchedAt : Int
  negativeUntil : Int
  locked : Bool

/-- `app.state.local_admin_disable_state`. -/
inductive DisableState where
  | pending | noLocalAdmin | disabled | alreadyDisabledOrAbsent
  deriving DecidableEq, Repr

structure Process where
  jwks : JwksState
  disableState : DisableState
  events : Dict (List Int)

/-! The operations. -/

inductive AuthOp where
  | store (statement : AuthStatement)
  | fetch (url : String)
  | acquireLock
  | clock
  | monotonic
  | uuid4
  | tokenUrlsafe (length : Nat)
  | hashPassword (password : String)
  | releaseLock
  | readJwks
  | keepJwks (keys : Dict Json) (fetchedAt : Int)
  | refuseJwks (negativeUntil : Int)
  | invalidateJwks
  | readDisableState
  | setDisableState (state : DisableState)
  | readEvents (key : String)
  | setEvents (key : String) (bucket : List Int)

@[reducible] def AuthOp.Res : AuthOp → Type
  | .store statement => statement.Res
  | .fetch _ => HttpResponse
  | .clock => Time
  | .monotonic => Int
  | .uuid4 | .tokenUrlsafe _ | .hashPassword _ => String
  | .readJwks => JwksState
  | .readDisableState => DisableState
  | .readEvents _ => List Int
  | _ => Unit

/-- Only statements, requests and the lock give up the turn. -/
def instant : AuthOp → Bool
  | .store _ | .fetch _ | .acquireLock => false
  | _ => true

abbrev Auth (α : Type) := Prog AuthOp AuthOp.Res PyError α

structure AuthOutside (N : Type) where
  storeFails : AuthStatement → N → Option String × N
  fetch : String → N → Except String HttpResponse × N
  clock : N → Time × N
  monotonic : N → Int × N
  uuid4 : N → String × N
  tokenUrlsafe : Nat → N → String × N
  hashPassword : String → N → String × N

/-- A store that executes every statement as written. -/
def AuthOutside.Reliable {N : Type} (outside : AuthOutside N) : Prop :=
  ∀ statement state, (outside.storeFails statement state).1 = none

structure AuthWorld (N : Type) where
  store : AuthStore
  process : Process
  outside : N

variable {N : Type}

def AuthWorld.withJwks (world : AuthWorld N) (set : JwksState → JwksState) : AuthWorld N :=
  { world with process := { world.process with jwks := set world.process.jwks } }

/-- `acquireLock` takes a lock that is free; who waits for it does not run. -/
def authExec (outside : AuthOutside N) :
    (op : AuthOp) → AuthWorld N → Except PyError op.Res × AuthWorld N
  | .store statement, world =>
      match outside.storeFails statement world.outside with
      | (some text, next) => (.error ⟨.arcadeError, text⟩, { world with outside := next })
      | (none, next) =>
          (.ok (statement.apply world.store).1,
            { world with store := (statement.apply world.store).2, outside := next })
  | .fetch url, world =>
      match outside.fetch url world.outside with
      | (.ok response, next) => (.ok response, { world with outside := next })
      | (.error text, next) => (.error ⟨.httpError, text⟩, { world with outside := next })
  | .clock, world =>
      (.ok (outside.clock world.outside).1, { world with outside := (outside.clock world.outside).2 })
  | .monotonic, world =>
      (.ok (outside.monotonic world.outside).1,
        { world with outside := (outside.monotonic world.outside).2 })
  | .uuid4, world =>
      (.ok (outside.uuid4 world.outside).1, { world with outside := (outside.uuid4 world.outside).2 })
  | .tokenUrlsafe length, world =>
      (.ok (outside.tokenUrlsafe length world.outside).1,
        { world with outside := (outside.tokenUrlsafe length world.outside).2 })
  | .hashPassword password, world =>
      (.ok (outside.hashPassword password world.outside).1,
        { world with outside := (outside.hashPassword password world.outside).2 })
  | .acquireLock, world => (.ok (), world.withJwks fun jwks => { jwks with locked := true })
  | .releaseLock, world => (.ok (), world.withJwks fun jwks => { jwks with locked := false })
  | .readJwks, world => (.ok world.process.jwks, world)
  | .keepJwks keys fetchedAt, world =>
      (.ok (), world.withJwks fun jwks => { jwks with keys := some keys, fetchedAt })
  | .refuseJwks negativeUntil, world => (.ok (), world.withJwks fun jwks => { jwks with negativeUntil })
  | .invalidateJwks, world =>
      (.ok (), world.withJwks fun jwks => { jwks with keys := none, fetchedAt := 0, negativeUntil := 0 })
  | .readDisableState, world => (.ok world.process.disableState, world)
  | .setDisableState disableState, world =>
      (.ok (), { world with process := { world.process with disableState } })
  | .readEvents key, world => (.ok ((world.process.events.lookup key).getD []), world)
  | .setEvents key bucket, world =>
      (.ok (), { world with process := { world.process with
        events := world.process.events.insert key bucket } })

def query (statement : AuthStatement) : Auth statement.Res := Prog.perform (AuthOp.store statement)
def command (statement : AuthStatement) : Auth statement.Res := Prog.perform (AuthOp.store statement)
def fetch (url : String) : Auth HttpResponse := Prog.perform (AuthOp.fetch url)
def clock : Auth Time := Prog.perform AuthOp.clock
def monotonic : Auth Int := Prog.perform AuthOp.monotonic
def uuid4 : Auth String := Prog.perform AuthOp.uuid4

/-! The settings and libraries of a deployment. -/

structure LocalAdminSettings where
  signingKey : Bytes
  tokenTtlSeconds : Nat := 3600
  failedAttemptsThreshold : Nat := 10
  lockoutDurationSeconds : Nat := 900
  rateLimitPerMinute : Nat := 5

/-- `localAdmin` is there when the path is enabled and has a signing key.
`passwordMatches hash password` is argon2's `verify`, `statusError` the text of
an `HTTPStatusError` of httpx. -/
structure AuthSettings where
  jose : Jose
  provider : Provider
  localAdmin : Option LocalAdminSettings
  passwordMatches : String → String → Bool
  statusError : Nat → String → String

/-- A statement either fails and changes nothing, or does what it says. -/
theorem auth_store (outside : AuthOutside N) (statement : AuthStatement) (world : AuthWorld N) :
    (∃ error, (authExec outside (.store statement) world).1 = .error error ∧
        (authExec outside (.store statement) world).2.store = world.store) ∨
      (authExec outside (.store statement) world).1 = .ok (statement.apply world.store).1 ∧
        (authExec outside (.store statement) world).2.store = (statement.apply world.store).2 := by
  rcases answered : outside.storeFails statement world.outside with ⟨_ | text, next⟩
  · right
    simp only [authExec, answered, and_self]
  · left
    exact ⟨⟨.arcadeError, text⟩, by simp only [authExec, answered], by simp only [authExec, answered]⟩

theorem auth_reliable {outside : AuthOutside N} (reliable : outside.Reliable)
    (statement : AuthStatement) (world : AuthWorld N) :
    (authExec outside (.store statement) world).1 = .ok (statement.apply world.store).1 ∧
      (authExec outside (.store statement) world).2.store = (statement.apply world.store).2 := by
  rcases answered : outside.storeFails statement world.outside with ⟨_ | text, next⟩
  · simp only [authExec, answered, and_self]
  · have never := reliable statement world.outside
    rw [answered] at never
    cases never

/-- What is not a statement leaves the documents alone. -/
theorem auth_elsewhere (outside : AuthOutside N) (op : AuthOp) (world : AuthWorld N)
    (elsewhere : ∀ statement, op ≠ .store statement) :
    (authExec outside op world).2.store = world.store := by
  cases op with
  | store statement => exact absurd rfl (elsewhere statement)
  | fetch url =>
      rcases answered : outside.fetch url world.outside with ⟨_ | response, next⟩ <;>
        simp only [authExec, answered]
  | _ => rfl

end Lehen.AuthState
