import Lehen.OAuth

/-!
The Edge: the shapes of `api/types.ts`, and what its handlers await and share.
A fetch is awaited together with its body. Rejections carry the message that
`err instanceof Error ? err.message : String(err)` makes of them.
-/

namespace Lehen.EdgeState

open Base64 (Bytes)

structure EdgeConfig where
  hubUrl : String
  authCallbackPath : String
  oauthCallbackPath : String
  deriving DecidableEq, Repr

structure AuthPublicConfig where
  provider : String
  issuer : String
  wellKnownUrl : String
  realm : String
  edgeClientId : String
  adminUiClientId : String
  audience : String
  deriving DecidableEq, Repr

structure OidcDiscovery where
  issuer : String
  authorizationEndpoint : String
  tokenEndpoint : String
  jwksUri : String
  endSessionEndpoint : Option String
  deriving DecidableEq, Repr

structure MeIntegration where
  instanceId : String
  type : String
  displayName : String
  status : String
  connectionId : Option String
  deriving DecidableEq, Repr

structure MeResponse where
  sub : String
  username : String
  roles : List String
  integrations : List MeIntegration
  deriving DecidableEq, Repr

structure InitiateGrantResponse where
  authUrl : String
  state : String
  deriving DecidableEq, Repr

structure OidcTokenResponse where
  accessToken : String
  expiresIn : Option Nat
  deriving DecidableEq, Repr

structure AuthorizationContext where
  state : String
  codeVerifier : String
  publicConfig : AuthPublicConfig
  discovery : OidcDiscovery
  redirectUri : String
  deriving DecidableEq, Repr

structure BootState where
  hubUrl : String
  oauthRedirectUri : String
  publicConfig : AuthPublicConfig
  deriving DecidableEq, Repr

/-! The operations. -/

/-- `json` is what `response.json()` yields, `text` what `response.text()` does. -/
structure Response (Body : Type) where
  status : Nat
  statusText : String
  text : Except String String
  json : Except String Body

def Response.ok {Body : Type} (response : Response Body) : Bool :=
  200 ≤ response.status && response.status < 300

inductive EdgeFetch where
  | publicConfig (url : String)
  | discovery (url : String)
  | me (url bearer : String)
  | initiate (url bearer redirectUri : String)
  | complete (url bearer code state : String)
  deriving DecidableEq, Repr

@[reducible] def EdgeFetch.Body : EdgeFetch → Type
  | .publicConfig _ => AuthPublicConfig
  | .discovery _ => OidcDiscovery
  | .me _ _ => MeResponse
  | .initiate _ _ _ => InitiateGrantResponse
  | .complete _ _ _ _ => Json

/-- What `exchange_oidc_code` is invoked with. -/
structure Exchange where
  tokenEndpoint : String
  clientId : String
  redirectUri : String
  code : String
  codeVerifier : String
  deriving DecidableEq, Repr

inductive EdgeOp where
  | fetch (request : EdgeFetch)
  | exchangeOidcCode (exchange : Exchange)
  | storeToken (token : String)
  | getToken
  | deleteToken
  | openExternal (url : String)
  | digest (text : String)
  | randomValues (count : Nat)
  | getItem (key : String)
  | setItem (key : String) (context : AuthorizationContext)
  | removeItem (key : String)
  | readRefs
  | setBoot (boot : BootState)
  | setBearer (bearer : Option String)
  | setMe (me : Option MeResponse)
  | setError (error : Option String)
  | setPendingConnectInstance (instanceId : Option String)
  | setRowPending (instanceId : String) (pending : Bool)
  | setLoginPending (pending : Bool)
  | commit
  deriving DecidableEq, Repr

/-- What the deep-link listener and the handlers of a rendered row see. -/
structure Refs where
  bearer : Option String
  pendingConnect : Option String
  deriving DecidableEq, Repr

@[reducible] def EdgeOp.Res : EdgeOp → Type
  | .fetch request => Response request.Body
  | .exchangeOidcCode _ => OidcTokenResponse
  | .getToken => Option String
  | .digest _ => Bytes
  | .randomValues count => { bytes : Bytes // bytes.length = count }
  | .getItem _ => Option AuthorizationContext
  | .readRefs => Refs
  | .commit => Option String
  | _ => Unit

/-- Requests, invocations and `crypto.subtle` give up the turn. -/
def instant : EdgeOp → Bool
  | .fetch _ | .exchangeOidcCode _ | .storeToken _ | .getToken | .deleteToken | .openExternal _
  | .digest _ => false
  | _ => true

abbrev Edge (α : Type) := Prog EdgeOp EdgeOp.Res String α

/-! The state. -/

/-- `refs` holds the values of the last render, the other fields those of the next. -/
structure AppState where
  boot : Option BootState
  bearer : Option String
  me : Option MeResponse
  error : Option String
  pendingConnectInstance : Option String
  rowPending : Dict Bool
  loginPending : Bool
  refs : Refs

/-- The world around the Edge. -/
structure EdgeOutside (N : Type) where
  fetch : (request : EdgeFetch) → N → Except String (Response request.Body) × N
  exchange : Exchange → N → Except String OidcTokenResponse × N
  keyringFails : N → Option String × N
  openFails : String → N → Option String × N
  sha256 : String → Bytes
  randomValues : (count : Nat) → N → { bytes : Bytes // bytes.length = count } × N

/-- `session` is the session storage, whose items are contexts written as JSON.
`history` is no part of the Edge: it lists the operations performed so far. -/
structure EdgeWorld (N : Type) where
  app : AppState
  session : Dict AuthorizationContext
  keyring : Option String
  outside : N
  history : List EdgeOp

variable {N : Type}

/-- A command of the keyring fails, or it is carried out. -/
def keyringExec {α : Type} (outside : EdgeOutside N) (world : EdgeWorld N) (answer : α)
    (keyring : Option String) : Except String α × EdgeWorld N :=
  match outside.keyringFails world.outside with
  | (some text, next) => (.error text, { world with outside := next })
  | (none, next) => (.ok answer, { world with keyring, outside := next })

/-- The effects of a render: the refs follow the state, and a new bearer is refreshed. -/
def commitRefs (app : AppState) : Option String × AppState :=
  (if app.bearer = app.refs.bearer then none else app.bearer,
    { app with refs := ⟨app.bearer, app.pendingConnectInstance⟩ })

def performExec (outside : EdgeOutside N) :
    (op : EdgeOp) → EdgeWorld N → Except String op.Res × EdgeWorld N
  | .fetch request, world =>
      ((outside.fetch request world.outside).1,
        { world with outside := (outside.fetch request world.outside).2 })
  | .exchangeOidcCode exchange, world =>
      ((outside.exchange exchange world.outside).1,
        { world with outside := (outside.exchange exchange world.outside).2 })
  | .storeToken token, world => keyringExec outside world () (some token)
  | .getToken, world => keyringExec outside world world.keyring world.keyring
  | .deleteToken, world => keyringExec outside world () none
  | .openExternal url, world =>
      match outside.openFails url world.outside with
      | (some text, next) => (.error text, { world with outside := next })
      | (none, next) => (.ok (), { world with outside := next })
  | .digest text, world => (.ok (outside.sha256 text), world)
  | .randomValues count, world =>
      (.ok (outside.randomValues count world.outside).1,
        { world with outside := (outside.randomValues count world.outside).2 })
  | .getItem key, world => (.ok (world.session.lookup key), world)
  | .setItem key context, world => (.ok (), { world with session := world.session.insert key context })
  | .removeItem key, world => (.ok (), { world with session := world.session.erase key })
  | .readRefs, world => (.ok world.app.refs, world)
  | .setBoot boot, world => (.ok (), { world with app := { world.app with boot := some boot } })
  | .setBearer bearer, world => (.ok (), { world with app := { world.app with bearer } })
  | .setMe me, world => (.ok (), { world with app := { world.app with me } })
  | .setError error, world => (.ok (), { world with app := { world.app with error } })
  | .setPendingConnectInstance pendingConnectInstance, world =>
      (.ok (), { world with app := { world.app with pendingConnectInstance } })
  | .setRowPending instanceId pending, world =>
      (.ok (), { world with app := { world.app with
        rowPending := world.app.rowPending.insert instanceId pending } })
  | .setLoginPending loginPending, world =>
      (.ok (), { world with app := { world.app with loginPending } })
  | .commit, world => (.ok (commitRefs world.app).1, { world with app := (commitRefs world.app).2 })

def edgeExec (outside : EdgeOutside N) (op : EdgeOp) (world : EdgeWorld N) :
    Except String op.Res × EdgeWorld N :=
  ((performExec outside op world).1,
    { (performExec outside op world).2 with history := world.history ++ [op] })

def fetch (request : EdgeFetch) : Edge (Response request.Body) := Prog.perform (EdgeOp.fetch request)

@[simp] theorem edge_history (outside : EdgeOutside N) (op : EdgeOp) (world : EdgeWorld N) :
    (edgeExec outside op world).2.history = world.history ++ [op] := rfl

/-- What happens outside and in the keyring leaves the app and its session alone. -/
theorem keyring_exec_same {α : Type} (outside : EdgeOutside N) (world : EdgeWorld N) (answer : α)
    (keyring : Option String) :
    (keyringExec outside world answer keyring).2.app = world.app ∧
      (keyringExec outside world answer keyring).2.session = world.session := by
  unfold keyringExec
  split <;> exact ⟨rfl, rfl⟩

end Lehen.EdgeState
