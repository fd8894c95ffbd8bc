import Lehen.EdgeHub
import Lehen.Turns

/-!
`admin_ui/app.js` and `user_ui/app.js`: how the two pages of the Hub sign in. Both run
in the tabs of one origin, and the pages of one tab share its session storage.
-/

namespace Lehen.SignIn

open EdgeState EdgeHub
open Base64 (Bytes encodeChars)

/-- `SPA_ROLE`. -/
inductive SpaRole where
  | admin | edge
  deriving DecidableEq, Repr

structure JsError where
  message : String
  status : Option Nat := none
  deriving DecidableEq, Repr

/-- A response with both ways to read its body. -/
structure Reply where
  status : Nat
  statusText : String
  text : Except String String
  json : Except String Json

def Reply.ok (reply : Reply) : Bool := 200 ≤ reply.status && reply.status < 300

inductive Fetch where
  | get (url : String) (bearer : Option String)
  | exchange (exchange : Exchange)
  | localLogin (username password : String)
  deriving DecidableEq, Repr

/-- What `window.location` is set to. -/
inductive Place where
  | authorize (endpoint : String) (params : List (String × String))
  | page (path : String)
  | reload
  deriving DecidableEq, Repr

inductive TabOp where
  | fetch (request : Fetch)
  | digest (text : String)
  | randomValues (count : Nat)
  | getItem (key : String)
  | setItem (key value : String)
  | removeItem (key : String)
  | getJson (key : String)
  | setJson (key : String) (value : Json)
  | clear
  | navigate (place : Place)
  | showError (text : String)

@[reducible] def TabOp.Res : TabOp → Type
  | .fetch _ => Reply
  | .digest _ => Bytes
  | .randomValues count => { bytes : Bytes // bytes.length = count }
  | .getItem _ => Option String
  | .getJson _ => Option Json
  | _ => Unit

/-- Requests and `crypto.subtle` give up the turn. -/
def instant : TabOp → Bool
  | .fetch _ | .digest _ => false
  | _ => true

abbrev Tab (α : Type) := Prog TabOp TabOp.Res JsError α

/-! The tab. -/

/-- The session storage: texts, and values that were written as JSON. -/
structure Session where
  items : Dict String
  cached : Dict Json

structure Browser (N : Type) where
  fetch : Fetch → N → Except String Reply × N
  sha256 : String → Bytes
  randomValues : (count : Nat) → N → { bytes : Bytes // bytes.length = count } × N

abbrev Entry := (op : TabOp) × Except JsError op.Res

/-- `history` is no part of the tab: it lists the operations performed so far. -/
structure TabWorld (N : Type) where
  session : Session
  outside : N
  history : List Entry

variable {N : Type}

def answerOf (browser : Browser N) : (op : TabOp) → TabWorld N → Except JsError op.Res
  | .fetch request, world => (browser.fetch request world.outside).1.mapError fun text => { message := text }
  | .digest text, _ => .ok (browser.sha256 text)
  | .randomValues count, world => .ok (browser.randomValues count world.outside).1
  | .getItem key, world => .ok (world.session.items.lookup key)
  | .getJson key, world => .ok (world.session.cached.lookup key)
  | .setItem _ _, _ | .removeItem _, _ | .setJson _ _, _ | .clear, _ | .navigate _, _ | .showError _, _ => .ok ()

def sessionAfter : TabOp → Session → Session
  | .setItem key value, session => { session with items := session.items.insert key value }
  | .removeItem key, session => { session with items := session.items.erase key }
  | .setJson key value, session => { session with cached := session.cached.insert key value }
  | .clear, _ => ⟨∅, ∅⟩
  | _, session => session

def outsideAfter (browser : Browser N) : TabOp → N → N
  | .fetch request, state => (browser.fetch request state).2
  | .randomValues count, state => (browser.randomValues count state).2
  | _, state => state

def exec (browser : Browser N) (op : TabOp) (world : TabWorld N) : Except JsError op.Res × TabWorld N :=
  (answerOf browser op world,
    { session := sessionAfter op world.session, outside := outsideAfter browser op world.outside
      history := world.history ++ [⟨op, answerOf browser op world⟩] })

def getItem (key : String) : Tab (Option String) := Prog.perform (TabOp.getItem key)
def setItem (key value : String) : Tab Unit := Prog.perform (TabOp.setItem key value)
def removeItem (key : String) : Tab Unit := Prog.perform (TabOp.removeItem key)
def navigate (place : Place) : Tab Unit := Prog.perform (TabOp.navigate place)
def fetch (request : Fetch) : Tab Reply := Prog.perform (TabOp.fetch request)

def readText (reply : Reply) : Tab String := Prog.lift (reply.text.mapError fun text => { message := text })
def readJson (reply : Reply) : Tab Json := Prog.lift (reply.json.mapError fun text => { message := text })

/-- `value.key`, `none` where it is undefined. -/
def property (value : Json) (key : String) : Except JsError (Option Json) :=
  match value with
  | .null => .error { message := s!"Cannot read properties of null (reading \x27{key}\x27)" }
  | .obj fields => .ok (fields.lookup key)
  | _ => .ok none

/-- What becomes of a value where a text is wanted. -/
def textOf : Option Json → String
  | none => "undefined"
  | some value => templateText value

def jsTruthy : Option Json → Bool
  | none | some .null | some (.bool false) | some (.int 0) => false
  | some (.float value) => !value.isZero && !value.isNan
  | some (.str text) => text ≠ ""
  | _ => true

/-! The requests that bear a token. -/

/-- `null` and the empty text are falsy. -/
def given (text : Option String) : Option String := text.filter fun text => text ≠ ""

/-- `body && body.detail ? body.detail : (typeof body === "string" ? body : r.statusText)`. -/
def detailOf (body : Json) (statusText : String) : String :=
  match body with
  | .obj fields =>
      if jsTruthy (fields.lookup "detail") then textOf (fields.lookup "detail") else statusText
  | .str text => text
  | _ => statusText

/-- A text that is no JSON stands for itself. -/
def parsed (text : String) : Json :=
  if text = "" then .null
  else match JsonText.loads text with
    | .ok value => value
    | .error _ => .str text

def fetchJSON (url : String) : Tab Json := do
  let token ← getItem "lehen_access_token"
  let reply ← fetch (.get url (given token))
  if reply.status = 204 then return .null
  else do
    let text ← readText reply
    Prog.require (reply.ok = true)
      { message := s!"{reply.status} {detailOf (parsed text) reply.statusText}", status := some reply.status }
    return parsed text

/-! PKCE. -/

/-- `btoa`, in the alphabet for URLs and without padding. -/
def b64urlEncode (bytes : Bytes) : String :=
  String.ofList ((encodeChars bytes).reverse.dropWhile (· = '=')).reverse

def randomVerifier : Tab String := do
  let bytes ← Prog.perform (TabOp.randomValues 32)
  return b64urlEncode bytes.val

/-- A value that is kept for the session once it was fetched. -/
def keptFor (key : String) (url : Tab String) : Tab Json := do
  let cached ← Prog.perform (TabOp.getJson key)
  match cached with
  | some value => return value
  | none => do
      let url ← url
      let reply ← fetch (.get url none)
      let value ← readJson reply
      Prog.perform (TabOp.setJson key value)
      return value

def loadAuthConfig : Tab Json := keptFor "lehen_auth_config" (pure "/auth/public-config")

def cacheKey : SpaRole → String
  | .admin => "lehen_idp_oidc"
  | .edge => "lehen_kc_oidc"

/-- `loadIdpWellKnown` of the admin page, `loadKeycloakWellKnown` of the user page. -/
def loadWellKnown (role : SpaRole) (authConfig : Json) : Tab Json :=
  keptFor (cacheKey role) do
    let url ← Prog.lift (property authConfig "well_known_url")
    return textOf url

def clientKey : SpaRole → String
  | .admin => "admin_ui_client_id"
  | .edge => "edge_client_id"

def homePath : SpaRole → String
  | .admin => "/admin/"
  | .edge => "/app/"

variable (origin : String)

/-- `REDIRECT_URI`. -/
def redirectUri (role : SpaRole) : String := origin ++ homePath role ++ "callback.html"

def startLogin (role : SpaRole) : Tab Unit := do
  let cfg ← loadAuthConfig
  let wk ← loadWellKnown role cfg
  let verifier ← randomVerifier
  let challengeBytes ← Prog.perform (TabOp.digest verifier)
  let state ← randomVerifier
  setItem "lehen_pkce_verifier" verifier
  setItem "lehen_pkce_state" state
  let clientId ← Prog.lift (property cfg (clientKey role))
  let endpoint ← Prog.lift (property wk "authorization_endpoint")
  navigate (.authorize (textOf endpoint)
    [("client_id", textOf clientId), ("response_type", "code"), ("scope", "openid profile"),
      ("redirect_uri", redirectUri origin role), ("code_challenge", b64urlEncode challengeBytes),
      ("code_challenge_method", "S256"), ("state", state)])

/-- What `handleCallback` does with the answer of the token endpoint. -/
def keepTokens (role : SpaRole) (reply : Reply) : Tab Bool :=
  if reply.ok = false then do
    let text ← readText reply
    Prog.perform (TabOp.showError ("Token exchange failed: " ++ text))
    return false
  else do
    let tokens ← readJson reply
    let accessToken ← Prog.lift (property tokens "access_token")
    setItem "lehen_access_token" (textOf accessToken)
    let refreshToken ← Prog.lift (property tokens "refresh_token")
    Prog.when (jsTruthy refreshToken = true) (setItem "lehen_refresh_token" (textOf refreshToken))
    removeItem "lehen_pkce_verifier"
    removeItem "lehen_pkce_state"
    navigate (.page (homePath role))
    return true

/-- A verifier that is missing becomes the text `null` of the form. -/
def handleCallback (role : SpaRole) (code state : Option String) : Tab Bool :=
  match given code with
  | none => return false
  | some code => do
      let expectedState ← getItem "lehen_pkce_state"
      if state ≠ expectedState then do
        Prog.perform (TabOp.showError "CSRF state mismatch — refusing to continue.")
        return false
      else do
        let verifier ← getItem "lehen_pkce_verifier"
        let cfg ← loadAuthConfig
        let wk ← loadWellKnown role cfg
        let clientId ← Prog.lift (property cfg (clientKey role))
        let endpoint ← Prog.lift (property wk "token_endpoint")
        let reply ← fetch (.exchange
          { tokenEndpoint := textOf endpoint, clientId := textOf clientId
            redirectUri := redirectUri origin role, code, codeVerifier := verifier.getD "null" })
        keepTokens role reply

def signOut : Tab Unit := do
  Prog.perform TabOp.clear
  navigate .reload

/-- `localAdminLogin`, and what its form does then. -/
def localAdminLogin (username password : String) : Tab Unit := do
  let reply ← fetch (.localLogin username password)
  let text ← readText reply
  Prog.require (reply.ok = true) { message := detailOf (parsed text) reply.statusText, status := some reply.status }
  let accessToken ← Prog.lift (property (parsed text) "access_token")
  setItem "lehen_access_token" (textOf accessToken)
  navigate (.page (homePath .admin))

/-! The pages. -/

/-- `showLoginPane` of the admin page, which asks for the name of the provider. -/
def showLoginPane : Tab Unit :=
  Prog.handle (Prog.drop loadAuthConfig) fun _ => return ()

/-- What a page fetches when it is shown to somebody who has a token. -/
def homeRequests : SpaRole → List String
  | .admin => ["/admin/whoami", "/admin/llm/providers", "/admin/llm"]
  | .edge => ["/me"]

def login (role : SpaRole) : Tab Unit :=
  match role with
  | .admin => showLoginPane
  | .edge => startLogin origin .edge

def initHome (role : SpaRole) : Tab Unit := do
  let token ← getItem "lehen_access_token"
  match given token with
  | none => login origin role
  | some _ =>
      Prog.handle (Prog.forEach (homeRequests role) fun url => Prog.drop (fetchJSON url)) fun error =>
        if error.status = some 401 then do
          removeItem "lehen_access_token"
          login origin role
        else Prog.perform (TabOp.showError error.message)

/-- A page is loaded, or something on it is clicked or submitted. -/
inductive Gesture where
  | home (role : SpaRole)
  | callback (role : SpaRole) (code state : Option String)
  | ssoLogin
  | localLogin (username password : String)
  | signOut
  deriving DecidableEq, Repr

def serve : Gesture → Tab Unit
  | .home role => initHome origin role
  | .callback role code state => Prog.drop (handleCallback origin role code state)
  | .ssoLogin => startLogin origin .admin
  | .localLogin username password => localAdminLogin username password
  | .signOut => signOut

end Lehen.SignIn
