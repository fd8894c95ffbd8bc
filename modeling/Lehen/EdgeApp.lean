import Lehen.Pkce

/-!
`App.tsx`, `Login.tsx`, `Connections.tsx` and `deepLink.ts`: what the Edge does
when it starts, renders, is clicked and is called back.
-/

namespace Lehen.EdgeApp

open EdgeState EdgeHub Pkce

variable (config : EdgeConfig)

/-! The setters of the state. -/

def setBearer (bearer : Option String) : Edge Unit := Prog.perform (EdgeOp.setBearer bearer)
def setMe (me : Option MeResponse) : Edge Unit := Prog.perform (EdgeOp.setMe me)
def setError (error : Option String) : Edge Unit := Prog.perform (EdgeOp.setError error)
def setPendingConnectInstance (instanceId : Option String) : Edge Unit :=
  Prog.perform (EdgeOp.setPendingConnectInstance instanceId)

def deleteToken : Edge Unit := Prog.perform EdgeOp.deleteToken

/-- `lehen:/${oauth_callback_path}`. -/
def oauthRedirectUri : String := s!"lehen:/{config.oauthCallbackPath}"

def boot : Edge Unit :=
  Prog.handle (do
    let publicConfig ← fetchAuthPublicConfig config
    Prog.perform (EdgeOp.setBoot
      { hubUrl := config.hubUrl, oauthRedirectUri := oauthRedirectUri config, publicConfig })
    let stored ← Prog.perform EdgeOp.getToken
    match stored with
    | some token => if token = "" then return () else setBearer (some token)
    | none => return ())
    fun message => setError (some message)

/-- `message.includes("401")`. -/
def includesUnauthorized (message : String) : Bool := Json.isInfix ['4', '0', '1'] message.toList

/-- A rejected token forces a new login. -/
def refreshMe (token : String) : Edge Unit :=
  Prog.handle (do
    let me ← fetchMe config token
    setMe (some me))
    fun message =>
      if includesUnauthorized message then do
        deleteToken
        setBearer none
        setMe none
        setError (some "Session expired — please sign in again.")
      else setError (some message)

/-- A render runs the effects: `/me` is fetched for a new bearer. -/
def render : Edge Unit := do
  let bearer ← Prog.perform EdgeOp.commit
  match bearer with
  | some token => if token = "" then return () else refreshMe config token
  | none => return ()

/-- The parts of a deep link that are read: the surface and two parameters. -/
structure DeepLink where
  surface : String
  code : Option String
  state : Option String
  deriving DecidableEq, Repr

/-- `null` and the empty text are falsy. -/
def given (text : Option String) : Option String := text.filter (· ≠ "")

def flag (present : Bool) : String := if present then "true" else "false"

def onAuth (link : DeepLink) : Edge Unit :=
  match given link.code, given link.state with
  | some code, some state =>
      Prog.handle (do
        let (accessToken, _) ← completeHubLogin state code
        Prog.perform (EdgeOp.storeToken accessToken)
        setBearer (some accessToken)
        setError none)
        fun message => setError (some message)
  | code, state =>
      setError (some s!"auth callback missing fields: code={flag code.isSome} state={flag state.isSome}")

def onOauth (link : DeepLink) : Edge Unit := do
  let refs ← Prog.perform EdgeOp.readRefs
  match given link.code, given link.state, given refs.bearer, given refs.pendingConnect with
  | some code, some state, some bearer, some pending =>
      Prog.handle (do
        let _ ← completeGrant config bearer pending code state
        setPendingConnectInstance none
        refreshMe config bearer)
        fun message => setError (some message)
  | code, state, bearer, _ =>
      setError (some (s!"oauth callback missing context: code={flag code.isSome} " ++
        s!"state={flag state.isSome} bearer={flag bearer.isSome} " ++
        "pending=" ++ refs.pendingConnect.getD "null"))

/-- Other surfaces only get a warning. -/
def deepLink (link : DeepLink) : Edge Unit :=
  if link.surface = "auth" then onAuth link
  else if link.surface = "oauth" then onOauth config link
  else return ()

def handleSignOut : Edge Unit := do
  deleteToken
  setBearer none
  setMe none

/-- The button of a row that was rendered for the bearer. -/
def handleConnect (instanceId : String) : Edge Unit := do
  let refs ← Prog.perform EdgeOp.readRefs
  match given refs.bearer with
  | none => return ()
  | some bearer => do
      Prog.perform (EdgeOp.setRowPending instanceId true)
      Prog.handle (do
        let grant ← initiateGrant config bearer instanceId (oauthRedirectUri config)
        setPendingConnectInstance (some instanceId)
        Prog.perform (EdgeOp.openExternal grant.authUrl))
        fun message => do
          setError (some message)
          Prog.perform (EdgeOp.setRowPending instanceId false)

/-- The button of the login page. -/
def handleLogin : Edge Unit := do
  Prog.perform (EdgeOp.setLoginPending true)
  Prog.handle (do
    let _ ← beginHubLogin config
    return ())
    fun message => setError (some message)
  Prog.perform (EdgeOp.setLoginPending false)

inductive Gesture where
  | boot | render | login | signOut
  | connect (instanceId : String)
  | deepLink (link : DeepLink)
  deriving DecidableEq, Repr

def serve : Gesture → Edge Unit
  | .boot => boot config
  | .render => render config
  | .login => handleLogin config
  | .signOut => handleSignOut
  | .connect instanceId => handleConnect config instanceId
  | .deepLink link => deepLink config link

end Lehen.EdgeApp
