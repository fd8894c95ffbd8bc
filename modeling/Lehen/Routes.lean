import Lehen.AutoDisable
import Lehen.Composing
import Lehen.Dependencies
import Lehen.MeService
import Lehen.Summing

/-!
The endpoints of the Hub, from a request whose path and body FastAPI has read to the
answer: the request id of the middleware, the gate of the surface, the checks of the
payload, the service, and the statuses of its errors.
-/

namespace Lehen.Routes

open Storage OAuth AuditService AuthState Dependencies LocalAdminService Configuring
open AutoDisable (LocalLoginResponse)
open LlmService (LlmView LlmProvider llmProviders)
open IntegrationsService (InstanceView Changes)
open Registry (IntegrationType integrationTypes)

/-! Checks of pydantic, and errors that become answers. -/
section Checks

variable {Await : Type} {Res : Await → Type} {α : Type}

def answerWith (status : Nat) (detail : String) : Prog Await Res PyError α :=
  .raise ⟨.httpException status, detail⟩

/-- `Field(min_length=1, max_length=high)`. -/
def checkLength (high : Nat) (text : String) : Prog Await Res PyError Unit := do
  Prog.require (1 ≤ text.length) ⟨.httpException 422, "String should have at least 1 character"⟩
  Prog.require (text.length ≤ high) ⟨.httpException 422, s!"String should have at most {high} characters"⟩

def checkGiven (high : Nat) : Option String → Prog Await Res PyError Unit
  | none => .ret ()
  | some text => checkLength high text

/-- `try: body except ...`: the errors that become an answer, with its status and what
its detail begins with. -/
def excepting (answers : List (ErrorKind × Nat × String)) (body : Prog Await Res PyError α) :
    Prog Await Res PyError α :=
  body.handle fun exc =>
    match answers.lookup exc.kind with
    | some (status, text) => answerWith status (text ++ exc.text)
    | none => .raise exc

end Checks

/-! `api/admin/llm.py`. -/

/-- `LLMSidePayload`: a provider of at least one character. -/
def validSide (payload : Dict Json) : Bool :=
  match payload.lookup "provider" with
  | some (.str provider) => provider ≠ ""
  | _ => false

def updateLlm (settings : Settings) (actor : CurrentUser) (inference embedding : Option (Dict Json))
    (requestId : Option String) : Hub LlmView := do
  Prog.require (inference.all validSide ∧ embedding.all validSide)
    ⟨.httpException 422, "String should have at least 1 character"⟩
  Prog.require (inference.isSome ∨ embedding.isSome)
    ⟨.httpException 400, "at least one of \x27inference\x27 or \x27embedding\x27 must be provided"⟩
  excepting [(.llmConfigError, 400, ""), (.llmConfigNotFoundError, 400, "")]
    (LlmService.update settings actor inference embedding requestId)

def getLlm : Hub LlmView := excepting [(.llmConfigNotFoundError, 503, "")] LlmService.get

/-! `api/admin/integrations.py`. -/

structure IntegrationInstanceCreate where
  id : String
  type : String
  displayName : String
  config : Dict Json := ∅
  enabled : Bool := true
  multiConnectionAllowed : Bool := false

def createInstance (settings : Settings) (actor : CurrentUser) (payload : IntegrationInstanceCreate)
    (requestId : String) : Hub InstanceView := do
  checkLength 128 payload.id
  checkLength 200 payload.displayName
  excepting [(.integrationInstanceConflictError, 409, ""), (.integrationConfigError, 400, "")]
    (IntegrationsService.create settings actor payload.id payload.type payload.displayName payload.config
      payload.multiConnectionAllowed payload.enabled (some requestId))

def isEmpty (changes : Changes) : Bool :=
  changes.displayName.isNone && changes.config.isNone && changes.enabled.isNone &&
    changes.multiConnectionAllowed.isNone

def notFound : ErrorKind × Nat × String :=
  (.integrationInstanceNotFoundError, 404, "integration instance not found: ")

def updateInstance (settings : Settings) (actor : CurrentUser) (instanceId : String) (payload : Changes)
    (requestId : String) : Hub InstanceView := do
  checkGiven 200 payload.displayName
  Prog.require (isEmpty payload = false) ⟨.httpException 400, "no fields to update"⟩
  excepting [notFound, (.integrationConfigError, 400, "")]
    (IntegrationsService.update settings (ConnectionsService.revokeAllForInstance settings · · ·) actor
      instanceId payload (some requestId))

def deleteInstance (settings : Settings) (actor : CurrentUser) (instanceId requestId : String) : Hub Unit :=
  excepting [notFound]
    (IntegrationsService.delete settings (ConnectionsService.revokeAllForInstance settings · · ·) actor
      instanceId (some requestId))

/-! `api/admin/audit.py`. -/

/-- The query parameters and their bounds. -/
def listAudit (limit offset : Int) : Hub (List AdminAuditEvent) := do
  Prog.require (1 ≤ limit) ⟨.httpException 422, "Input should be greater than or equal to 1"⟩
  Prog.require (limit ≤ 500) ⟨.httpException 422, "Input should be less than or equal to 500"⟩
  Prog.require (0 ≤ offset) ⟨.httpException 422, "Input should be greater than or equal to 0"⟩
  AuditService.listRecent limit.toNat offset.toNat

/-! `api/me_connections.py`. -/

def gateErrors : List (ErrorKind × Nat × String) :=
  [(.connectionNotFoundError, 404, ""), (.integrationNotAuthorizedForRoleError, 403, ""),
    (.integrationDisabledError, 409, "")]

def listMyConnections (user : CurrentUser) : Hub (List ConnectionRow) := do
  let rows ← ConnectionsService.listForUser user.sub
  return rows.insertionSort fun left right => left.integrationInstanceId ≤ right.integrationInstanceId

def grantMyConnection (settings : Settings) (user : CurrentUser) (instanceId privacyClass requestId : String) :
    Hub ConnectionRow := do
  Prog.require (privacyClass ∈ ["company", "excluded"])
    ⟨.httpException 422, "String should match pattern \x27^(company|excluded)$\x27"⟩
  excepting (gateErrors ++ [(.connectionAlreadyExistsError, 409, "")])
    (ConnectionsService.grant settings user instanceId privacyClass "" "" (some requestId))

def revokeMyConnection (settings : Settings) (user : CurrentUser) (instanceId requestId : String) : Hub Unit :=
  excepting [(.connectionNotFoundError, 404, "")]
    (ConnectionsService.revoke settings user instanceId none (some requestId))

def initiateGrantMyConnection (settings : Settings) (user : CurrentUser) (instanceId redirectUri : String) :
    Hub OAuthAuthorizationRequest := do
  checkLength 512 redirectUri
  excepting (gateErrors ++ [(.redirectUriNotAllowedError, 400, ""), (.oauthFlowConfigError, 409, ""),
      (.sourceAdapterNotImplementedError, 501, "")])
    (ConnectionsService.initiateGrant settings user instanceId redirectUri)

def completeGrantMyConnection (settings : Settings) (user : CurrentUser)
    (instanceId code state requestId : String) : Hub ConnectionRow := do
  checkLength 4096 code
  checkLength 8192 state
  excepting ([(.oauthStateError, 400, "")] ++ gateErrors ++
      [(.connectionAlreadyExistsError, 409, ""), (.oauthFlowConfigError, 409, ""),
        (.oauthExchangeError, 502, ""), (.sourceAdapterError, 502, ""),
        (.sourceAdapterNotImplementedError, 501, "")])
    (ConnectionsService.completeGrant settings user instanceId code state (some requestId))

/-! `api/admin/local_login.py`. -/

structure LocalLoginRequest where
  username : String
  password : String

/-- Both fields are checked before the service is looked up. -/
def localLogin (auth : AuthSettings) (body : LocalLoginRequest) (clientIp userAgent requestId : String) :
    Auth LocalLoginResponse := do
  checkLength 128 body.username
  checkLength 512 body.password
  AutoDisable.localLogin auth
    { username := body.username, password := body.password, clientIp, userAgent, requestId := some requestId }

/-! The surfaces. -/

/-- What is behind `require_admin`. -/
inductive AdminRoute where
  | whoami
  | listProviders
  | getLlm
  | updateLlm (inference embedding : Option (Dict Json))
  | listTypes
  | listInstances
  | createInstance (payload : IntegrationInstanceCreate)
  | updateInstance (instanceId : String) (payload : Changes)
  | deleteInstance (instanceId : String)
  | getSiam
  | replaceSiam (mapping : SiamService.Mapping)
  | listAudit (limit : Int := 50) (offset : Int := 0)

/-- What is behind `CurrentUserDep`. -/
inductive UserRoute where
  | me
  | listMyConnections
  | grantMyConnection (instanceId privacyClass : String)
  | revokeMyConnection (instanceId : String)
  | initiateGrantMyConnection (instanceId redirectUri : String)
  | completeGrantMyConnection (instanceId code state : String)

inductive Answer where
  | identity (user : CurrentUser)
  | providers (list : List LlmProvider)
  | types (list : List IntegrationType)
  | llm (view : LlmView)
  | place (view : InstanceView)
  | places (views : List InstanceView)
  | mapping (mapping : SiamService.Mapping)
  | events (items : List AdminAuditEvent) (limit offset : Int)
  | me (payload : MeService.MePayload)
  | connection (row : ConnectionRow)
  | connections (rows : List ConnectionRow)
  | authorization (request : OAuthAuthorizationRequest)
  | token (response : LocalLoginResponse)
  | noContent

/-- The settings the services are wired with. -/
structure AppSettings where
  hub : Settings
  auth : AuthSettings
  loginEventDays : Nat := 90

def AdminRoute.serve (settings : Settings) (user : CurrentUser) (requestId : String) :
    AdminRoute → Hub Answer
  | .whoami => return .identity { user with realmRoles := user.realmRoles.insertionSort (· ≤ ·) }
  | .listProviders => return .providers llmProviders
  | .getLlm => Answer.llm <$> Routes.getLlm
  | .updateLlm inference embedding =>
      Answer.llm <$> Routes.updateLlm settings user inference embedding (some requestId)
  | .listTypes => return .types integrationTypes
  | .listInstances => Answer.places <$> IntegrationsService.list
  | .createInstance payload => Answer.place <$> Routes.createInstance settings user payload requestId
  | .updateInstance instanceId payload =>
      Answer.place <$> Routes.updateInstance settings user instanceId payload requestId
  | .deleteInstance instanceId => do
      Routes.deleteInstance settings user instanceId requestId
      return .noContent
  | .getSiam => Answer.mapping <$> SiamService.get
  | .replaceSiam mapping =>
      Answer.mapping <$> SiamService.replace settings
        (ConnectionsService.revokeForUsersNoLongerAuthorized settings · · ·) user mapping.toJson
        (some requestId)
  | .listAudit limit offset => do
      let rows ← Routes.listAudit limit offset
      return .events rows limit offset

def UserRoute.serve (settings : AppSettings) (user : CurrentUser) (requestId : String) :
    UserRoute → Hub Answer
  | .me => Answer.me <$> MeService.me settings.loginEventDays user (some requestId)
  | .listMyConnections => Answer.connections <$> Routes.listMyConnections user
  | .grantMyConnection instanceId privacyClass =>
      Answer.connection <$>
        Routes.grantMyConnection settings.hub user instanceId privacyClass requestId
  | .revokeMyConnection instanceId => do
      Routes.revokeMyConnection settings.hub user instanceId requestId
      return .noContent
  | .initiateGrantMyConnection instanceId redirectUri =>
      Answer.authorization <$> Routes.initiateGrantMyConnection settings.hub user instanceId redirectUri
  | .completeGrantMyConnection instanceId code state =>
      Answer.connection <$>
        Routes.completeGrantMyConnection settings.hub user instanceId code state requestId

/-- The endpoints that reach a service; health and the auth config do not. -/
inductive Route where
  | localLogin (body : LocalLoginRequest) (clientIp userAgent : String)
  | admin (route : AdminRoute)
  | user (route : UserRoute)

/-- A request with the headers that are read of it. -/
structure HttpCall where
  authorization : Option String
  requestId : Option String
  route : Route

abbrev AppRes := Prog.SumRes AuthOp.Res Op.Res
abbrev App (α : Type) := Prog (AuthOp ⊕ Op) AppRes PyError α

/-- `create_app`, from the middleware on. -/
def serve (settings : AppSettings) (call : HttpCall) : App Answer := do
  let requestId ← Prog.right (AuditService.requestIdOr call.requestId)
  match call.route with
  | .localLogin body clientIp userAgent =>
      Prog.left (Answer.token <$> localLogin settings.auth body clientIp userAgent requestId)
  | .admin route => do
      let user ← Prog.left (requireAdmin settings.auth ⟨call.authorization⟩)
      Prog.right (route.serve settings.hub user.toCurrentUser requestId)
  | .user route => do
      let user ← Prog.left (verifyUserSurfaceToken settings.auth ⟨call.authorization⟩)
      Prog.right (route.serve settings user.toCurrentUser requestId)

/-! The state of the app. -/

/-- The database, what the process keeps in memory, and the world outside. -/
structure AppWorld (N : Type) where
  store : Store
  admins : AuthStore
  process : Process
  outside : N

def authPart (N : Type) : Prog.Part (AppWorld N) (AuthWorld N) where
  get world := ⟨world.admins, world.process, world.outside⟩
  put world part := ⟨world.store, part.store, part.process, part.outside⟩
  get_put _ _ := rfl

def hubPart (N : Type) : Prog.Part (AppWorld N) (World N) where
  get world := ⟨world.store, world.outside⟩
  put world part := ⟨part.store, world.admins, world.process, part.outside⟩
  get_put _ _ := rfl

def appExec {N : Type} (auth : AuthOutside N) (hub : Outside N) :
    (op : AuthOp ⊕ Op) → AppWorld N → Except PyError (AppRes op) × AppWorld N :=
  Prog.sumExec (authPart N) (hubPart N) (authExec auth) (exec hub)

def appInstant : AuthOp ⊕ Op → Bool := Sum.elim AuthState.instant Lehen.instant

abbrev AppPool (N : Type) := Schedule.Pool (AppWorld N) HttpCall (AuthOp ⊕ Op) AppRes PyError Answer

/-- The requests of these events, served at an app that has this world. -/
def served {N : Type} (settings : AppSettings) (auth : AuthOutside N) (hub : Outside N)
    (world : AppWorld N) (events : List (Schedule.Event HttpCall)) : AppPool N :=
  (⟨world, []⟩ : AppPool N).play (appExec auth hub) appInstant (serve settings) events

end Lehen.Routes
