import Lehen.IdentityProvider
import Lehen.Program

/-!
`ops/keycloak/setup_realm.py`: it provisions the realm, the roles, users and clients
of the Hub, and the scope that puts the Hub into the audience of their tokens. What the
server makes of a request is left open; the lines it logs are left out.
-/

namespace Lehen.SetupRealm

open IdentityProvider (stripSlashes)

/-! Requests, and whatever answers them. -/

inductive Payload where
  | none
  | form (fields : List (String × String))
  | json (value : Json)

/-- `urllib.request.Request`. -/
structure UrlRequest where
  method : String
  url : String
  authorization : Option String
  data : Payload

/-- What is read of an answer, also of one whose status `urlopen` raises: `json` is what
`json.loads` makes of the text, `headers` are as in `dict(resp.headers)`. -/
structure UrlReply where
  status : Nat
  text : String
  json : Except String Json
  headers : Dict String

abbrev Setup (α : Type) := Prog UrlRequest (fun _ => UrlReply) PyError α

/-- Whatever answers the requests, or makes them raise. -/
abbrev Server (N : Type) := UrlRequest → N → Except PyError UrlReply × N

def urlopen (request : UrlRequest) : Setup UrlReply := Prog.perform request

/-- Every other status is raised as an `HTTPError`. -/
def UrlReply.isSuccess (reply : UrlReply) : Bool := 200 ≤ reply.status && reply.status < 300

/-! The specification. -/

def realmRoles : List String := ["lehen-admin", "change-manager", "service-desk"]
def userPassword : String := "test1234"

structure UserSpec where
  username : String
  roles : List String
  deriving DecidableEq

def users : List UserSpec :=
  [⟨"dx-admin", ["lehen-admin"]⟩, ⟨"cm-test", ["change-manager"]⟩, ⟨"sd-test", ["service-desk"]⟩,
    ⟨"multi-test", ["change-manager", "service-desk"]⟩]

def hubAudience : String := "lehen-hub"
def edgeClient : String := "lehen-edge"
def adminUiClient : String := "lehen-admin-ui"
def hubAudienceScope : String := "lehen-hub-audience"

def edgeRedirectUris : List String :=
  ["http://localhost:8000/app/callback.html", "http://localhost:8000/app/",
    "http://127.0.0.1:*/callback"]

def adminUiRedirectUris : List String :=
  ["http://localhost:8000/admin/callback.html", "http://localhost:8000/admin/"]

def webOrigins : List String := ["http://localhost:8000", "+"]

/-! The REST client. -/

structure KC where
  base : String
  token : String

def KC.new (baseUrl token : String) : KC := ⟨stripSlashes baseUrl, token⟩

def KC.request (kc : KC) (method path : String) (body : Payload) : UrlRequest :=
  { method, url := kc.base ++ path, authorization := some s!"Bearer {kc.token}", data := body }

/-- The status, the payload and the headers that `_req` returns. -/
structure Answer where
  status : Nat
  payload : Json
  headers : Dict String

/-- `json.loads(text) if text else None`, or the text itself. -/
def UrlReply.payload (reply : UrlReply) : Json :=
  if reply.text = "" then .null
  else match reply.json with
    | .ok value => value
    | .error _ => .str reply.text

/-- A conflict is no error, and where it is accepted neither is a missing resource. -/
def answered (method path : String) (accept404 : Bool) (reply : UrlReply) : Except PyError Answer :=
  if reply.isSuccess then .ok ⟨reply.status, reply.payload, reply.headers⟩
  else if reply.status = 404 ∧ accept404 = true then .ok ⟨reply.status, .null, reply.headers⟩
  else if reply.status = 409 then .ok ⟨reply.status, .null, reply.headers⟩
  else .error ⟨.kcError, s!"{method} {path} -> {reply.status}: {prefixText reply.text 500}"⟩

def KC.req (kc : KC) (method path : String) (body : Payload) (accept404 : Bool := false) :
    Setup Answer := do
  let reply ← urlopen (kc.request method path body)
  Prog.lift (answered method path accept404 reply)

def KC.get (kc : KC) (path : String) (accept404 : Bool := false) : Setup Json := do
  let answer ← kc.req "GET" path .none accept404
  return answer.payload

def KC.post (kc : KC) (path : String) (body : Json) : Setup Answer := kc.req "POST" path (.json body)

def KC.put (kc : KC) (path : String) (body : Json) : Setup Unit := do
  let _ ← kc.req "PUT" path (.json body)
  return ()

def tokenRequest (baseUrl adminRealm user password : String) : UrlRequest :=
  { method := "POST"
    url := s!"{stripSlashes baseUrl}/realms/{adminRealm}/protocol/openid-connect/token"
    authorization := none
    data := .form [("grant_type", "password"), ("client_id", "admin-cli"), ("username", user),
      ("password", password)] }

/-- `str(payload["access_token"])`. -/
def tokenOf (reply : UrlReply) : Except PyError String :=
  if reply.isSuccess then
    match reply.json with
    | .ok payload => Json.toStr <$> payload.getItem "access_token"
    | .error text => .error ⟨.jsonDecodeError, text⟩
  else .error
    ⟨.kcError, s!"admin token request failed: {reply.status} {prefixText reply.text 200}"⟩

def getAdminToken (baseUrl adminRealm user password : String) : Setup String := do
  let reply ← urlopen (tokenRequest baseUrl adminRealm user password)
  Prog.lift (tokenOf reply)

/-! Loops over what was answered. -/

/-- `for item in value`. -/
def iterate : Json → Except PyError (List Json)
  | .arr items => .ok items
  | .obj fields => .ok (fields.map fun field => .str field.1)
  | .str text => .ok (text.toList.map fun c => .str (String.ofList [c]))
  | other => .error ⟨.typeError, s!"\x27{other.typeName}\x27 object is not iterable"⟩

/-- `value or []`. -/
def rowsOf (payload : Json) : Except PyError (List Json) :=
  if payload.truthy then iterate payload else .ok []

def isText (value : Option Json) (name : String) : Bool :=
  match value with
  | some (.str text) => text = name
  | _ => false

/-- The `id` of the first row whose `key` is the name. -/
def findRow (key name : String) : List Json → Except PyError (Option String)
  | [] => .ok none
  | row :: rest => do
      let value ← row.get key
      if isText value name then
        let id ← row.getItem "id"
        return some id.toStr
      else findRow key name rest

/-- `any(row.get(key) == name for row in rows)`. -/
def anyRow (key name : String) : List Json → Except PyError Bool
  | [] => .ok false
  | row :: rest => do
      let value ← row.get key
      if isText value name then return true else anyRow key name rest

/-- `{row["name"] for row in rows}`. -/
def namesOf : List Json → Except PyError (List Json)
  | [] => .ok []
  | row :: rest => do
      let name ← row.getItem "name"
      match name with
      | .arr _ => throw ⟨.typeError, "unhashable type: \x27list\x27"⟩
      | .obj _ => throw ⟨.typeError, "unhashable type: \x27dict\x27"⟩
      | _ =>
          let names ← namesOf rest
          return name :: names

/-! The steps. -/

def realmPath (realm : String) : String := s!"/admin/realms/{realm}"
def rolesPath (realm : String) : String := s!"/admin/realms/{realm}/roles"
def rolePath (realm role : String) : String := s!"/admin/realms/{realm}/roles/{role}"
def usersPath (realm : String) : String := s!"/admin/realms/{realm}/users"
def userPath (realm userId : String) : String := s!"/admin/realms/{realm}/users/{userId}"
def userSearch (realm username : String) : String :=
  s!"/admin/realms/{realm}/users?username={username}&exact=true"
def passwordPath (realm userId : String) : String :=
  s!"/admin/realms/{realm}/users/{userId}/reset-password"
def roleMappingsPath (realm userId : String) : String :=
  s!"/admin/realms/{realm}/users/{userId}/role-mappings/realm"
def clientsPath (realm : String) : String := s!"/admin/realms/{realm}/clients"
def clientPath (realm internalId : String) : String := s!"/admin/realms/{realm}/clients/{internalId}"
def clientSearch (realm clientId : String) : String :=
  s!"/admin/realms/{realm}/clients?clientId={clientId}"
def scopesPath (realm : String) : String := s!"/admin/realms/{realm}/client-scopes"
def mappersPath (realm scopeId : String) : String :=
  s!"/admin/realms/{realm}/client-scopes/{scopeId}/protocol-mappers/models"
def defaultScopePath (realm internalId scopeId : String) : String :=
  s!"/admin/realms/{realm}/clients/{internalId}/default-client-scopes/{scopeId}"

def realmBody (realm : String) : Json :=
  .obj
    [("realm", .str realm), ("enabled", .bool true), ("displayName", .str "Lehen"),
      ("registrationAllowed", .bool false), ("loginWithEmailAllowed", .bool true),
      ("duplicateEmailsAllowed", .bool false), ("bruteForceProtected", .bool true),
      ("ssoSessionIdleTimeout", .int 1800), ("ssoSessionMaxLifespan", .int 36000)]

def ensureRealm (kc : KC) (realm : String) : Setup Unit := do
  let existing ← kc.get (realmPath realm) true
  Prog.when (existing.truthy = false) (kc.post "/admin/realms" (realmBody realm))

def roleBody (role : String) : Json := .obj [("name", .str role), ("composite", .bool false)]

def ensureRealmRoles (kc : KC) (realm : String) (roles : List String) : Setup Unit := do
  let payload ← kc.get (rolesPath realm)
  let rows ← Prog.lift (rowsOf payload)
  let existing ← Prog.lift (namesOf rows)
  Prog.forEach roles fun role =>
    Prog.when ((existing.any fun name => isText (some name) role) = false)
      (kc.post (rolesPath realm) (roleBody role))

/-- The lookups by name have this in common. -/
def findId (kc : KC) (path key name : String) : Setup (Option String) := do
  let payload ← kc.get path
  let rows ← Prog.lift (rowsOf payload)
  Prog.lift (findRow key name rows)

def findUserId (kc : KC) (realm username : String) : Setup (Option String) :=
  findId kc (userSearch realm username) "username" username

/-- `location.rsplit("/", 1)[-1]`. -/
def lastSegment (text : String) : String :=
  String.ofList (text.toList.reverse.takeWhile (· ≠ '/')).reverse

/-- `headers.get("Location") or headers.get("location") or ""`. -/
def location (headers : Dict String) : String :=
  match headers.lookup "Location" with
  | some text => if text = "" then (headers.lookup "location").getD "" else text
  | none => (headers.lookup "location").getD ""

def userBodyBase (username : String) : List (String × Json) :=
  [("username", .str username), ("enabled", .bool true), ("emailVerified", .bool true),
    ("email", .str s!"{username}@lehen.local"), ("firstName", .str username),
    ("lastName", .str "Lehen-Test"), ("requiredActions", .arr [])]

def credential (password : String) : Json :=
  .obj [("type", .str "password"), ("value", .str password), ("temporary", .bool false)]

def newUserBody (username password : String) : Json :=
  .obj (userBodyBase username ++ [("credentials", .arr [credential password])])

def userBody (username userId : String) : Json :=
  .obj (userBodyBase username ++ [("id", .str userId)])

/-- `assert found is not None`. -/
def asserted (found : Option String) : Setup String :=
  match found with
  | some id => return id
  | none => throw ⟨.assertionError, ""⟩

def createdUser (kc : KC) (realm username password : String) : Setup String := do
  let answer ← kc.post (usersPath realm) (newUserBody username password)
  if answer.status = 409 then
    asserted (← findUserId kc realm username)
  else return lastSegment (location answer.headers)

def alignedUser (kc : KC) (realm username password userId : String) : Setup String := do
  kc.put (userPath realm userId) (userBody username userId)
  kc.put (passwordPath realm userId) (credential password)
  return userId

/-- The loop that collects the role objects. -/
def roleObjects (kc : KC) (realm : String) : List String → Setup (List Json)
  | [] => return []
  | role :: rest => do
      let object ← kc.get (rolePath realm role)
      let objects ← roleObjects kc realm rest
      return object :: objects

/-- `ensure_user`, up to its roles. -/
def userIdOf (kc : KC) (realm username password : String) : Setup String := do
  let found ← findUserId kc realm username
  match found with
  | none => createdUser kc realm username password
  | some userId => alignedUser kc realm username password userId

def ensureUser (kc : KC) (realm username password : String) (roles : List String) : Setup String := do
  let userId ← userIdOf kc realm username password
  let objects ← roleObjects kc realm roles
  Prog.when (objects.isEmpty = false) (kc.post (roleMappingsPath realm userId) (.arr objects))
  return userId

def findClientInternalId (kc : KC) (realm clientId : String) : Setup (Option String) :=
  findId kc (clientSearch realm clientId) "clientId" clientId

/-- The arguments of one `ensure_client`. -/
structure ClientSpec where
  clientId : String
  isPublic : Bool
  bearerOnly : Bool := false
  redirectUris : List String := []
  webOrigins : List String := []
  directAccess : Bool := false
  deriving DecidableEq

def texts (values : List String) : Json := .arr (values.map Json.str)

def ClientSpec.fields (spec : ClientSpec) : List (String × Json) :=
  [("clientId", .str spec.clientId), ("enabled", .bool true), ("protocol", .str "openid-connect"),
    ("publicClient", .bool spec.isPublic), ("bearerOnly", .bool spec.bearerOnly),
    ("standardFlowEnabled", .bool (!spec.bearerOnly)),
    ("directAccessGrantsEnabled", .bool spec.directAccess), ("serviceAccountsEnabled", .bool false),
    ("implicitFlowEnabled", .bool false), ("redirectUris", texts spec.redirectUris),
    ("webOrigins", texts spec.webOrigins),
    ("attributes", .obj
      [("pkce.code.challenge.method",
          .str (if spec.isPublic && !spec.bearerOnly then "S256" else "")),
        ("post.logout.redirect.uris", .str "+")])]

def ensureClient (kc : KC) (realm : String) (spec : ClientSpec) : Setup String := do
  let found ← findClientInternalId kc realm spec.clientId
  match found with
  | none => do
      let _ ← kc.post (clientsPath realm) (.obj spec.fields)
      asserted (← findClientInternalId kc realm spec.clientId)
  | some internalId => do
      kc.put (clientPath realm internalId) (.obj (spec.fields ++ [("id", .str internalId)]))
      return internalId

def findClientScopeId (kc : KC) (realm name : String) : Setup (Option String) :=
  findId kc (scopesPath realm) "name" name

def scopeBody (scopeName targetAudience : String) : Json :=
  .obj
    [("name", .str scopeName),
      ("description", .str (s!"Adds {targetAudience} to the access-token aud claim " ++
        "so the Lehen Hub accepts these tokens as a resource-server.")),
      ("protocol", .str "openid-connect"),
      ("attributes", .obj
        [("include.in.token.scope", .str "true"), ("display.on.consent.screen", .str "false")])]

def audienceMapper : String := "oidc-audience-mapper"

def mapperBody (targetAudience : String) : Json :=
  .obj
    [("name", .str s!"audience-{targetAudience}"), ("protocol", .str "openid-connect"),
      ("protocolMapper", .str audienceMapper), ("consentRequired", .bool false),
      ("config", .obj
        [("included.client.audience", .str targetAudience), ("included.custom.audience", .str ""),
          ("id.token.claim", .str "false"), ("access.token.claim", .str "true")])]

/-- The scope under its name, created where it is missing. -/
def ensureScope (kc : KC) (realm scopeName targetAudience : String) : Setup String := do
  let found ← findClientScopeId kc realm scopeName
  match found with
  | none => do
      let _ ← kc.post (scopesPath realm) (scopeBody scopeName targetAudience)
      asserted (← findClientScopeId kc realm scopeName)
  | some scopeId => return scopeId

def ensureAudienceScope (kc : KC) (realm scopeName targetAudience : String) : Setup String := do
  let scopeId ← ensureScope kc realm scopeName targetAudience
  let payload ← kc.get (mappersPath realm scopeId)
  let mappers ← Prog.lift (rowsOf payload)
  let haveAudienceMapper ← Prog.lift (anyRow "protocolMapper" audienceMapper mappers)
  Prog.when (haveAudienceMapper = false)
    (kc.post (mappersPath realm scopeId) (mapperBody targetAudience))
  return scopeId

def attachDefaultClientScope (kc : KC) (realm clientInternalId scopeId : String) : Setup Unit :=
  kc.put (defaultScopePath realm clientInternalId scopeId) (.obj [])

/-! `main`. -/

def hubSpec : ClientSpec := { clientId := hubAudience, isPublic := false, bearerOnly := true }

def edgeSpec : ClientSpec :=
  { clientId := edgeClient, isPublic := true, redirectUris := edgeRedirectUris, webOrigins,
    directAccess := true }

def adminUiSpec : ClientSpec :=
  { clientId := adminUiClient, isPublic := true, redirectUris := adminUiRedirectUris, webOrigins }

/-- What `main` does once it has a token. -/
def provision (kc : KC) (realm : String) : Setup Unit := do
  ensureRealm kc realm
  ensureRealmRoles kc realm realmRoles
  Prog.forEach users fun user => (ensureUser kc realm user.username userPassword user.roles).drop
  let _ ← ensureClient kc realm hubSpec
  let edgeInternal ← ensureClient kc realm edgeSpec
  let adminUiInternal ← ensureClient kc realm adminUiSpec
  let scopeId ← ensureAudienceScope kc realm hubAudienceScope hubAudience
  attachDefaultClientScope kc realm edgeInternal scopeId
  attachDefaultClientScope kc realm adminUiInternal scopeId

/-- The environment variables and the command line, with the defaults filled in. -/
structure Args where
  baseUrl : Option String
  adminUser : String := "admin"
  adminRealm : String := "master"
  realm : String := "lehen"
  adminPassword : Option String

/-- `if not value`, of a text that may be missing. -/
def given (value : Option String) : Option String := value.filter fun text => text ≠ ""

/-- The exit status. -/
def main (args : Args) : Setup Nat :=
  match given args.baseUrl with
  | none => return 2
  | some baseUrl =>
      match given args.adminPassword with
      | none => return 2
      | some adminPassword => do
          let token ← getAdminToken baseUrl args.adminRealm args.adminUser adminPassword
          provision (.new baseUrl token) args.realm
          return 0

end Lehen.SetupRealm
