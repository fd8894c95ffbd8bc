import Lehen.Storage
import Lehen.Registry

/-!
`integrations/source_adapter.py`. Only the adapter for `outlook-graph` exists;
every other registered type raises when a flow tries to drive it.
-/

namespace Lehen.SourceAdapter

open Storage Registry

/-- `str(value or "")`. -/
def strOrEmpty (value : Option Json) : String :=
  match value with
  | some value => if value.truthy then value.toStr else ""
  | none => ""

structure OutlookGraphAdapter where
  tenantId : String
  deriving DecidableEq, Repr

namespace OutlookGraphAdapter

variable (adapter : OutlookGraphAdapter)

def extraAuthorizationParams : List (String × String) := [("prompt", "consent")]

def authEndpoint : String :=
  s!"https://login.microsoftonline.com/{adapter.tenantId}/oauth2/v2.0/authorize"

def tokenEndpoint : String :=
  s!"https://login.microsoftonline.com/{adapter.tenantId}/oauth2/v2.0/token"

def scopes : List String :=
  ["openid", "profile", "email", "offline_access", "User.Read", "Mail.Read"]

end OutlookGraphAdapter

def graphMe : String := "https://graph.microsoft.com/v1.0/me"

/-- What `fetch_user_identity` makes of an answer of Graph. -/
def identityOfResponse (response : HttpResponse) : Except PyError (String × String) :=
  if response.status = 200 then
    match response.json with
    | .error text => .error ⟨.jsonDecodeError, text⟩
    | .ok data => do
        let mail ← data.get "mail"
        let principal ← data.get "userPrincipalName"
        let externalSubject := if strOrEmpty mail = "" then strOrEmpty principal else strOrEmpty mail
        if externalSubject = "" then
          .error ⟨.sourceAdapterError, "Graph /me returned no mail or userPrincipalName"⟩
        else
          let displayName ← data.get "displayName"
          let displayLabel :=
            if strOrEmpty displayName = "" then externalSubject else strOrEmpty displayName
          .ok (externalSubject, displayLabel)
  else .error
    { kind := .sourceAdapterError
      text := s!"Graph /me returned {response.status}: {prefixText response.text 200}" }

def fetchUserIdentity (accessToken : String) : Hub (String × String) := do
  let response ← (httpSend (.get graphMe accessToken)).handle fun exc =>
    if exc.kind = .httpError then
      fail .sourceAdapterError s!"Graph /me unreachable: {exc.text}"
    else .raise exc
  Prog.lift (identityOfResponse response)

def health (accessToken : String) : Hub Bool :=
  (do
    let response ← httpSend (.get graphMe accessToken)
    return response.status == 200 : Hub Bool).handle fun exc =>
      if exc.kind = .httpError then return false else .raise exc

def buildAdapterForInstance (row : InstanceRow) : Except PyError OutlookGraphAdapter :=
  match getType row.type with
  | .error _ => .error
      ⟨.sourceAdapterNotImplementedError, s!"unknown integration type: {row.type}"⟩
  | .ok _ =>
      if row.type = "outlook-graph" then
        let tenantId :=
          match row.configPublic.lookup "tenant_id" with
          | some value => value.toStr
          | none => ""
        if tenantId = "" then .error
          { kind := .sourceAdapterError
            text := "outlook-graph instance missing tenant_id in config_public" }
        else .ok ⟨tenantId⟩
      else .error
        { kind := .sourceAdapterNotImplementedError
          text := s!"SourceAdapter for type={Json.reprString row.type} " ++
            "not implemented in this sprint" }

end Lehen.SourceAdapter
