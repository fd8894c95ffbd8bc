import Lehen.ConnectionsService
import Lehen.IntegrationsService

/-!
`user/me_service.py`: the payload of GET /me, from the mapping, the instances and
the connections of the user, and the login event it leaves.
-/

namespace Lehen.MeService

open Storage OAuth AuditService SiamService

structure IntegrationEntry where
  instanceId : String
  type : String
  displayName : String
  status : String
  connectionId : Option String

structure MePayload where
  user : CurrentUser
  roles : List String
  integrations : List IntegrationEntry

def statusFor : Option ConnectionRow → String
  | none => "needs_connect"
  | some row =>
      match row.status with
      | .stale => "stale"
      | .stubConnected | .connected => "connected"
      | .disconnected => "needs_connect"

def matchingRoles (mapping : Mapping) (user : CurrentUser) : List String :=
  (user.realmRoles.filter fun role => decide (role ∈ mapping.map Prod.fst)).insertionSort (· ≤ ·)

def allowedInstanceIds (mapping : Mapping) (roles : List String) : List String :=
  (roles.flatMap mapping.allowed).dedup.insertionSort (· ≤ ·)

/-- `{entry[key]: entry for entry in entries}.get(wanted)`: the last one counts. -/
def lastWith {α : Type} (key : α → String) (wanted : String) (entries : List α) : Option α :=
  entries.reverse.find? fun entry => key entry = wanted

def integrationEntry (instances : List IntegrationsService.InstanceView)
    (connections : List ConnectionRow) (instanceId : String) : Option IntegrationEntry :=
  match lastWith IntegrationsService.InstanceView.id instanceId instances with
  | none => none
  | some place =>
      let connection := lastWith ConnectionRow.integrationInstanceId instanceId connections
      if place.enabled then
        some
          { instanceId, type := place.type, displayName := place.displayName
            status := statusFor connection, connectionId := connection.map ConnectionRow.id }
      else none

def integrationsPayload (mapping : Mapping) (roles : List String)
    (instances : List IntegrationsService.InstanceView) (connections : List ConnectionRow) :
    List IntegrationEntry :=
  (allowedInstanceIds mapping roles).filterMap (integrationEntry instances connections)

def recordLoginEvent (loginRetentionDays : Nat) (user : CurrentUser)
    (roles integrationIds : List String) (requestId : Option String) : Hub Unit := do
  let ts ← now
  let id ← uuid4
  let requestId ← requestIdOr requestId
  command (.insertLogin
    { id, ts, userSub := user.sub, username := user.username, roles
      integrationsResolved := integrationIds, requestId
      retainUntil := ts + loginRetentionDays * 86400000000 })

def me (loginRetentionDays : Nat) (user : CurrentUser) (requestId : Option String := none) :
    Hub MePayload := do
  let mapping ← SiamService.get
  let roles := matchingRoles mapping user
  let instances ← IntegrationsService.list
  let connections ← ConnectionsService.listForUser user.sub
  let integrations := integrationsPayload mapping roles instances connections
  recordLoginEvent loginRetentionDays user roles (integrations.map IntegrationEntry.instanceId)
    requestId
  return { user, roles, integrations }

end Lehen.MeService
