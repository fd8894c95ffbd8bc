import Lehen.AuditService
import Lehen.Registry

/-!
`admin/integrations_service.py`: integration instances, with their secrets
encrypted on write. Disabling or deleting one runs the cascade the service was
wired with.
-/

namespace Lehen.IntegrationsService

open Secrets Storage OAuth Registry AuditService

/-- What `_render_for_read` answers. -/
structure InstanceView where
  id : String
  type : String
  displayName : String
  configPublic : Dict Json
  enabled : Bool
  multiConnectionAllowed : Bool
  createdBy : String
  createdAt : Time
  updatedBy : String
  updatedAt : Time
  secretFieldsSet : List String

def renderForRead (row : InstanceRow) : InstanceView :=
  { id := row.id, type := row.type, displayName := row.displayName
    configPublic := row.configPublic, enabled := row.enabled
    multiConnectionAllowed := row.multiConnectionAllowed
    createdBy := row.createdBy, createdAt := row.createdAt
    updatedBy := row.updatedBy, updatedAt := row.updatedAt
    secretFieldsSet :=
      ((row.configSecretsEncrypted.entries.filter fun entry => entry.2 ≠ "").map
        fun entry => entry.1).insertionSort (· ≤ ·) }

structure SplitConfig where
  publicFields : Dict Json
  encrypted : Dict String
  plaintext : Dict String

variable (settings : Settings)

/-- The loop of `_split_config` over the fields of a type. -/
def splitFields (config : Dict Json) (split : SplitConfig) : List FieldSpec → Hub SplitConfig
  | [] => return split
  | field :: rest => do
      let value := config.lookup field.name
      Prog.require (¬ (field.required ∧ (value.getD .null).isBlank))
        ⟨.integrationConfigError, s!"required field missing: {field.name}"⟩
      match value with
      | none | some .null => splitFields config split rest
      | some value =>
          if field.secret then do
            let envelope ← encryptFresh settings value.toStr settings.masterKey
            splitFields config
              { split with
                encrypted := split.encrypted.insert field.name envelope
                plaintext := split.plaintext.insert field.name value.toStr } rest
          else
            splitFields config
              { split with publicFields := split.publicFields.insert field.name value } rest

def splitConfig (spec : IntegrationType) (config : Dict Json) : Hub SplitConfig := do
  let known := spec.fields.map FieldSpec.name
  let unknown := config.keys.filter fun name => decide (name ∉ known)
  let unknownText := (Json.arr ((unknown.insertionSort (· ≤ ·)).map Json.str)).repr
  Prog.require (unknown = [])
    ⟨.integrationConfigError, s!"unknown config fields for type={spec.id}: {unknownText}"⟩
  splitFields settings config ⟨∅, ∅, ∅⟩ spec.fields

def refuseMultiOnSingle (spec : IntegrationType) (multiConnectionAllowed : Bool) : Hub Unit :=
  Prog.require (¬ (spec.connectionCardinality = .single ∧ multiConnectionAllowed = true))
    { kind := .integrationConfigError
      text := s!"type {Json.reprString spec.id} declares connection_cardinality=\x27single\x27; " ++
        "multi_connection_allowed must be false" }

def list : Hub (List InstanceView) := do
  let rows ← query .selectInstances
  return rows.map renderForRead

def get (instanceId : String) : Hub InstanceView := do
  let rows ← query (.selectInstance instanceId)
  let some row := rows.head?
    | fail .integrationInstanceNotFoundError instanceId
  return renderForRead row

def rawGet (instanceId : String) : Hub InstanceRow := do
  let rows ← query (.selectInstance instanceId)
  let some row := rows.head?
    | fail .integrationInstanceNotFoundError instanceId
  return row

def create (actor : CurrentUser) (instanceId typeId displayName : String) (config : Dict Json)
    (multiConnectionAllowed : Bool := false) (enabled : Bool := true)
    (requestId : Option String := none) : Hub InstanceView := do
  let spec ← Prog.lift ((getType typeId).mapError fun exc => ⟨.integrationConfigError, exc.text⟩)
  refuseMultiOnSingle spec multiConnectionAllowed
  let existing ← query (.selectInstance instanceId)
  Prog.require (existing.isEmpty = true)
    { kind := .integrationInstanceConflictError
      text := s!"IntegrationInstance with id={instanceId} already exists" }
  let split ← splitConfig settings spec config
  let instant ← now
  let doc : InstanceRow :=
    { id := instanceId, type := typeId, displayName, configPublic := split.publicFields
      configSecretsEncrypted := split.encrypted, enabled, multiConnectionAllowed
      createdBy := actor.username, createdAt := instant
      updatedBy := actor.username, updatedAt := instant }
  command (.insertInstance doc)
  let base := Dict.ofList
    [("id", .str instanceId), ("type", .str typeId), ("display_name", .str displayName),
      ("enabled", .bool enabled), ("multi_connection_allowed", .bool multiConnectionAllowed)]
  record settings
    { actorSub := actor.sub, actorUsername := actor.username, action := "integration.create"
      targetId := some instanceId, before := none
      after := some (Dict.merge (Dict.merge base split.publicFields)
        (Dict.ofList (split.plaintext.entries.map fun entry => (entry.1, .str entry.2))))
      secretFields := spec.secretFieldNames, requestId }
  return renderForRead doc

/-- `{f: "<existing>" ...}` for the secret fields that have a stored value. -/
def existingSecrets (spec : IntegrationType) (row : InstanceRow) : Dict Json :=
  Dict.ofList ((spec.secretFieldNames.filter fun name =>
    decide ((row.configSecretsEncrypted.lookup name).getD "" ≠ "")).map fun name =>
      (name, .str "<existing>"))

/-- The arguments of `update` that are not `None`, laid over a document. -/
structure Changes where
  displayName : Option String := none
  config : Option (Dict Json) := none
  enabled : Option Bool := none
  multiConnectionAllowed : Option Bool := none

def Changes.audit (changes : Changes) : Dict Json :=
  Dict.ofList
    ((changes.displayName.map fun name => ("display_name", Json.str name)).toList ++
      (changes.enabled.map fun flag => ("enabled", Json.bool flag)).toList ++
      (changes.multiConnectionAllowed.map fun flag =>
        ("multi_connection_allowed", Json.bool flag)).toList)

/-- The config part of `update`: nothing is read or encrypted without a config. -/
def splitChanges (spec : IntegrationType) (changes : Changes) : Hub SplitConfig :=
  match changes.config with
  | none => return ⟨∅, ∅, ∅⟩
  | some config => splitConfig settings spec config

def mergedDoc (before : InstanceRow) (changes : Changes) (split : SplitConfig)
    (updatedBy : String) (updatedAt : Time) : InstanceRow :=
  { before with
    displayName := changes.displayName.getD before.displayName
    enabled := changes.enabled.getD before.enabled
    multiConnectionAllowed := changes.multiConnectionAllowed.getD before.multiConnectionAllowed
    configPublic := Dict.merge before.configPublic split.publicFields
    configSecretsEncrypted := Dict.merge before.configSecretsEncrypted split.encrypted
    updatedBy, updatedAt }

def update (revokeCascade : String → String → Option String → Hub Nat) (actor : CurrentUser)
    (instanceId : String) (changes : Changes) (requestId : Option String := none) :
    Hub InstanceView := do
  let before ← rawGet instanceId
  let spec ← Prog.lift (getType before.type)
  refuseMultiOnSingle spec (changes.multiConnectionAllowed.getD false)
  let base := Dict.ofList
    [("id", .str instanceId), ("type", .str before.type), ("display_name", .str before.displayName),
      ("enabled", .bool before.enabled),
      ("multi_connection_allowed", .bool before.multiConnectionAllowed)]
  let beforeAudit := Dict.merge (Dict.merge base before.configPublic) (existingSecrets spec before)
  let split ← splitChanges settings spec changes
  let afterAudit := Dict.merge (Dict.merge (Dict.merge beforeAudit changes.audit) split.publicFields)
    (Dict.ofList (split.plaintext.entries.map fun entry => (entry.1, .str entry.2)))
  let instant ← now
  let merged := mergedDoc before changes split actor.username instant
  command (.updateInstance instanceId merged)
  record settings
    { actorSub := actor.sub, actorUsername := actor.username, action := "integration.update"
      targetId := some instanceId, before := some beforeAudit, after := some afterAudit
      secretFields := spec.secretFieldNames, requestId }
  Prog.when (before.enabled = true ∧ merged.enabled = false)
    (revokeCascade instanceId "revoked-by-admin-disable" requestId)
  return renderForRead merged

def delete (revokeCascade : String → String → Option String → Hub Nat) (actor : CurrentUser)
    (instanceId : String) (requestId : Option String := none) : Hub Unit := do
  let before ← rawGet instanceId
  let _ ← revokeCascade instanceId "revoked-by-admin-delete" requestId
  command (.deleteInstance instanceId)
  let spec ← Prog.lift (getType before.type)
  let base := Dict.ofList
    [("id", .str instanceId), ("type", .str before.type), ("display_name", .str before.displayName)]
  record settings
    { actorSub := actor.sub, actorUsername := actor.username, action := "integration.delete"
      targetId := some instanceId
      before := some (Dict.merge (Dict.merge base before.configPublic) (existingSecrets spec before))
      after := none, secretFields := spec.secretFieldNames, requestId }

end Lehen.IntegrationsService
