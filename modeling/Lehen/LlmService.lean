import Lehen.AuditService
import Lehen.Registry

/-!
`llm/providers.py` and `admin/llm_service.py`: the one document that configures
the inference and the embedding side. An update reads it, lays the payload of
each given side over it, and writes it back.
-/

namespace Lehen.LlmService

open Secrets Storage OAuth AuditService
open Registry (FieldSpec)

structure LlmProvider where
  id : String
  fields : List FieldSpec
  deriving DecidableEq, Repr

def ollama : LlmProvider :=
  { id := "ollama"
    fields := [{ name := "base_url", required := true }, { name := "model", required := true }] }

def openaiCompatible : LlmProvider :=
  { id := "openai-compatible"
    fields :=
      [{ name := "base_url", required := true }, { name := "model", required := true },
        { name := "api_key", secret := true }] }

def openai : LlmProvider :=
  { id := "openai"
    fields :=
      [{ name := "base_url" }, { name := "model", required := true },
        { name := "api_key", required := true, secret := true }] }

def llmProviders : List LlmProvider := [ollama, openaiCompatible, openai]

def getProvider (providerId : String) : Except PyError LlmProvider :=
  match llmProviders.find? fun spec => spec.id == providerId with
  | some spec => .ok spec
  | none => .error ⟨.unknownLlmProviderError, s!"unknown LLM provider: {providerId}"⟩

def llmConfigId : String := "default"

inductive Side where
  | inference | embedding
  deriving DecidableEq, Repr

def Side.text : Side → String
  | .inference => "inference"
  | .embedding => "embedding"

/-- `f"{side}_{name}"`. -/
def Side.key (side : Side) (name : String) : String := side.text ++ "_" ++ name

/-- `f"{side}_{name}_encrypted"`. -/
def Side.encryptedKey (side : Side) (name : String) : String := side.key (name ++ "_encrypted")

/-! Reading the document. -/

/-- `bool(raw.get(key))`. -/
def holds (raw : Dict Json) (key : String) : Bool := ((raw.lookup key).getD .null).truthy

/-- The provider a document names for a side, if it is a known one. -/
def providerOf (raw : Dict Json) (side : Side) : Option LlmProvider :=
  let providerId := (raw.lookup (side.key "provider")).getD .null
  if providerId.truthy then (getProvider providerId.toStr).toOption else none

/-- A dict by its entries in order. -/
structure SideView where
  entries : List (String × Json)

def renderField (raw : Dict Json) (side : Side) (field : FieldSpec) : String × Json :=
  if field.secret then
    (field.name ++ "_set", .bool (holds raw (side.encryptedKey field.name)))
  else (field.name, (raw.lookup (side.key field.name)).getD (.str ""))

def renderSide (raw : Dict Json) (side : Side) : SideView :=
  let provider := ("provider", (raw.lookup (side.key "provider")).getD .null)
  match providerOf raw side with
  | some spec => ⟨provider :: spec.fields.map (renderField raw side)⟩
  | none =>
      ⟨[provider, ("model", (raw.lookup (side.key "model")).getD (.str "")),
        ("base_url", (raw.lookup (side.key "base_url")).getD (.str ""))]⟩

structure LlmView where
  inference : SideView
  embedding : SideView
  updatedBy : Json
  updatedAt : Json

def renderForRead (raw : Dict Json) : LlmView :=
  { inference := renderSide raw .inference, embedding := renderSide raw .embedding
    updatedBy := (raw.lookup "updated_by").getD .null
    updatedAt := (raw.lookup "updated_at").getD .null }

def auditField (raw : Dict Json) (side : Side) (field : FieldSpec) : Option (String × Json) :=
  if field.secret then
    if holds raw (side.encryptedKey field.name) then
      some (side.key field.name, .str "<existing>")
    else none
  else some (side.key field.name, (raw.lookup (side.key field.name)).getD (.str ""))

def auditSide (raw : Dict Json) (side : Side) : List (String × Json) :=
  match providerOf raw side with
  | some spec => spec.fields.filterMap (auditField raw side)
  | none => []

def auditView (raw : Dict Json) : Dict Json :=
  Dict.ofList
    ([("inference_provider", (raw.lookup "inference_provider").getD .null),
        ("embedding_provider", (raw.lookup "embedding_provider").getD .null)] ++
      auditSide raw .inference ++ auditSide raw .embedding)

def get : Hub LlmView := do
  let rows ← query (.selectLlm llmConfigId)
  let some raw := rows.head?
    | fail .llmConfigNotFoundError "LLMConfig singleton missing — has bootstrap run?"
  return renderForRead raw

def rawGet : Hub (Dict Json) := do
  let rows ← query (.selectLlm llmConfigId)
  let some raw := rows.head?
    | fail .llmConfigNotFoundError "LLMConfig singleton missing"
  return raw

/-! Laying a payload over the document. -/

structure Draft where
  merged : Dict Json
  afterAudit : Dict Json
  secretAuditFields : List String

def resolveProvider (side : Side) (payload : Dict Json) : Except PyError LlmProvider :=
  let providerId := (payload.lookup "provider").getD .null
  if providerId.truthy then
    (getProvider providerId.toStr).mapError fun exc => ⟨.llmConfigError, exc.text⟩
  else .error ⟨.llmConfigError, s!"{side.text}.provider is required"⟩

def validatePayloadKeys (side : Side) (provider : LlmProvider) (payload : Dict Json) :
    Except PyError Unit :=
  let known := "provider" :: provider.fields.map FieldSpec.name
  let unknown := payload.keys.filter fun name => decide (name ∉ known)
  let unknownText := (Json.arr ((unknown.insertionSort (· ≤ ·)).map Json.str)).repr
  if unknown = [] then .ok ()
  else .error
    { kind := .llmConfigError
      text := s!"{side.text}: unknown fields for provider={provider.id}: {unknownText}" }

/-- A secret counts as given when one is stored. -/
def missing (side : Side) (payload merged : Dict Json) (field : FieldSpec) : Bool :=
  field.required && ((payload.lookup field.name).getD .null).isBlank &&
    !(field.secret && holds merged (side.encryptedKey field.name))

def validateRequiredFields (side : Side) (provider : LlmProvider) (payload merged : Dict Json) :
    Except PyError Unit :=
  match provider.fields.find? (missing side payload merged) with
  | none => .ok ()
  | some field => .error
      { kind := .llmConfigError
        text := s!"{side.text}: required field \x27{field.name}\x27 is missing " ++
          s!"for provider={provider.id}" }

variable (settings : Settings)

def applySecretField (side : Side) (fieldName : String) (value : Json) (draft : Draft) :
    Hub Draft :=
  match value with
  | .null => return draft
  | value =>
      if value.isBlank then
        return {
          merged := draft.merged.insert (side.encryptedKey fieldName) .null
          afterAudit := draft.afterAudit.insert (side.key fieldName) (.str "")
          secretAuditFields := draft.secretAuditFields ++ [side.key fieldName] }
      else do
        let envelope ← encryptFresh settings value.toStr settings.masterKey
        return {
          merged := draft.merged.insert (side.encryptedKey fieldName) (.str envelope)
          afterAudit := draft.afterAudit.insert (side.key fieldName) (.str value.toStr)
          secretAuditFields := draft.secretAuditFields ++ [side.key fieldName] }

/-- `"" if value is None or value == "" else value`. -/
def cleaned (value : Json) : Json := if value.isBlank then .str "" else value

def applyField (side : Side) (payload : Dict Json) (field : FieldSpec) (draft : Draft) : Hub Draft :=
  let value := (payload.lookup field.name).getD .null
  if field.secret then applySecretField settings side field.name value draft
  else
    return { draft with
      merged := draft.merged.insert (side.key field.name) (cleaned value)
      afterAudit := draft.afterAudit.insert (side.key field.name) (cleaned value) }

/-- The loop of `_apply_fields`. -/
def applyEach (side : Side) (payload : Dict Json) (draft : Draft) : List FieldSpec → Hub Draft
  | [] => return draft
  | field :: rest => do
      let draft ← applyField settings side payload field draft
      applyEach side payload draft rest

def applyFields (side : Side) (provider : LlmProvider) (payload : Dict Json) (draft : Draft) :
    Hub Draft :=
  applyEach settings side payload
    { draft with
      merged := draft.merged.insert (side.key "provider") (.str provider.id)
      afterAudit := draft.afterAudit.insert (side.key "provider") (.str provider.id) }
    provider.fields

def applySide (side : Side) (payload : Dict Json) (draft : Draft) : Hub Draft := do
  let provider ← Prog.lift (resolveProvider side payload)
  Prog.lift (validatePayloadKeys side provider payload)
  Prog.lift (validateRequiredFields side provider payload draft.merged)
  applyFields settings side provider payload draft

/-- `if payload is not None: self._apply_side(...)`. -/
def applyGiven (side : Side) (payload : Option (Dict Json)) (draft : Draft) : Hub Draft :=
  match payload with
  | none => return draft
  | some payload => applySide settings side payload draft

def stripInternals (raw : Dict Json) : Dict Json :=
  ⟨raw.entries.filter fun entry => !isInternal entry.1,
    raw.nodupKeys.sublist List.filter_sublist⟩

def update (actor : CurrentUser) (inference embedding : Option (Dict Json))
    (requestId : Option String := none) : Hub LlmView := do
  Prog.require (inference.isSome ∨ embedding.isSome) ⟨.llmConfigError, "nothing to update"⟩
  let beforeRaw ← rawGet
  let merged := (stripInternals beforeRaw).insert "id" (.str llmConfigId)
  let beforeAudit := auditView beforeRaw
  let draft ← applyGiven settings .inference inference ⟨merged, beforeAudit, []⟩
  let draft ← applyGiven settings .embedding embedding draft
  let instant ← now
  let merged := (draft.merged.insert "updated_by" (.str actor.username)).insert "updated_at"
    (.str (isoformat instant))
  command (.updateLlm llmConfigId merged)
  record settings
    { actorSub := actor.sub, actorUsername := actor.username, action := "llm.update"
      targetId := some llmConfigId, before := some beforeAudit, after := some draft.afterAudit
      secretFields := draft.secretAuditFields, requestId }
  let raw ← rawGet
  return renderForRead raw

end Lehen.LlmService
