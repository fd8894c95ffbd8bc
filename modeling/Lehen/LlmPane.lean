import Lehen.Routes
import Lehen.SignIn
import Mathlib.Data.List.DropRight

/-!
The LLM pane of `admin_ui/app.js`: the form is rendered from what the Hub answers,
edited, and sent back as a whole.
-/

namespace Lehen.LlmPane

open Storage OAuth AuditService LlmService Composing
open EdgeHub (templateText)
open Routes (getLlm updateLlm)
open SignIn (jsTruthy)
open Registry (FieldSpec)

/-! Inputs of the browser. -/

/-- `field_type` of the registry, where every `base_url` is a `url` and the others are a `string`. -/
def fieldType (field : FieldSpec) : String := if field.name = "base_url" then "url" else "string"

def isAsciiSpace (c : Char) : Bool := c = '\t' || c = '\n' || c = '\x0c' || c = '\x0d' || c = ' '

/-- What an `<input>` makes of a value: none of them holds a line break, and one for
URLs has no space around it. -/
def sanitize (field : FieldSpec) (text : String) : String :=
  let line := text.toList.filter fun c => c ≠ '\n' && c ≠ '\x0d'
  if !field.secret && fieldType field = "url" then
    String.ofList ((line.dropWhile isAsciiSpace).rdropWhile isAsciiSpace)
  else String.ofList line

/-- White space and line terminators of JavaScript. -/
def isJsSpace (c : Char) : Bool :=
  c.toNat ∈ [0x09, 0x0A, 0x0B, 0x0C, 0x0D, 0x20, 0xA0, 0x1680, 0x2028, 0x2029, 0x202F, 0x205F, 0x3000, 0xFEFF] ||
    (0x2000 ≤ c.toNat && c.toNat ≤ 0x200A)

def trim (text : String) : String :=
  String.ofList ((text.toList.dropWhile isJsSpace).rdropWhile isJsSpace)

structure Input where
  field : FieldSpec
  value : String
  deriving DecidableEq, Repr

/-- The `<select>` and the inputs of one side. -/
structure FormSide where
  provider : String
  inputs : List Input
  deriving DecidableEq, Repr

/-- `_llmCurrent`, and the form. -/
structure Pane where
  current : LlmView
  form : Side → FormSide

/-! Rendering. -/

/-- `_providerById`, on what GET /admin/llm/providers lists. -/
def providerById (id : String) : Option LlmProvider := llmProviders.find? fun spec => spec.id == id

/-- `_llmCurrent[side]`. -/
def sideState (view : LlmView) (side : Side) : List (String × Json) := (sideOf view side).entries

/-- `input.value = ...` of a property, where it is defined. -/
def assigned : Option Json → String
  | none | some .null => ""
  | some value => templateText value

def renderInput (state : List (String × Json)) (field : FieldSpec) : Input :=
  if field.secret then ⟨field, ""⟩
  else ⟨field, sanitize field (assigned (state.lookup field.name))⟩

/-- The badge says whether a value is stored. -/
def badge (state : List (String × Json)) (field : FieldSpec) : Bool :=
  jsTruthy (state.lookup (field.name ++ "_set"))

def renderProviderFields (state : List (String × Json)) (selected : String) : FormSide :=
  match providerById selected with
  | none => ⟨selected, []⟩
  | some provider => ⟨selected, provider.fields.map (renderInput state)⟩

/-- `select.value = ...`: only an option can be selected. -/
def selectable (wanted : String) : String := if (providerById wanted).isSome then wanted else ""

/-- A side without a provider is shown with the first one. -/
def loadSide (state : List (String × Json)) : FormSide :=
  let provider := state.lookup "provider"
  renderProviderFields state (selectable
    (if jsTruthy provider then (provider.map templateText).getD "" else ollama.id))

def loadLLMPane (view : LlmView) : Pane := ⟨view, fun side => loadSide (sideState view side)⟩

/-! Editing. -/

inductive Edit where
  | choose (side : Side) (provider : String)
  | enter (side : Side) (name text : String)
  deriving DecidableEq, Repr

def FormSide.enter (form : FormSide) (name text : String) : FormSide :=
  { form with inputs := form.inputs.map fun input =>
      if input.field.name = name then { input with value := sanitize input.field text } else input }

def Pane.with (pane : Pane) (side : Side) (form : FormSide) : Pane :=
  { pane with form := fun other => if other = side then form else pane.form other }

/-- Choosing a provider renders its fields anew. -/
def Pane.edit (pane : Pane) : Edit → Pane
  | .choose side provider =>
      if (providerById provider).isSome then
        pane.with side (renderProviderFields (sideState pane.current side) provider)
      else pane
  | .enter side name text => pane.with side ((pane.form side).enter name text)

def Pane.edited (pane : Pane) (edits : List Edit) : Pane := edits.foldl Pane.edit pane

/-! Saving. -/

/-- The body of the loop of `_collectSidePayload`. -/
def collectField (state : List (String × Json)) (inputs : List Input) (payload : Dict Json)
    (field : FieldSpec) : Dict Json :=
  match inputs.find? fun input => input.field.name = field.name with
  | none => payload
  | some input =>
      let raw := input.value
      if field.secret then
        if raw = "" ∧ badge state field then payload
        else if trim raw = "" ∧ raw ≠ "" then payload.insert field.name (.str "")
        else if raw ≠ "" then payload.insert field.name (.str raw)
        else payload
      else if raw ≠ "" ∨ field.required then payload.insert field.name (.str raw)
      else payload

def collectSidePayload (pane : Pane) (side : Side) : Dict Json :=
  let form := pane.form side
  let payload := Dict.ofList [("provider", .str form.provider)]
  match providerById form.provider with
  | none => payload
  | some provider =>
      provider.fields.foldl (collectField (sideState pane.current side) form.inputs) payload

/-- What `saveLLM` comes to when nothing fails; else the pane stays as it is. -/
def saveLLM (settings : Settings) (actor : CurrentUser) (requestId : Option String) (pane : Pane) :
    Hub Pane := do
  let _ ← updateLlm settings actor (some (collectSidePayload pane .inference))
    (some (collectSidePayload pane .embedding)) requestId
  let view ← getLlm
  return loadLLMPane view

/-- `checkValidity()` of an input. `validUrl` says which texts the browser takes for a URL. -/
def Input.checkValidity (validUrl : String → Bool) (input : Input) : Bool :=
  input.field.secret || fieldType input.field ≠ "url" || input.value = "" || validUrl input.value

def Pane.checkValidity (validUrl : String → Bool) (pane : Pane) : Bool :=
  [Side.inference, Side.embedding].all fun side =>
    (pane.form side).inputs.all fun input => input.checkValidity validUrl

/-- A click on the button of `llm-form`, which has no `novalidate`: `saveLLM` is called for a
form that passes the check of the browser only. -/
def submitLlm (validUrl : String → Bool) (settings : Settings) (actor : CurrentUser)
    (requestId : Option String) (pane : Pane) : Option (Hub Pane) :=
  if pane.checkValidity validUrl then some (saveLLM settings actor requestId pane) else none

end Lehen.LlmPane
