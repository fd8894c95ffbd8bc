import Lehen.Python

/-!
`integrations/registry.py`: the integration types of this version, as far as
the services read them. Labels, placeholders and descriptions feed the admin
UI only.
-/

namespace Lehen.Registry

inductive ConnectionCardinality where
  | single | multi
  deriving DecidableEq, Repr

structure FieldSpec where
  name : String
  required : Bool := false
  secret : Bool := false
  deriving DecidableEq, Repr

structure IntegrationType where
  id : String
  fields : List FieldSpec
  connectionCardinality : ConnectionCardinality
  deriving DecidableEq, Repr

def IntegrationType.publicFieldNames (spec : IntegrationType) : List String :=
  (spec.fields.filter fun field => !field.secret).map FieldSpec.name

def IntegrationType.secretFieldNames (spec : IntegrationType) : List String :=
  (spec.fields.filter FieldSpec.secret).map FieldSpec.name

def outlookEdgeCom : IntegrationType :=
  { id := "outlook-edge-com", fields := [], connectionCardinality := .multi }

def outlookGraph : IntegrationType :=
  { id := "outlook-graph"
    fields :=
      [{ name := "tenant_id", required := true },
        { name := "client_id", required := true },
        { name := "client_secret", secret := true }]
    connectionCardinality := .multi }

def teamsGraph : IntegrationType :=
  { id := "teams-graph"
    fields :=
      [{ name := "tenant_id", required := true },
        { name := "client_id", required := true },
        { name := "client_secret", required := true, secret := true }]
    connectionCardinality := .single }

def itsmRestGeneric : IntegrationType :=
  { id := "itsm-rest-generic"
    fields :=
      [{ name := "base_url", required := true },
        { name := "api_key", required := true, secret := true }]
    connectionCardinality := .single }

def integrationTypes : List IntegrationType :=
  [outlookEdgeCom, outlookGraph, teamsGraph, itsmRestGeneric]

def getType (typeId : String) : Except PyError IntegrationType :=
  match integrationTypes.find? fun spec => spec.id == typeId with
  | some spec => .ok spec
  | none => .error ⟨.unknownIntegrationTypeError, s!"unknown integration type: {typeId}"⟩

/-- A registered type is found under its own id. -/
theorem get_type_registered (spec : IntegrationType) (registered : spec ∈ integrationTypes) :
    getType spec.id = .ok spec := by
  simp only [integrationTypes, List.mem_cons, List.not_mem_nil, or_false] at registered
  rcases registered with rfl | rfl | rfl | rfl <;> rfl

theorem registered_of_type {typeId : String} {spec : IntegrationType}
    (found : getType typeId = .ok spec) : spec ∈ integrationTypes := by
  unfold getType at found
  split at found
  · next hit =>
      obtain rfl := Except.ok.inj found
      exact List.mem_of_find?_eq_some hit
  · cases found

/-- A lookup whose error is reworded finds what the lookup finds. -/
theorem type_of_reworded {typeId : String} {reword : PyError → PyError} {spec : IntegrationType}
    (found : (getType typeId).mapError reword = .ok spec) : getType typeId = .ok spec := by
  cases looked : getType typeId with
  | ok other =>
      rw [looked] at found
      exact found
  | error error =>
      rw [looked] at found
      cases found

end Lehen.Registry
