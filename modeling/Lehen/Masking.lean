import Lehen.AdminCalls
import Lehen.Configuring
import Lehen.Entries

/-!
What an audit event shows of a secret. Snapshots are taken with the plaintext in
them, and masked under the names the service hands to the log.
-/

namespace Lehen.Masking

open Storage Secrets OAuth AuditService Registry Entries
open LlmService (Side llmProviders)

variable (settings : Settings)

/-- The names of the secret fields of the registered types. -/
def secretNames : List String := integrationTypes.flatMap IntegrationType.secretFieldNames

/-- The names of the secret fields of the LLM providers. -/
def llmSecretNames : List String :=
  llmProviders.flatMap fun provider => (provider.fields.filter FieldSpec.secret).map FieldSpec.name

/-- The keys under which a snapshot may hold a secret. -/
def secretKeys : List String :=
  secretNames ++ (llmSecretNames.map Side.inference.key ++ llmSecretNames.map Side.embedding.key)

/-- The keys of a snapshot that are not config fields. -/
def baseKeys : List String :=
  ["id", "type", "display_name", "enabled", "multi_connection_allowed"]

theorem base_open : ∀ key ∈ baseKeys, key ∉ secretKeys := by decide +kernel

theorem secret_known {spec : IntegrationType} (registered : spec ∈ integrationTypes) {name : String}
    (secret : name ∈ spec.secretFieldNames) : name ∈ secretNames :=
  List.mem_flatMap.mpr ⟨spec, registered, secret⟩

theorem key_known {name : String} (known : name ∈ secretNames) : name ∈ secretKeys :=
  List.mem_append_left _ known

/-- No public field has the name of a secret. -/
theorem public_open {spec : IntegrationType} (registered : spec ∈ integrationTypes)
    {field : FieldSpec} (known : field ∈ spec.fields) (open_ : field.secret = false) :
    field.name ∉ secretKeys := by
  have all : ∀ spec ∈ integrationTypes, ∀ field ∈ spec.fields, field.secret = false →
      field.name ∉ secretKeys := by decide +kernel
  exact all spec registered field known open_

/-- Nor that of a key which is no config field. -/
theorem public_not_base {spec : IntegrationType} (registered : spec ∈ integrationTypes)
    {name : String} (known : name ∈ spec.publicFieldNames) : name ∉ baseKeys := by
  have all : ∀ spec ∈ integrationTypes, ∀ name ∈ spec.publicFieldNames, name ∉ baseKeys := by
    decide +kernel
  exact all spec registered name known

/-- The texts that two payloads give for the same secret. -/
def secretPairs (names : List String) (config other : Dict Json) : List (String × String) :=
  names.filterMap fun name =>
    match config.lookup name, other.lookup name with
    | some value, some value' => some (value.toStr, value'.toStr)
    | _, _ => none

/-- What a key of a snapshot may hold in two runs, before it is masked. -/
inductive Drafted (pairs : List (String × String)) (masked : List String) (key : String) :
    Json → Json → Prop
  | plain (value : Json) (open_ : key ∉ secretKeys) : Drafted pairs masked key value value
  | existing (known : key ∈ secretKeys) :
      Drafted pairs masked key (.str "<existing>") (.str "<existing>")
  | given (text other : String) (known : key ∈ secretKeys) (named : key ∈ masked)
      (pair : (text, other) ∈ pairs) (both : text = "" ↔ other = "") :
      Drafted pairs masked key (.str text) (.str other)

/-- What a key of an audit event holds in two runs. Only the fingerprint of a
secret that was given may differ. -/
inductive Shown (pairs : List (String × String)) (key : String) : Json → Json → Prop
  | plain (value : Json) (open_ : key ∉ secretKeys) : Shown pairs key value value
  | existing (known : key ∈ secretKeys) : Shown pairs key (.str "<existing>") (.str "<existing>")
  | cleared (known : key ∈ secretKeys) :
      Shown pairs key (.obj [("is_set", .bool false), ("hmac", .null)])
        (.obj [("is_set", .bool false), ("hmac", .null)])
  | hmac (text other digest digest' : String) (known : key ∈ secretKeys)
      (pair : (text, other) ∈ ("<existing>", "<existing>") :: pairs)
      (first : fingerprint settings.hmacSha256 text settings.auditPepper = .ok digest)
      (second : fingerprint settings.hmacSha256 other settings.auditPepper = .ok digest') :
      Shown pairs key (.obj [("is_set", .bool true), ("hmac", .str digest)])
        (.obj [("is_set", .bool true), ("hmac", .str digest')])

/-- Two audit events that agree, but for the fingerprints of the secrets given. -/
structure SameRecord (pairs : List (String × String)) (event other : AdminAuditEvent) : Prop where
  rest : other = { event with before := other.before, after := other.after }
  before : Option.Rel (Entrywise (Shown settings pairs)) event.before other.before
  after : Option.Rel (Entrywise (Shown settings pairs)) event.after other.after

theorem drafted_mono {pairs more : List (String × String)} {masked wider : List String}
    {key : String} {value other : Json} (drafted : Drafted pairs masked key value other)
    (pairs_ : ∀ pair ∈ pairs, pair ∈ more) (masked_ : ∀ name ∈ masked, name ∈ wider) :
    Drafted more wider key value other := by
  cases drafted with
  | plain value open_ => exact .plain _ open_
  | existing known => exact .existing known
  | given text other known named pair both =>
      exact .given _ _ known (masked_ _ named) (pairs_ _ pair) both

/-! Masking. -/

theorem fingerprint_total (text : String) :
    ∃ digest, fingerprint settings.hmacSha256 text settings.auditPepper = .ok digest :=
  ⟨_, if_pos settings.auditPepperLength⟩

theorem mark_text {text digest : String} (filled : text ≠ "")
    (found : fingerprint settings.hmacSha256 text settings.auditPepper = .ok digest) :
    markSecret settings (.str text) = .ok (.obj [("is_set", .bool true), ("hmac", .str digest)]) := by
  have blank : (Json.str text).isBlank = false := beq_false_of_ne filled
  simp only [markSecret, blank, Bool.false_eq_true, if_false, Json.toStr_str, found]

/-- What masking makes of one entry. -/
def maskValue (masked : List String) (key : String) (value : Json) : Except PyError Json :=
  if key ∈ masked then markSecret settings value else .ok value

theorem mask_shown {pairs : List (String × String)} {masked : List String} {key : String}
    {value other : Json} (drafted : Drafted pairs masked key value other)
    (known : ∀ name ∈ masked, name ∈ secretKeys) :
    ∃ shown shown', maskValue settings masked key value = .ok shown ∧
      maskValue settings masked key other = .ok shown' ∧ Shown settings pairs key shown shown' := by
  -- Two texts that are hashed show as two fingerprints.
  have hashed (text other : String) (secret : key ∈ secretKeys) (filled : text ≠ "")
      (filled' : other ≠ "") (pair : (text, other) ∈ ("<existing>", "<existing>") :: pairs) :
      ∃ shown shown', markSecret settings (.str text) = .ok shown ∧
        markSecret settings (.str other) = .ok shown' ∧ Shown settings pairs key shown shown' := by
    have ⟨digest, first⟩ := fingerprint_total settings text
    have ⟨digest', second⟩ := fingerprint_total settings other
    exact ⟨_, _, mark_text settings filled first, mark_text settings filled' second,
      .hmac text other _ _ secret pair first second⟩
  cases drafted with
  | plain value open_ =>
      have unmasked : key ∉ masked := fun named => open_ (known key named)
      simp only [maskValue, if_neg unmasked]
      exact ⟨value, value, rfl, rfl, .plain value open_⟩
  | existing secret =>
      by_cases named : key ∈ masked
      · simp only [maskValue, if_pos named]
        exact hashed _ _ secret (by decide) (by decide) List.mem_cons_self
      · simp only [maskValue, if_neg named]
        exact ⟨_, _, rfl, rfl, .existing secret⟩
  | given text other secret named pair both =>
      simp only [maskValue, if_pos named]
      by_cases empty : text = ""
      · obtain rfl := both.mp empty
        subst empty
        exact ⟨_, _, rfl, rfl, .cleared secret⟩
      · exact hashed _ _ secret empty (fun empty' => empty (both.mpr empty'))
          (List.mem_cons_of_mem _ pair)

theorem mask_fields_cons (masked : List String) (key : String) (value : Json)
    (rest : List (String × Json)) :
    maskFields settings masked ((key, value) :: rest) = (do
      let value ← maskValue settings masked key value
      let rest ← maskFields settings masked rest
      return (key, value) :: rest) := by
  by_cases named : key ∈ masked
  · simp only [maskFields, maskValue, if_pos named]
  · simp only [maskFields, maskValue, if_neg named]

theorem mask_fields_shown {pairs : List (String × String)} {masked : List String}
    {entries other : List (Sigma fun _ : String => Json)}
    (drafted : List.Forall₂ (Entry (Drafted pairs masked)) entries other)
    (known : ∀ name ∈ masked, name ∈ secretKeys) :
    ∃ shown shown',
      maskFields settings masked (entries.map fun entry => (entry.1, entry.2)) = .ok shown ∧
      maskFields settings masked (other.map fun entry => (entry.1, entry.2)) = .ok shown' ∧
      List.Forall₂ (fun entry entry' => entry.1 = entry'.1 ∧
        Shown settings pairs entry.1 entry.2 entry'.2) shown shown' := by
  induction drafted with
  | nil => exact ⟨[], [], rfl, rfl, .nil⟩
  | cons first _ ih =>
      obtain ⟨values⟩ := first
      have ⟨head, head', same, same', shows⟩ := mask_shown settings values known
      have ⟨tail, tail', rest, rest', all⟩ := ih
      refine ⟨(_, head) :: tail, (_, head') :: tail', ?_, ?_, .cons ⟨rfl, shows⟩ all⟩
      · rw [List.map_cons, mask_fields_cons, same, rest]
        rfl
      · rw [List.map_cons, mask_fields_cons, same', rest']
        rfl

/-- Dictionaries built from lists with related entries. -/
theorem entrywise_of_list {related : String → Json → Json → Prop} {entries other : List (String × Json)}
    (same : List.Forall₂ (fun entry entry' => entry.1 = entry'.1 ∧ related entry.1 entry.2 entry'.2)
      entries other) : Entrywise related (Dict.ofList entries) (Dict.ofList other) := by
  have onto {dict dict' : Dict Json} (start : Entrywise related dict dict') :
      Entrywise related
        (entries.foldl (fun dict entry => AList.insert entry.1 entry.2 dict) dict)
        (other.foldl (fun dict entry => AList.insert entry.1 entry.2 dict) dict') := by
    induction same generalizing dict dict' with
    | nil => exact start
    | @cons entry entry' rest rest' first _ ih =>
        obtain ⟨key, value⟩ := entry
        obtain ⟨key', value'⟩ := entry'
        obtain ⟨rfl, values⟩ := first
        exact ih (entrywise_insert start values)
  exact onto entrywise_empty

theorem mask_secrets_shown {pairs : List (String × String)} {masked : List String}
    {doc other : Option (Dict Json)}
    (drafted : Option.Rel (Entrywise (Drafted pairs masked)) doc other)
    (known : ∀ name ∈ masked, name ∈ secretKeys) :
    ∃ shown shown', maskSecrets settings doc masked = .ok shown ∧
      maskSecrets settings other masked = .ok shown' ∧
      Option.Rel (Entrywise (Shown settings pairs)) shown shown' := by
  cases drafted with
  | none => exact ⟨none, none, rfl, rfl, .none⟩
  | some drafted =>
      have ⟨shown, shown', same, same', all⟩ := mask_fields_shown settings drafted known
      refine ⟨some (Dict.ofList shown), some (Dict.ofList shown'), ?_, ?_,
        .some (entrywise_of_list all)⟩
      · simp only [maskSecrets, same]
        rfl
      · simp only [maskSecrets, same']
        rfl

end Lehen.Masking
