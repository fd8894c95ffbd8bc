import Lehen.Splitting

/-!
The marker of one secret in the event of a create or an update.
-/

namespace Lehen.Markers

open Storage Secrets OAuth AuditService Registry IntegrationsService Splitting Masking
open Trail (lookup_of_mapped mem_of_list lookup_of_member mask_lookup)

variable {settings : Settings}

/-- The marker that one side of an event has for a name. -/
def markerOf (name : String) (shown : Option (Dict Json)) : Option Json :=
  shown.bind fun doc => doc.lookup name

/-- What the log shows of a secret is the mark of what the snapshot has. -/
theorem masked_marker {doc : Dict Json} {masked : List String} {shown : Option (Dict Json)}
    (masks : maskSecrets settings (some doc) masked = .ok shown) {name : String} (named : name ∈ masked) :
    Option.Rel (fun value marked => markSecret settings value = .ok marked) (doc.lookup name)
      (markerOf name shown) := by
  obtain ⟨written, same, all⟩ := mask_lookup settings masked doc
  rw [masks] at same
  obtain rfl := Except.ok.inj same
  have entry := all name
  simp only [maskValue, if_pos named] at entry
  exact entry

theorem given_lookup (split : SplitConfig) (name : String) :
    (givenSecrets split).lookup name = (split.plaintext.lookup name).map Json.str :=
  lookup_of_mapped split.plaintext Json.str name

/-- A secret that is stored enters the snapshot as a sentinel. -/
theorem existing_lookup (spec : IntegrationType) (row : InstanceRow) {name : String}
    (named : name ∈ spec.secretFieldNames) :
    (existingSecrets spec row).lookup name =
      if (row.configSecretsEncrypted.lookup name).getD "" ≠ "" then some (.str "<existing>") else none := by
  by_cases filled : (row.configSecretsEncrypted.lookup name).getD "" ≠ ""
  · rw [if_pos filled, existingSecrets]
    apply lookup_of_member
    · exact List.mem_map_of_mem (List.mem_filter.mpr ⟨named, decide_eq_true filled⟩)
    · intro other member
      obtain ⟨_, _, same⟩ := List.mem_map.mp member
      cases same
      rfl
  · rw [if_neg filled, existingSecrets, AList.lookup_eq_none, mem_of_list, List.map_map]
    intro member
    obtain ⟨other, listed, rfl⟩ := List.mem_map.mp member
    exact filled (of_decide_eq_true (List.mem_filter.mp listed).2)

theorem open_aside_secret {spec : IntegrationType} (registered : spec ∈ integrationTypes)
    {name : String} (named : name ∈ spec.secretFieldNames) (config : Dict Json) :
    opened spec.fields config name = none := by
  apply if_neg
  intro listed
  obtain ⟨field, member, rfl⟩ := List.mem_map.mp listed
  have open_ : field.secret = false := by simpa using (List.mem_filter.mp member).2
  exact public_open registered (List.mem_of_mem_filter member) open_
    (key_known (secret_known registered named))

theorem hidden_secret {spec : IntegrationType} {name : String} (named : name ∈ spec.secretFieldNames)
    (config : Dict Json) : hidden spec.fields config name = (supplied config name).map Json.toStr :=
  if_pos named

/-- A secret that was given is marked as given, whatever lies under it. -/
theorem given_marker {split : SplitConfig} {under : Dict Json} {masked : List String}
    {shown : Option (Dict Json)} {name text : String} (named : name ∈ masked)
    (given : split.plaintext.lookup name = some text)
    (masks : maskSecrets settings (some (Dict.merge under (givenSecrets split))) masked = .ok shown) :
    ∃ marked, markSecret settings (.str text) = .ok marked ∧ markerOf name shown = some marked := by
  have marker := masked_marker masks named
  rw [History.lookup_merge, given_lookup, given, Option.map_some, Option.some_or] at marker
  generalize markerOf name shown = seen at marker ⊢
  cases marker with
  | some marks => exact ⟨_, marks, rfl⟩

end Lehen.Markers
