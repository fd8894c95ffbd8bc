import Lehen.History

/-!
What an LLM update logs beside what it stores: the document and its snapshot are
changed step by step, and stay together on every key that is not secret.
-/

namespace Lehen.Drafting

open Storage OAuth AuditService Masking Trail History LlmService
open Registry (FieldSpec)
open Configuring (registered_of_provider registered_of_resolve key_ne_text key_not_internal lookup_strip)
open Footprint (Quick)
open Prog (yields_bind yields_lift)

variable (settings : Settings)

/-- The parts of a side that a snapshot tells in the open. -/
def slotNames : List String := ["provider", "base_url", "model"]

def sides : List Side := [.inference, .embedding]

theorem mem_sides (side : Side) : side ∈ sides := by cases side <;> decide

theorem slot_open (side : Side) {name : String} (slot : name ∈ slotNames) :
    side.key name ∉ secretKeys := by
  have all : ∀ side ∈ sides, ∀ name ∈ slotNames, side.key name ∉ secretKeys := by decide +kernel
  exact all side (mem_sides side) name slot

theorem provider_alone (side other : Side) {name : String} (field : name ∈ ["base_url", "model"]) :
    side.key "provider" ≠ other.key name := by
  have all : ∀ side ∈ sides, ∀ other ∈ sides, ∀ name ∈ ["base_url", "model"],
      side.key "provider" ≠ other.key name := by decide +kernel
  exact all side (mem_sides side) other (mem_sides other) name field

/-- A public field has a slot of its own; a secret one stays clear of all slots. -/
theorem field_slots (side : Side) {provider : LlmProvider} (registered : provider ∈ llmProviders)
    {field : FieldSpec} (known : field ∈ provider.fields) :
    (field.secret = false → field.name ∈ ["base_url", "model"]) ∧
      (field.secret = true → side.key field.name ∈ secretKeys ∧
        ∀ other : Side, ∀ name ∈ slotNames, other.key name ≠ side.encryptedKey field.name ∧
          other.key name ≠ side.key field.name) := by
  have all : ∀ side ∈ sides, ∀ provider ∈ llmProviders, ∀ field ∈ provider.fields,
      (field.secret = false → field.name ∈ ["base_url", "model"]) ∧
        (field.secret = true → side.key field.name ∈ secretKeys ∧
          ∀ other ∈ sides, ∀ name ∈ slotNames, other.key name ≠ side.encryptedKey field.name ∧
            other.key name ≠ side.key field.name) := by decide +kernel
  have ⟨open_, secret⟩ := all side (mem_sides side) provider registered field known
  exact ⟨open_, fun hidden => ⟨(secret hidden).1, fun other => (secret hidden).2 other (mem_sides other)⟩⟩

/-- Every registered provider has both public fields. -/
theorem provider_fields {provider : LlmProvider} (registered : provider ∈ llmProviders) {name : String}
    (field : name ∈ ["base_url", "model"]) :
    ∃ known ∈ provider.fields, known.secret = false ∧ known.name = name := by
  have all : ∀ provider ∈ llmProviders, ∀ name ∈ ["base_url", "model"],
      ∃ known ∈ provider.fields, known.secret = false ∧ known.name = name := by decide +kernel
  exact all provider registered name field

/-- Both documents have the key, with one value. -/
def Shared (key : String) (first second : Dict Json) : Prop :=
  ∃ value, first.lookup key = some value ∧ second.lookup key = some value

theorem shared_same {key : String} {first second : Dict Json} (name : String) (value : Json)
    (shared : Shared key first second) :
    Shared key (first.insert name value) (second.insert name value) := by
  by_cases same : key = name
  · subst same
    exact ⟨value, AList.lookup_insert _, AList.lookup_insert _⟩
  · obtain ⟨old, left, right⟩ := shared
    refine ⟨old, ?_, ?_⟩
    · rw [AList.lookup_insert_ne same, left]
    · rw [AList.lookup_insert_ne same, right]

theorem shared_apart {key name name' : String} {first second : Dict Json} {value value' : Json}
    (shared : Shared key first second) (left : key ≠ name) (right : key ≠ name') :
    Shared key (first.insert name value) (second.insert name' value') := by
  obtain ⟨old, found, found'⟩ := shared
  exact ⟨old, by rw [AList.lookup_insert_ne left, found], by rw [AList.lookup_insert_ne right, found']⟩

/-- The document and the snapshot of a draft go together. -/
structure Steady (draft : Draft) : Prop where
  provider : ∀ side : Side, ∃ provider ∈ llmProviders,
    draft.merged.lookup (side.key "provider") = some (.str provider.id)
  shared : ∀ side : Side, ∀ name ∈ slotNames, Shared (side.key name) draft.merged draft.afterAudit
  keys : ∀ key ∈ draft.afterAudit, key ∉ secretKeys →
    ∃ side : Side, ∃ name ∈ slotNames, key = side.key name
  masked : ∀ name ∈ draft.secretAuditFields, name ∈ secretKeys
  id : draft.merged.lookup "id" = some (.str llmConfigId)

theorem steady_slot {draft : Draft} (steady : Steady draft) (side : Side) {name : String}
    (slot : name ∈ slotNames) (value : Json)
    (provider : name = "provider" → ∃ provider ∈ llmProviders, value = .str provider.id) :
    Steady { draft with
      merged := draft.merged.insert (side.key name) value
      afterAudit := draft.afterAudit.insert (side.key name) value } where
  provider := by
    intro other
    by_cases same : other.key "provider" = side.key name
    · -- The key of a provider is that of no other slot.
      have named : name = "provider" := by
        simp only [slotNames, List.mem_cons, List.not_mem_nil, or_false] at slot
        rcases slot with rfl | rfl | rfl
        · rfl
        · exact absurd same (provider_alone other side (by decide))
        · exact absurd same (provider_alone other side (by decide))
      obtain ⟨known, registered, rfl⟩ := provider named
      refine ⟨known, registered, ?_⟩
      rw [same]
      exact AList.lookup_insert _
    · obtain ⟨known, registered, found⟩ := steady.provider other
      exact ⟨known, registered, by rw [← found]; exact AList.lookup_insert_ne same⟩
  shared := fun other name' slot' => shared_same _ value (steady.shared other name' slot')
  keys := by
    intro key member open_
    rcases (AList.mem_insert _).mp member with rfl | earlier
    · exact ⟨side, name, slot, rfl⟩
    · exact steady.keys key earlier open_
  masked := steady.masked
  id := by
    rw [← steady.id]
    exact AList.lookup_insert_ne fun same => (key_ne_text side name).1 same.symm

theorem steady_secret {draft : Draft} (steady : Steady draft) (side : Side) {fieldName : String}
    (known : side.key fieldName ∈ secretKeys)
    (apart : ∀ other : Side, ∀ name ∈ slotNames, other.key name ≠ side.encryptedKey fieldName ∧
      other.key name ≠ side.key fieldName) (stored shown : Json) :
    Steady {
      merged := draft.merged.insert (side.encryptedKey fieldName) stored
      afterAudit := draft.afterAudit.insert (side.key fieldName) shown
      secretAuditFields := draft.secretAuditFields ++ [side.key fieldName] } where
  provider := by
    intro other
    obtain ⟨provider, registered, found⟩ := steady.provider other
    refine ⟨provider, registered, ?_⟩
    rw [← found]
    exact AList.lookup_insert_ne (apart other "provider" (by decide)).1
  shared := fun other name slot =>
    shared_apart (steady.shared other name slot) (apart other name slot).1 (apart other name slot).2
  keys := by
    intro key member open_
    rcases (AList.mem_insert _).mp member with rfl | earlier
    · exact absurd known open_
    · exact steady.keys key earlier open_
  masked := by
    intro name member
    rcases List.mem_append.mp member with earlier | last
    · exact steady.masked name earlier
    · rw [List.mem_singleton.mp last]
      exact known
  id := by
    rw [← steady.id]
    exact AList.lookup_insert_ne fun same => (key_ne_text side _).1 same.symm

/-! The loop over the fields keeps them together. -/

theorem yields_steady_field (side : Side) {provider : LlmProvider} (registered : provider ∈ llmProviders)
    (payload : Dict Json) {field : FieldSpec} (known : field ∈ provider.fields) {draft : Draft}
    (steady : Steady draft) :
    (applyField settings side payload field draft).Yields Quick Steady := by
  have ⟨open_, hidden⟩ := field_slots side registered known
  unfold applyField
  by_cases secret : field.secret = true
  · have ⟨named, apart⟩ := hidden secret
    simp only [if_pos secret]
    unfold applySecretField
    split
    · exact steady
    · split
      · exact steady_secret steady side named apart _ _
      · apply yields_bind (Editing.yields_encrypt settings _)
        intro envelope _
        exact steady_secret steady side named apart _ _
  · simp only [if_neg secret]
    have listed := open_ (Bool.eq_false_iff.mpr secret)
    apply steady_slot steady side (List.mem_cons_of_mem _ listed)
    intro same
    rw [same] at listed
    exact absurd listed (by decide)

theorem yields_steady_each (side : Side) {provider : LlmProvider} (registered : provider ∈ llmProviders)
    (payload : Dict Json) (fields : List FieldSpec) (inside : ∀ field ∈ fields, field ∈ provider.fields)
    {draft : Draft} (steady : Steady draft) :
    (applyEach settings side payload draft fields).Yields Quick Steady := by
  induction fields generalizing draft with
  | nil => exact steady
  | cons field rest ih =>
      apply yields_bind (yields_steady_field settings side registered payload
        (inside field List.mem_cons_self) steady)
      intro next later
      exact ih (fun other member => inside other (List.mem_cons_of_mem _ member)) later

theorem yields_steady_side (side : Side) (payload : Dict Json) {draft : Draft}
    (steady : Steady draft) :
    (applySide settings side payload draft).Yields Quick Steady := by
  apply yields_bind (yields_lift fun provider resolved => resolved)
  intro provider resolved
  have registered := registered_of_resolve resolved
  apply yields_bind (yields_lift fun _ _ => trivial)
  intro _ _
  apply yields_bind (yields_lift fun _ _ => trivial)
  intro _ _
  apply yields_steady_each settings side registered payload provider.fields fun _ member => member
  exact steady_slot steady side (by decide) _ fun _ => ⟨provider, registered, rfl⟩

theorem yields_steady (side : Side) (payload : Option (Dict Json)) {draft : Draft}
    (steady : Steady draft) :
    (applyGiven settings side payload draft).Yields Quick Steady := by
  cases payload with
  | none => exact steady
  | some payload => exact yields_steady_side settings side payload steady

/-! The snapshot an update begins with. -/

theorem get_registered {provider : LlmProvider} (registered : provider ∈ llmProviders) :
    getProvider provider.id = .ok provider := by
  simp only [llmProviders, List.mem_cons, List.not_mem_nil, or_false] at registered
  rcases registered with rfl | rfl | rfl <;> rfl

theorem provider_of_complete {doc : Dict Json} (complete : Complete doc) (side : Side) :
    ∃ provider ∈ llmProviders, providerOf doc side = some provider := by
  obtain ⟨provider, registered, found⟩ := complete.provider side
  have named : provider.id ≠ "" := by
    have all : ∀ provider ∈ llmProviders, provider.id ≠ "" := by decide
    exact all provider registered
  refine ⟨provider, registered, ?_⟩
  have truthy : (Json.str provider.id).truthy = true := bne_iff_ne.mpr named
  simp only [providerOf, found, Option.getD_some, truthy, if_true, Json.toStr_str,
    get_registered registered]
  rfl

/-- An entry of the snapshot of one side. -/
theorem side_entry {doc : Dict Json} {side : Side} {key : String} {value : Json}
    (member : (key, value) ∈ auditSide doc side) (open_ : key ∉ secretKeys) :
    ∃ name ∈ ["base_url", "model"], key = side.key name ∧
      value = (doc.lookup key).getD (.str "") := by
  unfold auditSide at member
  cases found : providerOf doc side with
  | none => rw [found] at member; cases member
  | some provider =>
      rw [found] at member
      obtain ⟨field, known, same⟩ := List.mem_filterMap.mp member
      have registered := registered_of_provider found
      have ⟨public_, hidden⟩ := field_slots side registered known
      unfold auditField at same
      by_cases secret : field.secret = true
      · rw [if_pos secret] at same
        split at same
        · cases same
          exact absurd (hidden secret).1 open_
        · cases same
      · rw [if_neg secret] at same
        cases same
        exact ⟨field.name, public_ (Bool.eq_false_iff.mpr secret), rfl, rfl⟩

/-- Outside of secrets the snapshot tells slots of the document. -/
theorem view_lookup {doc : Dict Json} {key : String} {value : Json} (open_ : key ∉ secretKeys)
    (found : (auditView doc).lookup key = some value) :
    ∃ side : Side, ∃ name ∈ slotNames, key = side.key name ∧
      ∀ held, doc.lookup key = some held → value = held := by
  have entry := lookup_of_list found
  rcases List.mem_append.mp entry with earlier | embedding
  · rcases List.mem_append.mp earlier with provider | inference
    · simp only [List.mem_cons, Prod.mk.injEq, List.not_mem_nil, or_false] at provider
      rcases provider with ⟨rfl, rfl⟩ | ⟨rfl, rfl⟩
      · exact ⟨.inference, "provider", by decide, rfl, fun held same => by rw [same]; rfl⟩
      · exact ⟨.embedding, "provider", by decide, rfl, fun held same => by rw [same]; rfl⟩
    · obtain ⟨name, field, same, rfl⟩ := side_entry inference open_
      exact ⟨.inference, name, List.mem_cons_of_mem _ field, same, fun held same => by rw [same]; rfl⟩
  · obtain ⟨name, field, same, rfl⟩ := side_entry embedding open_
    exact ⟨.embedding, name, List.mem_cons_of_mem _ field, same, fun held same => by rw [same]; rfl⟩

theorem view_key {doc : Dict Json} (complete : Complete doc) (side : Side) {name : String}
    (slot : name ∈ slotNames) : side.key name ∈ auditView doc := by
  have inSide (field : name ∈ ["base_url", "model"]) :
      side.key name ∈ (auditSide doc side).map Prod.fst := by
    obtain ⟨provider, registered, found⟩ := provider_of_complete complete side
    obtain ⟨known, listed, open_, rfl⟩ := provider_fields registered field
    have entry : (side.key known.name, (doc.lookup (side.key known.name)).getD (.str "")) ∈
        auditSide doc side := by
      rw [auditSide, found]
      apply List.mem_filterMap.mpr
      refine ⟨known, listed, ?_⟩
      rw [auditField, if_neg (by simp [open_])]
    exact List.mem_map_of_mem entry
  rw [auditView, mem_of_list, List.map_append, List.map_append, List.mem_append, List.mem_append]
  simp only [slotNames, List.mem_cons, List.not_mem_nil, or_false] at slot
  rcases slot with rfl | field
  · cases side with
    | inference => exact .inl (.inl List.mem_cons_self)
    | embedding => exact .inl (.inl (List.mem_cons_of_mem _ List.mem_cons_self))
  · have told := inSide (by simpa using field)
    cases side with
    | inference => exact .inl (.inr told)
    | embedding => exact .inr told

theorem complete_slot {doc : Dict Json} (complete : Complete doc) (side : Side) {name : String}
    (slot : name ∈ slotNames) : ∃ value, doc.lookup (side.key name) = some value := by
  simp only [slotNames, List.mem_cons, List.not_mem_nil, or_false] at slot
  rcases slot with rfl | field
  · obtain ⟨provider, _, found⟩ := complete.provider side
    exact ⟨_, found⟩
  · exact complete.fields side name (by simpa using field)

theorem view_shared {doc : Dict Json} (complete : Complete doc) (side : Side) {name : String}
    (slot : name ∈ slotNames) : Shared (side.key name) doc (auditView doc) := by
  obtain ⟨value, held⟩ := complete_slot complete side slot
  obtain ⟨told, found⟩ := Option.isSome_iff_exists.mp
    (AList.lookup_isSome.mpr (view_key complete side slot))
  obtain ⟨_, _, _, _, same⟩ := view_lookup (slot_open side slot) found
  rw [same value held] at found
  exact ⟨value, held, found⟩

theorem steady_start {doc : Dict Json} (complete : Complete doc) :
    Steady ⟨(stripInternals doc).insert "id" (.str llmConfigId), auditView doc, []⟩ := by
  have kept (side : Side) (name : String) :
      ((stripInternals doc).insert "id" (.str llmConfigId)).lookup (side.key name) =
        doc.lookup (side.key name) := by
    rw [AList.lookup_insert_ne (key_ne_text side name).1, lookup_strip doc (key_not_internal side name)]
  constructor
  · intro side
    obtain ⟨provider, registered, found⟩ := complete.provider side
    exact ⟨provider, registered, (kept side _).trans found⟩
  · intro side name slot
    obtain ⟨value, held, told⟩ := view_shared complete side slot
    exact ⟨value, (kept side name).trans held, told⟩
  · intro key member open_
    obtain ⟨value, found⟩ := Option.isSome_iff_exists.mp (AList.lookup_isSome.mpr member)
    obtain ⟨side, name, slot, same, _⟩ := view_lookup open_ found
    exact ⟨side, name, slot, same⟩
  · exact nofun
  · exact AList.lookup_insert _

end Lehen.Drafting
