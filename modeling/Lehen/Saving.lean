import Lehen.LlmPane

/-!
What a save of the LLM pane leaves: the configuration says what the form says,
whatever was loaded into it before, and the pane is shown again as it was sent.
-/

namespace Lehen.LlmPane

open Storage OAuth AuditService LlmService Composing Configuring Laying
open EdgeHub (templateText)
open Editing (Seals)
open Routes (getLlm updateLlm validSide)
open SignIn (jsTruthy)
open Registry (FieldSpec)

variable {N : Type} {settings : Settings} {outside : Outside N}

/-! What an input holds, it would be given again. -/

theorem strip_stripped (space : Char → Bool) (text : List Char) :
    (((text.dropWhile space).rdropWhile space).dropWhile space).rdropWhile space =
      (text.dropWhile space).rdropWhile space := by
  have front : ((text.dropWhile space).rdropWhile space).dropWhile space =
      (text.dropWhile space).rdropWhile space := by
    cases stripped : (text.dropWhile space).rdropWhile space with
    | nil => rfl
    | cons c rest =>
        obtain ⟨tail, whole⟩ : c :: rest <+: text.dropWhile space := stripped ▸ List.rdropWhile_prefix space _
        have first := List.head?_dropWhile_not space text
        rw [← whole] at first
        exact List.dropWhile_cons_of_neg (by simpa using first)
  rw [front, List.rdropWhile_idempotent]

theorem sanitize_sanitized (field : FieldSpec) (text : String) :
    sanitize field (sanitize field text) = sanitize field text := by
  unfold sanitize
  by_cases stripped : (!field.secret && fieldType field = "url") = true
  · simp only [if_pos stripped, String.toList_ofList]
    congr 1
    have kept : ∀ c ∈ ((text.toList.filter fun c => c ≠ '\n' && c ≠ '\x0d').dropWhile isAsciiSpace).rdropWhile
        isAsciiSpace, (c ≠ '\n' && c ≠ '\x0d') = true := by
      intro c member
      have inside := (List.rdropWhile_prefix isAsciiSpace _).subset member
      exact (List.mem_filter.mp ((List.dropWhile_suffix isAsciiSpace).subset inside)).2
    rw [List.filter_eq_self.mpr kept, strip_stripped]
  · simp only [if_neg stripped, String.toList_ofList, List.filter_filter, Bool.and_self]

/-! The inputs are those of the selected provider, throughout. -/

structure Rendered (provider : LlmProvider) (inputs : List Input) : Prop where
  fields : inputs.map Input.field = provider.fields
  clean : ∀ input ∈ inputs, sanitize input.field input.value = input.value

def Formed (form : FormSide) : Prop :=
  match providerById form.provider with
  | none => form.inputs = []
  | some provider => Rendered provider form.inputs

theorem rendered_clean (state : List (String × Json)) (field : FieldSpec) :
    sanitize field (renderInput state field).value = (renderInput state field).value := by
  unfold renderInput
  split
  · unfold sanitize
    split <;> rfl
  · exact sanitize_sanitized field _

theorem render_field (state : List (String × Json)) (field : FieldSpec) :
    (renderInput state field).field = field := by
  unfold renderInput
  split <;> rfl

theorem formed_rendered (state : List (String × Json)) (selected : String) :
    Formed (renderProviderFields state selected) := by
  unfold renderProviderFields
  cases known : providerById selected with
  | none =>
      unfold Formed
      rw [known]
  | some provider =>
      unfold Formed
      rw [known]
      refine ⟨?_, ?_⟩
      · rw [List.map_map]
        exact (List.map_congr_left fun field _ => render_field state field).trans (List.map_id _)
      · intro input member
        obtain ⟨field, _, rfl⟩ := List.mem_map.mp member
        rw [render_field]
        exact rendered_clean state field

theorem formed_enter {form : FormSide} (formed : Formed form) (name text : String) :
    Formed (form.enter name text) := by
  unfold Formed at formed ⊢
  unfold FormSide.enter
  dsimp only
  cases known : providerById form.provider with
  | none =>
      rw [known] at formed
      rw [formed]
      rfl
  | some provider =>
      rw [known] at formed
      constructor
      · rw [List.map_map, ← formed.fields]
        apply List.map_congr_left
        intro input _
        simp only [Function.comp_apply]
        split <;> rfl
      · intro input member
        obtain ⟨before, known, rfl⟩ := List.mem_map.mp member
        split
        · exact sanitize_sanitized before.field text
        · exact formed.clean before known

theorem formed_edit {pane : Pane} (formed : ∀ side, Formed (pane.form side)) (edit : Edit) (side : Side) :
    Formed ((pane.edit edit).form side) := by
  cases edit with
  | choose chosen provider =>
      unfold Pane.edit
      dsimp only
      split
      · unfold Pane.with
        dsimp only
        split
        · exact formed_rendered _ provider
        · exact formed side
      · exact formed side
  | enter entered name text =>
      unfold Pane.edit Pane.with
      dsimp only
      split
      · exact formed_enter (formed entered) name text
      · exact formed side

/-- However a pane was edited since it was loaded. -/
theorem formed_edited (view : LlmView) (edits : List Edit) (side : Side) :
    Formed (((loadLLMPane view).edited edits).form side) := by
  have kept (pane : Pane) (formed : ∀ side, Formed (pane.form side)) :
      ∀ side, Formed ((pane.edited edits).form side) := by
    unfold Pane.edited
    induction edits generalizing pane with
    | nil => exact formed
    | cons edit rest ih => exact ih (pane.edit edit) fun side => formed_edit formed edit side
  exact kept _ (fun side => formed_rendered _ _) side

/-! The payload of a side. -/

/-- What is sent of a field, by what its input holds. -/
def sent (field : FieldSpec) (raw : String) : Option Json :=
  if field.secret then
    if raw = "" then none else if trim raw = "" then some (.str "") else some (.str raw)
  else if raw ≠ "" ∨ field.required then some (.str raw) else none

def insertGiven (payload : Dict Json) (name : String) : Option Json → Dict Json
  | none => payload
  | some value => payload.insert name value

theorem trim_empty : trim "" = "" := rfl

theorem field_names {provider : LlmProvider} (registered : provider ∈ llmProviders) :
    ("provider" :: provider.fields.map FieldSpec.name).Nodup := by
  have all : ∀ provider ∈ llmProviders, ("provider" :: provider.fields.map FieldSpec.name).Nodup := by
    decide +kernel
  exact all provider registered

theorem registered_of_id {id : String} {provider : LlmProvider} (known : providerById id = some provider) :
    provider ∈ llmProviders ∧ provider.id = id :=
  ⟨List.mem_of_find?_eq_some known, by simpa using List.find?_some known⟩

theorem find_own {inputs : List Input} (nodup : (inputs.map fun input => input.field.name).Nodup)
    {input : Input} (member : input ∈ inputs) :
    (inputs.find? fun other => other.field.name = input.field.name) = some input := by
  induction inputs with
  | nil => cases member
  | cons first rest ih =>
      obtain ⟨fresh, later⟩ := List.nodup_cons.mp nodup
      rcases List.mem_cons.mp member with rfl | inRest
      · simp
      · have apart : first.field.name ≠ input.field.name := by
          intro same
          exact fresh (List.mem_map.mpr ⟨input, inRest, same.symm⟩)
        simp only [List.find?_cons, apart, decide_false]
        exact ih later inRest

theorem collect_sent (state : List (String × Json)) {inputs : List Input} {input : Input} (payload : Dict Json)
    (found : (inputs.find? fun other => other.field.name = input.field.name) = some input) :
    collectField state inputs payload input.field =
      insertGiven payload input.field.name (sent input.field input.value) := by
  unfold collectField sent
  rw [found]
  dsimp only
  by_cases secret : input.field.secret = true
  · simp only [if_pos secret]
    by_cases empty : input.value = ""
    · simp [empty, insertGiven]
    · by_cases blank : trim input.value = "" <;> simp [empty, blank, insertGiven]
  · simp only [if_neg secret]
    split <;> rfl

/-- The payload, input by input. -/
def laidOut (payload : Dict Json) (inputs : List Input) : Dict Json :=
  inputs.foldl (fun payload input => insertGiven payload input.field.name (sent input.field input.value)) payload

theorem lookup_given_ne {payload : Dict Json} {name key : String} (value : Option Json) (apart : key ≠ name) :
    (insertGiven payload name value).lookup key = payload.lookup key := by
  cases value with
  | none => rfl
  | some value => exact AList.lookup_insert_ne apart

theorem lookup_others {payload : Dict Json} {inputs : List Input} {key : String}
    (apart : ∀ input ∈ inputs, key ≠ input.field.name) :
    (laidOut payload inputs).lookup key = payload.lookup key := by
  induction inputs generalizing payload with
  | nil => rfl
  | cons input rest ih =>
      have later := @ih (insertGiven payload input.field.name (sent input.field input.value))
        fun other member => apart other (List.mem_cons_of_mem _ member)
      exact later.trans (lookup_given_ne _ (apart input List.mem_cons_self))

theorem lookup_own {payload : Dict Json} {inputs : List Input}
    (nodup : (inputs.map fun input => input.field.name).Nodup)
    (absent : ∀ input ∈ inputs, payload.lookup input.field.name = none) :
    ∀ input ∈ inputs, (laidOut payload inputs).lookup input.field.name = sent input.field input.value := by
  induction inputs generalizing payload with
  | nil => nofun
  | cons first rest ih =>
      obtain ⟨fresh, later⟩ := List.nodup_cons.mp nodup
      have apart : ∀ other ∈ rest, other.field.name ≠ first.field.name := by
        intro other member same
        exact fresh (List.mem_map.mpr ⟨other, member, same⟩)
      intro input member
      rcases List.mem_cons.mp member with rfl | inRest
      · have untouched := @lookup_others
          (insertGiven payload input.field.name (sent input.field input.value)) rest input.field.name
          fun other member same => apart other member same.symm
        refine untouched.trans ?_
        cases value : sent input.field input.value with
        | none => exact absent input List.mem_cons_self
        | some value => exact AList.lookup_insert _
      · refine @ih (insertGiven payload first.field.name (sent first.field first.value)) later ?_ input inRest
        intro other known
        rw [lookup_given_ne _ (apart other known)]
        exact absent other (List.mem_cons_of_mem _ known)

/-- What the payload of a side has. -/
structure Sent (form : FormSide) (payload : Dict Json) : Prop where
  provider : payload.lookup "provider" = some (.str form.provider)
  fields : ∀ input ∈ form.inputs, payload.lookup input.field.name = sent input.field input.value
  others : ∀ key ∈ payload.keys, key = "provider" ∨ ∃ input ∈ form.inputs, key = input.field.name

theorem input_names {provider : LlmProvider} {inputs : List Input} (registered : provider ∈ llmProviders)
    (rendered : Rendered provider inputs) :
    (inputs.map fun input => input.field.name).Nodup ∧ ∀ input ∈ inputs, input.field.name ≠ "provider" := by
  have names := field_names registered
  rw [← rendered.fields, List.map_map] at names
  obtain ⟨fresh, nodup⟩ := List.nodup_cons.mp names
  refine ⟨nodup, fun input member same => fresh ?_⟩
  rw [← same]
  exact List.mem_map.mpr ⟨input, member, rfl⟩

theorem collect_payload {pane : Pane} {side : Side} (formed : Formed (pane.form side)) :
    Sent (pane.form side) (collectSidePayload pane side) := by
  have base (key : String) : (Dict.ofList [("provider", Json.str (pane.form side).provider)]).lookup key =
      if key = "provider" then some (.str (pane.form side).provider) else none := by
    by_cases same : key = "provider"
    · rw [if_pos same, same]
      exact AList.lookup_insert _
    · rw [if_neg same]
      exact AList.lookup_insert_ne same
  have listed {payload : Dict Json} {key : String} (member : key ∈ payload.keys) : payload.lookup key ≠ none := by
    have some_ : (payload.lookup key).isSome := AList.lookup_isSome.mpr (AList.mem_keys.mpr member)
    intro none
    rw [none] at some_
    cases some_
  unfold Formed at formed
  unfold collectSidePayload
  dsimp only
  cases known : providerById (pane.form side).provider with
  | none =>
      rw [known] at formed
      refine ⟨by rw [base, if_pos rfl], ?_, fun key member => .inl ?_⟩
      · rw [formed]
        nofun
      · by_contra other
        exact listed member ((base key).trans (if_neg other))
  | some provider =>
      rw [known] at formed
      obtain ⟨nodup, named⟩ := input_names (registered_of_id known).1 formed
      have folded : provider.fields.foldl
            (collectField (sideState pane.current side) (pane.form side).inputs)
            (Dict.ofList [("provider", .str (pane.form side).provider)]) =
          laidOut (Dict.ofList [("provider", .str (pane.form side).provider)]) (pane.form side).inputs := by
        rw [← formed.fields, List.foldl_map, laidOut]
        apply List.foldl_ext
        exact fun payload input member => collect_sent _ payload (find_own nodup member)
      dsimp only
      rw [folded]
      constructor
      · rw [lookup_others fun input member same => named input member same.symm, base, if_pos rfl]
      · apply lookup_own nodup
        exact fun input member => (base _).trans (if_neg (named input member))
      · intro key member
        by_cases own : ∃ input ∈ (pane.form side).inputs, key = input.field.name
        · exact .inr own
        · left
          push Not at own
          by_contra other
          exact listed member ((lookup_others own).trans ((base key).trans (if_neg other)))

/-! When a payload is accepted. -/

/-- What the Hub asks of the inputs of required fields. A secret that is stored counts. -/
def Sufficient (side : Side) (before : Dict Json) (input : Input) : Prop :=
  input.field.required = true →
    if input.field.secret then
      trim input.value ≠ "" ∨ holds before (side.encryptedKey input.field.name) = true
    else input.value ≠ ""

theorem sent_blank (field : FieldSpec) (raw : String) :
    ((sent field raw).getD .null).isBlank = true ↔ if field.secret then trim raw = "" else raw = "" := by
  unfold sent
  by_cases secret : field.secret = true
  · simp only [if_pos secret]
    by_cases empty : raw = ""
    · simp [empty, Json.isBlank, trim_empty]
    · by_cases blank : trim raw = "" <;> simp [empty, blank, Json.isBlank]
  · simp only [if_neg secret]
    by_cases empty : raw = ""
    · by_cases required : field.required = true <;> simp [empty, required, Json.isBlank]
    · simp [empty, Json.isBlank]

theorem missing_iff {form : FormSide} {side : Side} {payload before : Dict Json} (sentForm : Sent form payload)
    {input : Input} (member : input ∈ form.inputs) :
    missing side payload before input.field = false ↔ Sufficient side before input := by
  have blank := sent_blank input.field input.value
  unfold missing Sufficient
  rw [sentForm.fields input member]
  by_cases secret : input.field.secret = true
  · simp only [secret, if_true, ne_eq] at blank ⊢
    rw [← blank]
    generalize ((sent input.field input.value).getD .null).isBlank = isBlank
    cases input.field.required <;> cases isBlank <;>
      cases holds before (side.encryptedKey input.field.name) <;> simp
  · simp only [secret, Bool.false_eq_true, if_false, ne_eq] at blank ⊢
    rw [← blank]
    generalize ((sent input.field input.value).getD .null).isBlank = isBlank
    cases input.field.required <;> cases isBlank <;> simp

/-- A side is accepted if a provider is selected and what it requires is there. -/
theorem accepts_iff {form : FormSide} {side : Side} {payload before : Dict Json} (formed : Formed form)
    (sentForm : Sent form payload) :
    Accepts side payload before ↔
      (providerById form.provider).isSome ∧ ∀ input ∈ form.inputs, Sufficient side before input := by
  have resolved (provider : LlmProvider) : resolveProvider side payload = .ok provider ↔
      providerById form.provider = some provider := by
    unfold resolveProvider
    rw [sentForm.provider, Option.getD_some]
    dsimp only
    rw [Json.toStr_str]
    by_cases empty : form.provider = ""
    · have none : providerById "" = none := by decide
      simp [empty, none, Json.truthy]
    · have filled : (Json.str form.provider).truthy = true := by simpa [Json.truthy] using empty
      rw [if_pos filled, getProvider, ← providerById]
      cases providerById form.provider <;> simp [Except.mapError]
  have known (provider : LlmProvider) (found : providerById form.provider = some provider) :
      validatePayloadKeys side provider payload = .ok () := by
    unfold Formed at formed
    rw [found] at formed
    have none : (payload.keys.filter fun name =>
        decide (name ∉ "provider" :: provider.fields.map FieldSpec.name)) = [] := by
      apply List.filter_eq_nil_iff.mpr
      intro key member
      rcases sentForm.others key member with rfl | ⟨input, inForm, rfl⟩
      · simp
      · have own : input.field ∈ provider.fields := formed.fields ▸ List.mem_map_of_mem inForm
        simp [List.mem_map_of_mem own]
    simp only [validatePayloadKeys, none, if_true]
  have supplied (provider : LlmProvider) (found : providerById form.provider = some provider) :
      validateRequiredFields side provider payload before = .ok () ↔
        ∀ input ∈ form.inputs, Sufficient side before input := by
    unfold Formed at formed
    rw [found] at formed
    have none : provider.fields.find? (missing side payload before) = none ↔
        ∀ input ∈ form.inputs, Sufficient side before input := by
      rw [List.find?_eq_none, ← formed.fields, List.forall_mem_map]
      refine forall₂_congr fun input member => ?_
      rw [← missing_iff sentForm member, Bool.not_eq_true]
    rw [← none]
    unfold validateRequiredFields
    cases provider.fields.find? (missing side payload before) <;> simp
  constructor
  · rintro ⟨provider, resolves, _, required⟩
    have found := (resolved provider).mp resolves
    exact ⟨by rw [found]; rfl, (supplied provider found).mp required⟩
  · rintro ⟨selected, sufficient⟩
    obtain ⟨provider, found⟩ := Option.isSome_iff_exists.mp selected
    exact ⟨provider, (resolved provider).mpr found, known provider found,
      (supplied provider found).mpr sufficient⟩

/-! What is shown again. -/

/-- A form is shown without the secrets that were typed. -/
def FormSide.cleared (form : FormSide) : FormSide :=
  { form with inputs := form.inputs.map fun input =>
      if input.field.secret then { input with value := "" } else input }

/-- What a save comes to for one side. -/
structure SavedSide (settings : Settings) (side : Side) (form : FormSide) (before doc : Dict Json)
    (state : List (String × Json)) : Prop where
  provider : doc.lookup (side.key "provider") = some (.str form.provider)
  shown : loadSide state = form.cleared
  badges : ∀ input ∈ form.inputs, input.field.secret = true →
    (badge state input.field = true ↔ trim input.value ≠ "" ∨
      input.value = "" ∧ holds before (side.encryptedKey input.field.name) = true)
  plain : ∀ input ∈ form.inputs, input.field.secret = false →
    doc.lookup (side.key input.field.name) = some (.str input.value)
  typed : ∀ input ∈ form.inputs, input.field.secret = true → trim input.value ≠ "" →
    ∃ envelope, doc.lookup (side.encryptedKey input.field.name) = some (.str envelope) ∧
      Seals settings envelope input.value
  kept : ∀ input ∈ form.inputs, input.field.secret = true → input.value = "" →
    doc.lookup (side.encryptedKey input.field.name) =
      before.lookup (side.encryptedKey input.field.name)
  wiped : ∀ input ∈ form.inputs, input.field.secret = true → input.value ≠ "" → trim input.value = "" →
    doc.lookup (side.encryptedKey input.field.name) = some .null
  rest : ∀ name, name ≠ "provider" → (∀ input ∈ form.inputs, side.key name ≠ slot side input.field) →
    doc.lookup (side.key name) = before.lookup (side.key name)

def entryName (field : FieldSpec) : String := if field.secret then field.name ++ "_set" else field.name

theorem entry_names {provider : LlmProvider} (registered : provider ∈ llmProviders) :
    ("provider" :: provider.fields.map entryName).Nodup := by
  have all : ∀ provider ∈ llmProviders, ("provider" :: provider.fields.map entryName).Nodup := by
    decide +kernel
  exact all provider registered

theorem lookup_entry {entry : FieldSpec → String × Json} {fields : List FieldSpec}
    (named : ∀ field, (entry field).1 = entryName field) (nodup : (fields.map entryName).Nodup)
    {field : FieldSpec} (member : field ∈ fields) :
    (fields.map entry).lookup (entryName field) = some (entry field).2 := by
  induction fields with
  | nil => cases member
  | cons first rest ih =>
      obtain ⟨fresh, later⟩ := List.nodup_cons.mp nodup
      have parts : entry first = (entryName first, (entry first).2) := by rw [← named first]
      rw [List.map_cons, parts, List.lookup_cons]
      rcases List.mem_cons.mp member with rfl | inRest
      · simp
      · have apart : entryName field ≠ entryName first := by
          intro same
          exact fresh (List.mem_map.mpr ⟨field, inRest, same⟩)
        simp only [beq_eq_false_iff_ne.mpr apart]
        exact ih later inRest

/-- The entry of a field of a side that was read back. -/
theorem lookup_read_back {side : Side} {provider : LlmProvider} {payload before : Dict Json}
    (registered : provider ∈ llmProviders) {field : FieldSpec} (member : field ∈ provider.fields) :
    (readBack side provider payload before).lookup (entryName field) =
      some (readBackField side payload before field).2 := by
  have names := entry_names registered
  obtain ⟨fresh, nodup⟩ := List.nodup_cons.mp names
  have apart : entryName field ≠ "provider" := fun same =>
    fresh (List.mem_map.mpr ⟨field, member, same⟩)
  have named (field : FieldSpec) : (readBackField side payload before field).1 = entryName field := by
    unfold readBackField entryName
    dsimp only
    split <;> rfl
  rw [readBack, List.lookup_cons, beq_eq_false_iff_ne.mpr apart]
  exact lookup_entry named nodup member

theorem selected_of_laid {side : Side} {form : FormSide} {payload before doc : Dict Json} {provider : LlmProvider}
    (sentForm : Sent form payload) (laid : Laid settings side payload provider before doc) :
    form.provider = provider.id ∧ providerById form.provider = some provider := by
  have named := submitted_provider laid.resolved
  rw [sentForm.provider, Option.getD_some, Json.str.injEq] at named
  have known := (registered_text (registered_of_resolve laid.resolved)).2
  rw [getProvider, ← providerById, ← named] at known
  refine ⟨named, ?_⟩
  cases found : providerById form.provider with
  | none =>
      rw [found] at known
      cases known
  | some other =>
      rw [found] at known
      rw [Except.ok.inj known]

theorem cleaned_sent {field : FieldSpec} {raw : String} (secret : ¬ field.secret = true) :
    cleaned ((sent field raw).getD .null) = .str raw := by
  unfold sent
  rw [if_neg secret]
  by_cases empty : raw = ""
  · by_cases required : field.required = true <;> simp [empty, required, cleaned, Json.isBlank]
  · simp [empty, cleaned, Json.isBlank]

/-- An input that is not secret is rendered as it was. -/
theorem rendered_again {side : Side} {provider : LlmProvider} {form : FormSide} {payload before : Dict Json}
    (registered : provider ∈ llmProviders) (rendered : Rendered provider form.inputs)
    (sentForm : Sent form payload) {input : Input} (member : input ∈ form.inputs) :
    renderInput (readBack side provider payload before) input.field =
      if input.field.secret then { input with value := "" } else input := by
  have own : input.field ∈ provider.fields := rendered.fields ▸ List.mem_map_of_mem member
  unfold renderInput
  by_cases secret : input.field.secret = true
  · rw [if_pos secret, if_pos secret]
  · have entry := @lookup_read_back side provider payload before registered input.field own
    have own_ : entryName input.field = input.field.name := if_neg secret
    have value : (readBackField side payload before input.field).2 =
        cleaned ((sent input.field input.value).getD .null) := by
      unfold readBackField
      dsimp only
      rw [if_neg secret, sentForm.fields input member]
    rw [own_, value, cleaned_sent secret] at entry
    rw [if_neg secret, if_neg secret, entry]
    have again : sanitize input.field (assigned (some (.str input.value))) = input.value :=
      rendered.clean input member
    rw [again]

theorem truthy_bool (value : Bool) : jsTruthy (some (.bool value)) = value := by cases value <;> rfl

theorem badge_read_back {side : Side} {provider : LlmProvider} {form : FormSide} {payload before : Dict Json}
    (registered : provider ∈ llmProviders) (rendered : Rendered provider form.inputs)
    (sentForm : Sent form payload) {input : Input} (member : input ∈ form.inputs)
    (secret : input.field.secret = true) :
    badge (readBack side provider payload before) input.field = true ↔ trim input.value ≠ "" ∨
      input.value = "" ∧ holds before (side.encryptedKey input.field.name) = true := by
  have own : input.field ∈ provider.fields := rendered.fields ▸ List.mem_map_of_mem member
  have entry := @lookup_read_back side provider payload before registered input.field own
  have own_ : entryName input.field = input.field.name ++ "_set" := if_pos secret
  have value : (readBackField side payload before input.field).2 = .bool
      (keySet (holds before (side.encryptedKey input.field.name))
        ((sent input.field input.value).getD .null)) := by
    unfold readBackField
    dsimp only
    rw [if_pos secret, sentForm.fields input member]
  rw [own_, value] at entry
  rw [badge, entry, truthy_bool, sent, if_pos secret]
  by_cases empty : input.value = ""
  · simp [empty, keySet, trim_empty]
  · by_cases blank : trim input.value = "" <;> simp [empty, blank, keySet, Json.isBlank]

theorem side_key_injective {side : Side} {first second : String} (same : side.key first = side.key second) :
    first = second := by
  have texts := congrArg String.toList same
  simp only [Side.key, String.toList_append, List.append_cancel_left_eq] at texts
  exact String.toList_injective texts

/-- A side that was accepted is stored and shown as the form has it. -/
theorem saved_side {side : Side} {form : FormSide} {payload before doc : Dict Json} {provider : LlmProvider}
    (formed : Formed form) (sentForm : Sent form payload)
    (laid : Laid settings side payload provider before doc) :
    SavedSide settings side form before doc (renderSide doc side).entries := by
  obtain ⟨named, found⟩ := selected_of_laid sentForm laid
  have registered := registered_of_resolve laid.resolved
  unfold Formed at formed
  rw [found] at formed
  have field (input : Input) (member : input ∈ form.inputs) : input.field ∈ provider.fields :=
    formed.fields ▸ List.mem_map_of_mem member
  rw [read_side laid]
  constructor
  · rw [laid.named, named]
  · have state : (readBack side provider payload before).lookup "provider" = some (.str form.provider) := by
      rw [readBack, sentForm.provider]
      rfl
    have filled : jsTruthy (some (.str form.provider)) = true := by
      have starts := (registered_text registered).1
      rw [← named] at starts
      unfold jsTruthy
      simp
      rintro empty
      rw [empty] at starts
      cases starts
    have chosen : selectable form.provider = form.provider := by
      rw [selectable, found]
      rfl
    unfold loadSide
    dsimp only
    rw [state, if_pos filled]
    have selected : ((some (Json.str form.provider)).map templateText).getD "" = form.provider := rfl
    rw [selected, chosen, renderProviderFields, found, FormSide.cleared]
    dsimp only
    rw [← formed.fields, List.map_map]
    congr 1
    exact List.map_congr_left fun input member => rendered_again registered formed sentForm member
  · exact fun input member secret => badge_read_back registered formed sentForm member secret
  · intro input member secret
    have carried := laid.carried input.field (field input member)
    unfold FieldCarried at carried
    dsimp only at carried
    rw [if_neg (by simp [secret]), sentForm.fields input member, cleaned_sent (by simp [secret])] at carried
    exact carried
  · intro input member secret filled
    have carried := laid.carried input.field (field input member)
    have empty : input.value ≠ "" := fun same => filled (same ▸ trim_empty)
    have value : (payload.lookup input.field.name).getD .null = .str input.value := by
      rw [sentForm.fields input member, sent, if_pos secret, if_neg empty, if_neg filled]
      rfl
    unfold FieldCarried at carried
    rw [value] at carried
    dsimp only at carried
    rw [if_pos secret] at carried
    have stored := carried fun same => by cases same
    rw [if_neg (by simpa [Json.isBlank] using empty)] at stored
    exact stored
  · intro input member secret empty
    have omitted : (payload.lookup input.field.name).getD .null = .null := by
      rw [sentForm.fields input member, sent, if_pos secret, if_pos empty]
      rfl
    have kept := laid.kept input.field (field input member) secret omitted
    rw [Requiring.slot_secret secret] at kept
    exact kept
  · intro input member secret typed blank
    have carried := laid.carried input.field (field input member)
    have value : (payload.lookup input.field.name).getD .null = .str "" := by
      rw [sentForm.fields input member, sent, if_pos secret, if_neg typed, if_pos blank]
      rfl
    unfold FieldCarried at carried
    rw [value] at carried
    dsimp only at carried
    rw [if_pos secret] at carried
    have stored := carried fun same => by cases same
    rw [if_pos (by simp [Json.isBlank])] at stored
    exact stored
  · intro name notProvider others
    apply laid.rest
    rw [List.mem_cons, ← formed.fields, List.mem_map]
    rintro (same | ⟨own, member, same⟩)
    · exact notProvider (side_key_injective same)
    · obtain ⟨input, inForm, rfl⟩ := List.mem_map.mp member
      exact others input inForm same.symm

/-! A save, from the form to the pane that is shown after it. -/

/-- Reading the configuration leaves it. -/
theorem get_leaves {doc : Dict Json} {world after : World N} {view : LlmView}
    (stored : storedConfig world = some doc)
    (returned : LlmService.get.run (exec outside) world = (.ok view, after)) :
    view = renderForRead doc ∧ storedConfig after = some doc := by
  have kept : Prog.Leaves (exec outside) LlmService.get world fun _ after => after.store = world.store := by
    rw [LlmService.get, Prog.bind_eq]
    apply Keeping.leaves_read_then rfl
    · exact fun _ _ _ same => same
    · intro after same
      split <;> exact same
  unfold Prog.Leaves at kept
  rw [returned] at kept
  refine ⟨read_get stored returned, ?_⟩
  rw [storedConfig, kept]
  exact stored

def saveCall (actor : CurrentUser) (requestId : Option String) (pane : Pane) : Call :=
  ⟨actor, some (collectSidePayload pane .inference), some (collectSidePayload pane .embedding), requestId⟩

theorem save_payload {actor : CurrentUser} {requestId : Option String} {pane : Pane} (side : Side) :
    (saveCall actor requestId pane).payload side = some (collectSidePayload pane side) := by
  cases side <;> rfl

/-- A save that came to its end went through an update and a read. -/
theorem run_save {actor : CurrentUser} {requestId : Option String} {pane reloaded : Pane}
    {world after : World N}
    (saved : (saveLLM settings actor requestId pane).run (exec outside) world = (.ok reloaded, after)) :
    ∃ written between view,
      (serveCall settings (saveCall actor requestId pane)).run (exec outside) world = (.ok written, between) ∧
      LlmService.get.run (exec outside) between = (.ok view, after) ∧ reloaded = loadLLMPane view := by
  obtain ⟨written, between, updated, saved⟩ := Prog.run_bind_ok saved
  obtain ⟨view, last, gotten, saved⟩ := Prog.run_bind_ok saved
  cases saved
  obtain ⟨_, _, valid, asks⟩ := Prog.run_bind_ok updated
  obtain ⟨_, rfl⟩ := Prog.run_require_ok valid
  obtain ⟨_, _, asked, updates⟩ := Prog.run_bind_ok asks
  obtain ⟨_, rfl⟩ := Prog.run_require_ok asked
  refine ⟨written, between, view, ?_, ?_, rfl⟩
  · apply Prog.run_handle_ok updates
    rintro error state ⟨value, last, raised⟩
    split at raised <;> cases raised
  · apply Prog.run_handle_ok gotten
    rintro error state ⟨value, last, raised⟩
    split at raised <;> cases raised

/-- Whatever the pane was loaded with and however it was edited, a save stores what the
form says and leaves the secrets that were not typed, also those stored since; the
pane then shows the form again, without what was typed as a secret. -/
theorem save_reloads (settings : Settings) (outside : Outside N) (actor : CurrentUser)
    (requestId : Option String) (view : LlmView) (edits : List Edit) (world after : World N) (reloaded : Pane)
    (saved : (saveLLM settings actor requestId ((loadLLMPane view).edited edits)).run (exec outside) world =
      (.ok reloaded, after)) :
    ∃ before doc, storedConfig world = some before ∧ storedConfig after = some doc ∧
      ∀ side,
        SavedSide settings side (((loadLLMPane view).edited edits).form side) before doc
          (sideState reloaded.current side) ∧
        reloaded.form side = (((loadLLMPane view).edited edits).form side).cleared := by
  obtain ⟨written, between, view', updated, gotten, rfl⟩ := run_save saved
  obtain ⟨before, doc, found, _, rewritten, stored, _⟩ := served_of_run updated
  obtain ⟨rfl, kept⟩ := get_leaves stored gotten
  refine ⟨before, doc, found, kept, fun side => ?_⟩
  have formed := formed_edited view edits side
  obtain ⟨provider, laid⟩ := rewritten.given side _ (save_payload side)
  have savedSide := saved_side formed (collect_payload formed) laid
  have state : sideState (renderForRead doc) side = (renderSide doc side).entries := by cases side <;> rfl
  have shown : (loadLLMPane (renderForRead doc)).current = renderForRead doc := rfl
  rw [shown, state]
  refine ⟨savedSide, ?_⟩
  rw [← savedSide.shown, ← state]
  rfl

/-! The model is changed, and the stored key is not typed. -/

def keyedView : LlmView :=
  renderForRead (Dict.ofList
    [("inference_provider", .str "openai"), ("inference_model", .str "gpt"),
      ("inference_api_key_encrypted", .str "sealed")])

def modelEdits : List Edit :=
  [.enter .inference "model" "gpt-4o", .choose .embedding "ollama",
    .enter .embedding "base_url" " http://ollama:11434\n", .enter .embedding "model" "nomic"]

theorem model_edits_reload :
    ∃ reloaded after,
      (saveLLM sampleSettings sampleUser none ((loadLLMPane keyedView).edited modelEdits)).run
        (exec (Outside.still unreachable)) Requiring.keyedWorld = (.ok reloaded, after) ∧
      ∃ before doc, storedConfig Requiring.keyedWorld = some before ∧ storedConfig after = some doc ∧
        SavedSide sampleSettings .inference (((loadLLMPane keyedView).edited modelEdits).form .inference) before
          doc (sideState reloaded.current .inference) := by
  obtain ⟨reloaded, after, saved⟩ : ∃ reloaded after,
      (saveLLM sampleSettings sampleUser none ((loadLLMPane keyedView).edited modelEdits)).run
        (exec (Outside.still unreachable)) Requiring.keyedWorld = (.ok reloaded, after) := ⟨_, _, rfl⟩
  obtain ⟨before, doc, found, stored, sides⟩ := save_reloads sampleSettings (Outside.still unreachable)
    sampleUser none keyedView modelEdits Requiring.keyedWorld after reloaded saved
  exact ⟨reloaded, after, saved, before, doc, found, stored, (sides .inference).1⟩

/-! On a store without failures a save is refused for what the form lacks only. -/

theorem get_returns (reliable : outside.Reliable) {doc : Dict Json} {world : World N}
    (stored : storedConfig world = some doc) :
    ∃ view after, LlmService.get.run (exec outside) world = (.ok view, after) := by
  have returns : Prog.Leaves (exec outside) LlmService.get world fun outcome _ =>
      ∃ view, outcome = .ok view := by
    rw [LlmService.get, Prog.bind_eq]
    apply Keeping.leaves_reliable_then reliable
    intro after _
    have rows : (world.store.llm.filter (hasId llmConfigId)).head? = some doc := by
      rw [List.head?_filter]
      exact stored
    simp only [StoreOp.apply, rows]
    exact ⟨_, rfl⟩
  obtain ⟨view, returned⟩ := returns
  exact ⟨view, (LlmService.get.run (exec outside) world).2, Prod.ext returned rfl⟩

theorem valid_collected {pane : Pane} {side : Side} (formed : Formed (pane.form side))
    (selected : (providerById (pane.form side).provider).isSome) :
    validSide (collectSidePayload pane side) = true := by
  unfold validSide
  rw [(collect_payload formed).provider]
  have named : (pane.form side).provider ≠ "" := by
    intro empty
    rw [empty] at selected
    exact absurd selected (by decide)
  simpa using named

theorem save_returns (reliable : outside.Reliable) {actor : CurrentUser} {requestId : Option String} {pane : Pane}
    {before : Dict Json} {world : World N} (found : storedConfig world = some before)
    (valid : ∀ side, validSide (collectSidePayload pane side) = true)
    (accepts : ∀ side, Accepts side (collectSidePayload pane side) before) :
    ∃ reloaded after,
      (saveLLM settings actor requestId pane).run (exec outside) world = (.ok reloaded, after) := by
  have acceptable : Acceptable (saveCall actor requestId pane) before := by
    refine ⟨.inl rfl, fun side payload given => ?_⟩
    rw [save_payload] at given
    exact Option.some.inj given ▸ accepts side
  obtain ⟨written, between, updated⟩ := @run_returns N settings outside reliable _ _ _ found acceptable
  obtain ⟨_, doc, _, _, _, stored, _⟩ := served_of_run updated
  obtain ⟨view, after, gotten⟩ := @get_returns N outside reliable doc between stored
  refine ⟨loadLLMPane view, after, ?_⟩
  have update : (updateLlm settings actor (some (collectSidePayload pane .inference))
      (some (collectSidePayload pane .embedding)) requestId).run (exec outside) world = (.ok written, between) := by
    unfold updateLlm
    rw [Prog.require, if_pos (by simp [valid]), Prog.require, if_pos (by simp)]
    exact Prog.run_handle updated
  have read : getLlm.run (exec outside) between = (.ok view, after) := Prog.run_handle gotten
  unfold saveLLM
  rw [Prog.bind_eq, Prog.run_bind, update]
  dsimp only
  rw [Prog.bind_eq, Prog.run_bind, read]
  rfl

/-- The call of `saveLLM` comes to its end if both sides have a provider and what it requires. -/
theorem save_ends_iff (reliable : outside.Reliable) {actor : CurrentUser} {requestId : Option String}
    {view : LlmView} {edits : List Edit} {before : Dict Json} {world : World N}
    (found : storedConfig world = some before) :
    (∃ reloaded after, (saveLLM settings actor requestId ((loadLLMPane view).edited edits)).run (exec outside)
        world = (.ok reloaded, after)) ↔
      ∀ side, (providerById (((loadLLMPane view).edited edits).form side).provider).isSome ∧
        ∀ input ∈ (((loadLLMPane view).edited edits).form side).inputs, Sufficient side before input := by
  have formed := formed_edited view edits
  constructor
  · rintro ⟨reloaded, after, saved⟩ side
    obtain ⟨_, _, _, updated, _⟩ := run_save saved
    obtain ⟨before', _, found', acceptable, _⟩ := served_of_run updated
    rw [found] at found'
    obtain rfl := Option.some.inj found'
    exact (accepts_iff (formed side) (collect_payload (formed side))).mp
      (acceptable.accepts side _ (save_payload side))
  · intro sufficient
    apply save_returns reliable found
    · exact fun side => valid_collected (formed side) (sufficient side).1
    · exact fun side => (accepts_iff (formed side) (collect_payload (formed side))).mpr (sufficient side)

theorem check_validity_iff {validUrl : String → Bool} {pane : Pane} :
    pane.checkValidity validUrl = true ↔
      ∀ side, ∀ input ∈ (pane.form side).inputs, input.checkValidity validUrl = true := by
  simp only [Pane.checkValidity, List.all_cons, List.all_nil, Bool.and_true, Bool.and_eq_true,
    List.all_eq_true]
  constructor
  · rintro ⟨inference, embedding⟩ (_ | _)
    · exact inference
    · exact embedding
  · exact fun valid => ⟨valid .inference, valid .embedding⟩

/-- A click on the button saves if both sides have a provider and what it requires, and
the browser takes what was typed for a URL as one. A secret that is stored by then need
not be typed again. -/
theorem save_accepted_iff (validUrl : String → Bool) (settings : Settings) {outside : Outside N}
    (reliable : outside.Reliable) (actor : CurrentUser) (requestId : Option String) (view : LlmView)
    (edits : List Edit) {before : Dict Json} {world : World N}
    (found : storedConfig world = some before) :
    (∃ save, submitLlm validUrl settings actor requestId ((loadLLMPane view).edited edits) = some save ∧
        ∃ reloaded after, save.run (exec outside) world = (.ok reloaded, after)) ↔
      ∀ side, (providerById (((loadLLMPane view).edited edits).form side).provider).isSome ∧
        ∀ input ∈ (((loadLLMPane view).edited edits).form side).inputs,
          input.checkValidity validUrl = true ∧ Sufficient side before input := by
  constructor
  · rintro ⟨save, sent, ends⟩ side
    rw [submitLlm, Option.ite_none_right_eq_some] at sent
    obtain ⟨valid, same⟩ := sent
    obtain rfl := Option.some.inj same
    obtain ⟨provider, sufficient⟩ := (save_ends_iff reliable found).mp ends side
    exact ⟨provider, fun input member =>
      ⟨check_validity_iff.mp valid side input member, sufficient input member⟩⟩
  · intro fine
    have valid := check_validity_iff.mpr fun side input member => ((fine side).2 input member).1
    refine ⟨_, if_pos valid, ?_⟩
    exact (save_ends_iff reliable found).mpr fun side =>
      ⟨(fine side).1, fun input member => ((fine side).2 input member).2⟩

/-- What the browser says of the texts below. -/
def hasScheme (text : String) : Bool := "http://".toList.isPrefixOf text.toList

def hostEdits : List Edit := modelEdits ++ [.enter .embedding "base_url" "localhost"]

/-- The stored key is not typed again; with a host in the place of a URL nothing is sent. -/
theorem stored_key_sufficient :
    ∃ before, storedConfig Requiring.keyedWorld = some before ∧
      (∀ side, (providerById (((loadLLMPane keyedView).edited modelEdits).form side).provider).isSome ∧
        ∀ input ∈ (((loadLLMPane keyedView).edited modelEdits).form side).inputs,
          input.checkValidity hasScheme = true ∧ Sufficient side before input) ∧
      ¬ ∃ save, submitLlm hasScheme sampleSettings sampleUser none ((loadLLMPane keyedView).edited hostEdits) =
          some save ∧
        ∃ reloaded after, save.run (exec (Outside.still unreachable)) Requiring.keyedWorld =
          (.ok reloaded, after) := by
  obtain ⟨before, found⟩ : ∃ before, storedConfig Requiring.keyedWorld = some before := ⟨_, rfl⟩
  refine ⟨before, found, ?_, ?_⟩
  · have accepted := save_accepted_iff hasScheme sampleSettings (still_reliable unreachable) sampleUser none
      keyedView modelEdits found
    exact accepted.mp ⟨_, rfl, _, _, rfl⟩
  · intro ends
    have accepted := save_accepted_iff hasScheme sampleSettings (still_reliable unreachable) sampleUser none
      keyedView hostEdits found
    have inputs := (accepted.mp ends .embedding).2
    have valid := (inputs ⟨⟨"base_url", true, false⟩, "localhost"⟩ (by decide)).1
    exact absurd valid (by decide)

end Lehen.LlmPane
