import Lehen.Laying

/-!
The fields a provider requires, after an update of the LLM configuration.
-/

namespace Lehen.Requiring

open Storage Secrets OAuth LlmService Configuring Laying
open Registry (FieldSpec)
open Editing (Seals)

variable {N : Type} {settings : Settings} {outside : Outside N}

/-- A required field has its value, or its envelope. -/
def FieldFilled (side : Side) (doc : Dict Json) (field : FieldSpec) : Prop :=
  field.required →
    if field.secret then holds doc (side.encryptedKey field.name) = true
    else ((doc.lookup (side.key field.name)).getD .null).isBlank = false

def Filled (side : Side) (provider : LlmProvider) (doc : Dict Json) : Prop :=
  ∀ field ∈ provider.fields, FieldFilled side doc field

/-- Every side a call updates is filled, as the provider it chose asks for. -/
def AllFilled (call : Call) (doc : Dict Json) : Prop :=
  ∀ side payload provider, call.payload side = some payload →
    resolveProvider side payload = .ok provider → Filled side provider doc

/-- The payload empties a secret that the provider it chooses requires. -/
def Empties (side : Side) (payload : Dict Json) : Prop :=
  ∃ provider, resolveProvider side payload = .ok provider ∧
    ∃ field ∈ provider.fields, field.required ∧ field.secret ∧
      payload.lookup field.name = some (.str "")

theorem envelope_filled {envelope text : String} (seals : Seals settings envelope text) :
    (Json.str envelope).truthy = true := by
  obtain ⟨nonce, encrypted⟩ := seals
  rw [encrypt, if_pos settings.masterKeyLength] at encrypted
  obtain rfl := Except.ok.inj encrypted
  simp only [Json.truthy, bne_iff_ne, ne_eq]
  intro empty
  have decoded := Base64.decode_encode
    (currentVersion :: nonce.val ++ settings.aead.encrypt settings.masterKey nonce.val (utf8Encode text))
  rw [empty, show Base64.urlsafeB64decode "" = .ok [] from rfl] at decoded
  cases decoded

theorem cleaned_blank (value : Json) : (cleaned value).isBlank = value.isBlank := by
  unfold cleaned
  by_cases blank : value.isBlank
  · rw [if_pos blank, blank]
    rfl
  · rw [if_neg blank]

/-- No required field was missed. -/
theorem supplied_field {side : Side} {provider : LlmProvider} {payload before : Dict Json}
    (supplied : validateRequiredFields side provider payload before = .ok ()) {field : FieldSpec}
    (member : field ∈ provider.fields) : missing side payload before field = false := by
  unfold validateRequiredFields at supplied
  split at supplied
  · next none_ => simpa using List.find?_eq_none.mp none_ field member
  · cases supplied

theorem public_filled {side : Side} {payload before doc : Dict Json} {field : FieldSpec}
    (open_ : field.secret = false) (given : missing side payload before field = false)
    (carried : FieldCarried settings side payload doc field) : FieldFilled side doc field := by
  intro required
  simp only [FieldCarried, open_, Bool.false_eq_true, if_false] at carried ⊢
  rw [carried, Option.getD_some, cleaned_blank]
  simpa [missing, required, open_] using given

theorem slot_secret {side : Side} {field : FieldSpec} (secret : field.secret = true) :
    slot side field = side.encryptedKey field.name := if_pos secret

/-- A secret that was left out: the one that was there has been kept. -/
theorem omitted_filled {side : Side} {payload before doc : Dict Json} {field : FieldSpec}
    (secret : field.secret = true) (required : field.required = true)
    (given : missing side payload before field = false)
    (kept : FieldKept side payload before doc field)
    (absent : (payload.lookup field.name).getD .null = .null) :
    holds doc (side.encryptedKey field.name) = true := by
  have same := kept secret absent
  rw [slot_secret secret] at same
  rw [holds, same]
  simpa [missing, required, secret, absent, Json.isBlank, holds] using given

theorem secret_filled {side : Side} {payload before doc : Dict Json} {field : FieldSpec}
    (secret : field.secret = true) (given : missing side payload before field = false)
    (carried : FieldCarried settings side payload doc field)
    (kept : FieldKept side payload before doc field)
    (unemptied : field.required → payload.lookup field.name ≠ some (.str "")) :
    FieldFilled side doc field := by
  intro required
  simp only [FieldCarried, secret, if_true] at carried ⊢
  cases found : payload.lookup field.name with
  | none =>
      apply omitted_filled secret required given kept
      rw [found]
      rfl
  | some value =>
      rw [found, Option.getD_some] at carried
      by_cases absent : value = .null
      · apply omitted_filled secret required given kept
        rw [found, absent]
        rfl
      · by_cases blank : value.isBlank = true
        · have empty : value = .str "" := by
            cases value with
            | null => exact absurd rfl absent
            | str text => simpa [Json.isBlank] using blank
            | _ => cases blank
          rw [empty] at found
          exact absurd found (unemptied required)
        · have stored := carried absent
          rw [if_neg blank] at stored
          obtain ⟨envelope, held, seals⟩ := stored
          rw [holds, held]
          exact envelope_filled seals

theorem emptied_unfilled {side : Side} {payload doc : Dict Json} {field : FieldSpec}
    (secret : field.secret = true) (required : field.required = true)
    (emptied : payload.lookup field.name = some (.str ""))
    (carried : FieldCarried settings side payload doc field) : ¬ FieldFilled side doc field := by
  intro filled
  have stored := filled required
  simp only [FieldCarried, SecretCarried, secret, if_true, emptied, Option.getD_some] at carried stored
  have cleared : doc.lookup (side.encryptedKey field.name) = some .null := by
    apply carried
    rintro ⟨⟩
  rw [holds, cleared] at stored
  cases stored

/-- A side whose payload was laid is filled unless the payload empties it. -/
theorem laid_filled {side : Side} {payload before doc : Dict Json} {provider : LlmProvider}
    (laid : Laid settings side payload provider before doc) :
    Filled side provider doc ↔ ¬ Empties side payload := by
  constructor
  · rintro filled ⟨provider', resolved, field, member, required, secret, emptied⟩
    rw [laid.resolved] at resolved
    obtain rfl := Except.ok.inj resolved
    exact emptied_unfilled secret required emptied (laid.carried field member) (filled field member)
  · intro unemptied field member
    have given := supplied_field laid.supplied member
    cases secret : field.secret with
    | false => exact public_filled secret given (laid.carried field member)
    | true =>
        apply secret_filled secret given (laid.carried field member) (laid.kept field member)
        intro required emptied
        exact unemptied ⟨provider, laid.resolved, field, member, required, secret, emptied⟩

theorem rewritten_filled {call : Call} {before doc : Dict Json}
    (rewritten : Rewritten settings call before doc) :
    AllFilled call doc ↔ ∀ side payload, call.payload side = some payload → ¬ Empties side payload := by
  constructor
  · intro filled side payload given
    obtain ⟨provider, laid⟩ := rewritten.given side payload given
    exact (laid_filled laid).mp (filled side payload provider given laid.resolved)
  · intro unemptied side payload provider given resolved
    obtain ⟨provider', laid⟩ := rewritten.given side payload given
    rw [laid.resolved] at resolved
    obtain rfl := Except.ok.inj resolved
    exact (laid_filled laid).mpr (unemptied side payload given)

/-- An update that returns leaves every side it was given filled exactly if no
payload empties a secret that its provider requires. -/
theorem required_filled_iff (outside : Outside N) (call : Call) {world after : World N} {view : LlmView}
    (returned : (serveCall settings call).run (exec outside) world = (.ok view, after)) :
    (∃ doc, storedConfig after = some doc ∧ AllFilled call doc) ↔
      ∀ side payload, call.payload side = some payload → ¬ Empties side payload := by
  obtain ⟨before, doc, _, _, rewritten, stored, _⟩ := served_of_run returned
  rw [← rewritten_filled rewritten]
  constructor
  · rintro ⟨doc', same, filled⟩
    rw [stored] at same
    obtain rfl := Option.some.inj same
    exact filled
  · exact fun filled => ⟨doc, stored, filled⟩

/-! The inference side has a stored key, and `openai` requires one. -/

def keyedWorld : World Unit :=
  ⟨{ Store.empty with llm := [Dict.ofList
      [("id", .str llmConfigId), ("inference_provider", .str "openai"),
        ("inference_model", .str "gpt"), ("inference_api_key_encrypted", .str "sealed")]] }, ()⟩

def modelCall (key : List (String × Json)) : Call :=
  ⟨AuditService.sampleUser,
    some (Dict.ofList ([("provider", .str "openai"), ("model", .str "gpt-4o")] ++ key)), none, none⟩

/-- The stored key is left out of the payload, and stays. -/
theorem keeping_call_filled :
    ∃ view after, (serveCall sampleSettings (modelCall [])).run (exec (Outside.still unreachable))
        keyedWorld = (.ok view, after) ∧
      ∃ doc, storedConfig after = some doc ∧ AllFilled (modelCall []) doc := by
  obtain ⟨view, after, returned⟩ : ∃ view after, (serveCall sampleSettings (modelCall [])).run
      (exec (Outside.still unreachable)) keyedWorld = (.ok view, after) := ⟨_, _, rfl⟩
  refine ⟨view, after, returned, (required_filled_iff _ (modelCall []) returned).mpr ?_⟩
  rintro side payload given ⟨provider, resolved, field, member, required, secret, emptied⟩
  cases side with
  | inference =>
      cases given
      cases resolved
      simp only [openai, List.mem_cons, List.not_mem_nil, or_false] at member
      rcases member with rfl | rfl | rfl
      · cases secret
      · cases secret
      · cases emptied
  | embedding => cases given

/-- It is emptied, which the check of required fields lets pass. -/
theorem cleared_key_unfilled :
    ∃ view after, (serveCall sampleSettings (modelCall [("api_key", .str "")])).run
        (exec (Outside.still unreachable)) keyedWorld = (.ok view, after) ∧
      ¬ ∃ doc, storedConfig after = some doc ∧
        AllFilled (modelCall [("api_key", .str "")]) doc := by
  obtain ⟨view, after, returned⟩ : ∃ view after,
      (serveCall sampleSettings (modelCall [("api_key", .str "")])).run
        (exec (Outside.still unreachable)) keyedWorld = (.ok view, after) := ⟨_, _, rfl⟩
  obtain ⟨before, doc, _, _, rewritten, stored, _⟩ := served_of_run returned
  refine ⟨view, after, returned, ?_⟩
  rintro ⟨doc', same, filled⟩
  rw [stored] at same
  obtain rfl := Option.some.inj same
  have empties : Empties .inference
      (Dict.ofList [("provider", .str "openai"), ("model", .str "gpt-4o"), ("api_key", .str "")]) :=
    ⟨openai, rfl, { name := "api_key", required := true, secret := true }, by decide, rfl, rfl, rfl⟩
  exact (rewritten_filled rewritten).mp filled .inference _ rfl empties

end Lehen.Requiring
