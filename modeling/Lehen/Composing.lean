import Lehen.Requiring

/-!
Both sides in one update or each in its own, and what is read back afterwards.
-/

namespace Lehen.Composing

open Storage Secrets OAuth LlmService Configuring Laying
open Registry (FieldSpec)
open Editing (Seals)

variable {N : Type} {settings : Settings} {outside : Outside N}

/-! Two documents one call may write. -/

/-- Equal, or envelopes of one text. -/
def SameStored (settings : Settings) (first second : Option Json) : Prop :=
  first = second ∨ ∃ text envelope envelope', first = some (.str envelope) ∧
    second = some (.str envelope') ∧ Seals settings envelope text ∧ Seals settings envelope' text

/-- The same row up to the instant it was written and the nonces of its envelopes. -/
def SameRow (settings : Settings) (first second : Dict Json) : Prop :=
  ∀ key, key ≠ "updated_at" → SameStored settings (first.lookup key) (second.lookup key)

theorem secret_unique {side : Side} {fieldName : String} {value : Json} {doc doc' : Dict Json}
    (present : value ≠ .null) (carried : SecretCarried settings side fieldName value doc)
    (carried' : SecretCarried settings side fieldName value doc') :
    SameStored settings (doc.lookup (side.encryptedKey fieldName))
      (doc'.lookup (side.encryptedKey fieldName)) := by
  have held := carried present
  have held' := carried' present
  by_cases blank : value.isBlank
  · rw [if_pos blank] at held held'
    exact .inl (held.trans held'.symm)
  · rw [if_neg blank] at held held'
    obtain ⟨envelope, stored, seals⟩ := held
    obtain ⟨envelope', stored', seals'⟩ := held'
    exact .inr ⟨_, envelope, envelope', stored, stored', seals, seals'⟩

theorem field_unique {side : Side} {payload before doc doc' : Dict Json} {field : FieldSpec}
    (carried : FieldCarried settings side payload doc field)
    (carried' : FieldCarried settings side payload doc' field)
    (kept : FieldKept side payload before doc field) (kept' : FieldKept side payload before doc' field) :
    SameStored settings (doc.lookup (slot side field)) (doc'.lookup (slot side field)) := by
  unfold FieldCarried at carried carried'
  by_cases secret : field.secret = true
  · rw [if_pos secret] at carried carried'
    by_cases absent : (payload.lookup field.name).getD .null = .null
    · exact .inl ((kept secret absent).trans (kept' secret absent).symm)
    · rw [Requiring.slot_secret secret]
      exact secret_unique absent carried carried'
  · rw [if_neg secret] at carried carried'
    have public_ : slot side field = side.key field.name := if_neg secret
    rw [public_]
    exact .inl (carried.trans carried'.symm)

theorem laid_unique {side : Side} {payload before doc doc' : Dict Json} {provider provider' : LlmProvider}
    (laid : Laid settings side payload provider before doc)
    (laid' : Laid settings side payload provider' before doc') (name : String) :
    SameStored settings (doc.lookup (side.key name)) (doc'.lookup (side.key name)) := by
  have resolved := laid'.resolved
  rw [laid.resolved] at resolved
  obtain rfl := Except.ok.inj resolved
  by_cases slotted : side.key name ∈ side.key "provider" :: provider.fields.map (slot side)
  · rcases List.mem_cons.mp slotted with named | field
    · rw [named]
      exact .inl (laid.named.trans laid'.named.symm)
    · obtain ⟨field, member, same⟩ := List.mem_map.mp field
      rw [← same]
      exact field_unique (laid.carried field member) (laid'.carried field member)
        (laid.kept field member) (laid'.kept field member)
  · exact .inl ((laid.rest name slotted).trans (laid'.rest name slotted).symm)

/-- What a call makes of a document is determined by it, up to the nonces. -/
theorem rewritten_unique {call : Call} {before doc doc' : Dict Json}
    (rewritten : Rewritten settings call before doc) (rewritten' : Rewritten settings call before doc') :
    SameRow settings doc doc' := by
  intro key timeless
  by_cases sided : ∃ side : Side, ∃ name, key = side.key name
  · obtain ⟨side, name, rfl⟩ := sided
    cases given : call.payload side with
    | none =>
        exact .inl ((rewritten.absent side given name).trans (rewritten'.absent side given name).symm)
    | some payload =>
        obtain ⟨provider, laid⟩ := rewritten.given side payload given
        obtain ⟨provider', laid'⟩ := rewritten'.given side payload given
        exact laid_unique laid laid' name
  · left
    by_cases identity : key = "id"
    · rw [identity, rewritten.id, rewritten'.id]
    · by_cases author : key = "updated_by"
      · rw [author, rewritten.author, rewritten'.author]
      · have aside : Aside key := by
          constructor
          · exact fun side name same => sided ⟨side, name, same⟩
          · simp [identity, author, timeless]
        rw [rewritten.aside key aside, rewritten'.aside key aside]

/-! One call for each side. -/

def other : Side → Side
  | .inference => .embedding
  | .embedding => .inference

/-- The part of a call about one side. -/
def only (call : Call) : Side → Call
  | .inference => { call with embedding := none }
  | .embedding => { call with inference := none }

theorem payload_only (call : Call) (side : Side) : (only call side).payload side = call.payload side := by
  cases side <;> rfl

theorem payload_other {side side' : Side} (call : Call) (apart : side' ≠ side) :
    (only call side).payload side' = none := by
  cases side <;> cases side' <;> first | rfl | exact absurd rfl apart

theorem other_ne (side : Side) : other side ≠ side := by cases side <;> nofun

theorem side_cases (side side' : Side) : side' = side ∨ side' = other side := by
  cases side <;> cases side' <;> simp [other]

/-- The sides one after the other come to the whole call. -/
theorem rewritten_compose {call : Call} {side : Side} {before middle doc : Dict Json}
    (first : Rewritten settings (only call side) before middle)
    (second : Rewritten settings (only call (other side)) middle doc) :
    Rewritten settings call before doc where
  given := by
    intro side' payload given
    have apart := other_ne side
    rcases side_cases side side' with rfl | rfl
    · obtain ⟨provider, laid⟩ := first.given side' payload ((payload_only call side').trans given)
      have left := second.absent side' (payload_other call apart.symm)
      exact ⟨provider, laid_same (fun _ => rfl) left laid⟩
    · obtain ⟨provider, laid⟩ := second.given (other side) payload ((payload_only call _).trans given)
      have left := first.absent (other side) (payload_other call apart)
      exact ⟨provider, laid_same (same_side_symm left) (fun _ => rfl) laid⟩
  absent := by
    intro side' missing
    have free (side : Side) : (only call side).payload side' = none := by
      rcases side_cases side side' with rfl | rfl
      · exact (payload_only call side').trans missing
      · exact payload_other call (other_ne side)
    exact same_side_trans (first.absent side' (free _)) (second.absent side' (free _))
  id := second.id
  author := by
    rw [second.author]
    cases side <;> rfl
  aside := by
    intro key aside
    rw [second.aside key aside, first.aside key aside]
    split <;> rfl

theorem acceptable_only {call : Call} {before : Dict Json} (accepts : Acceptable call before) {side : Side}
    (given : (call.payload side).isSome) : Acceptable (only call side) before where
  asked := by
    cases side with
    | inference => exact .inl given
    | embedding => exact .inr given
  accepts := by
    intro side' payload same
    rcases side_cases side side' with rfl | rfl
    · exact accepts.accepts side' payload ((payload_only call side').symm.trans same)
    · rw [payload_other call (other_ne side)] at same
      cases same

/-! Reading back. -/

def sideOf (view : LlmView) : Side → SideView
  | .inference => view.inference
  | .embedding => view.embedding

/-- Whether a key is set after a payload: what was sent decides, unless nothing was. -/
def keySet (stored : Bool) : Json → Bool
  | .null => stored
  | value => !value.isBlank

def readBackField (side : Side) (payload before : Dict Json) (field : FieldSpec) : String × Json :=
  let value := (payload.lookup field.name).getD .null
  if field.secret then
    (field.name ++ "_set", .bool (keySet (holds before (side.encryptedKey field.name)) value))
  else (field.name, cleaned value)

/-- A side as it was submitted. -/
def readBack (side : Side) (provider : LlmProvider) (payload before : Dict Json) : List (String × Json) :=
  ("provider", (payload.lookup "provider").getD .null) ::
    provider.fields.map (readBackField side payload before)

theorem registered_text {provider : LlmProvider} (registered : provider ∈ llmProviders) :
    provider.id.toList.head? = some 'o' ∧ getProvider provider.id = .ok provider := by
  have all : ∀ provider ∈ llmProviders, provider.id.toList.head? = some 'o' ∧
      llmProviders.find? (fun spec => spec.id == provider.id) = some provider := by
    decide +kernel
  refine ⟨(all provider registered).1, ?_⟩
  rw [getProvider, (all provider registered).2]

/-- A payload is accepted only if it names a provider by its id. -/
theorem submitted_provider {side : Side} {payload : Dict Json} {provider : LlmProvider}
    (resolved : resolveProvider side payload = .ok provider) :
    (payload.lookup "provider").getD .null = .str provider.id := by
  have registered := registered_of_resolve resolved
  unfold resolveProvider at resolved
  dsimp only at resolved
  split at resolved
  · cases known : getProvider ((payload.lookup "provider").getD .null).toStr with
    | error exc =>
        rw [known] at resolved
        cases resolved
    | ok spec =>
        rw [known] at resolved
        obtain rfl := Except.ok.inj resolved
        have same : spec.id = ((payload.lookup "provider").getD .null).toStr := by
          unfold getProvider at known
          split at known
          · next hit =>
              obtain rfl := Except.ok.inj known
              simpa using List.find?_some hit
          · cases known
        have starts := (registered_text registered).1
        rw [same] at starts
        obtain ⟨text, value⟩ := JsonText.str_of_head (by decide) starts
        rw [same, value]
        rfl
  · cases resolved

theorem read_field {side : Side} {payload before doc : Dict Json} {field : FieldSpec}
    (carried : FieldCarried settings side payload doc field)
    (kept : FieldKept side payload before doc field) :
    renderField doc side field = readBackField side payload before field := by
  unfold renderField readBackField
  unfold FieldCarried at carried
  dsimp only at carried ⊢
  by_cases secret : field.secret = true
  · rw [if_pos secret] at carried
    rw [if_pos secret, if_pos secret]
    by_cases absent : (payload.lookup field.name).getD .null = .null
    · have same := kept secret absent
      rw [Requiring.slot_secret secret] at same
      rw [absent, keySet, holds, same]
      rfl
    · have decided : keySet (holds before (side.encryptedKey field.name))
          ((payload.lookup field.name).getD .null) = !((payload.lookup field.name).getD .null).isBlank := by
        cases value : (payload.lookup field.name).getD .null with
        | null => exact absurd value absent
        | _ => rfl
      rw [decided]
      have stored := carried absent
      by_cases blank : ((payload.lookup field.name).getD .null).isBlank = true
      · rw [if_pos blank] at stored
        rw [holds, stored, blank]
        rfl
      · rw [if_neg blank] at stored
        obtain ⟨envelope, held, seals⟩ := stored
        rw [holds, held, Option.getD_some, Requiring.envelope_filled seals]
        simp [blank]
  · rw [if_neg secret] at carried
    rw [if_neg secret, if_neg secret, carried]
    rfl

theorem read_side {side : Side} {payload before doc : Dict Json} {provider : LlmProvider}
    (laid : Laid settings side payload provider before doc) :
    (renderSide doc side).entries = readBack side provider payload before := by
  have registered := registered_of_resolve laid.resolved
  have known : providerOf doc side = some provider := by
    have filled : (Json.str provider.id).truthy = true := by
      have starts := (registered_text registered).1
      simp only [Json.truthy, bne_iff_ne, ne_eq]
      intro empty
      rw [empty] at starts
      cases starts
    rw [providerOf, laid.named]
    dsimp only [Option.getD_some]
    rw [if_pos filled, Json.toStr_str, (registered_text registered).2]
    rfl
  rw [renderSide, known, readBack, submitted_provider laid.resolved, laid.named]
  have fields : provider.fields.map (renderField doc side) =
      provider.fields.map (readBackField side payload before) :=
    List.map_congr_left fun field member => read_field (laid.carried field member) (laid.kept field member)
  dsimp only [Option.getD_some]
  rw [fields]

theorem read_get {doc : Dict Json} {world after : World N} {view : LlmView}
    (stored : storedConfig world = some doc)
    (returned : LlmService.get.run (exec outside) world = (.ok view, after)) :
    view = renderForRead doc := by
  have read : Prog.Leaves (exec outside) LlmService.get world fun outcome _ =>
      ∀ view, outcome = .ok view → view = renderForRead doc := by
    rw [LlmService.get, Prog.bind_eq]
    apply Keeping.leaves_statement_then
    · exact fun _ _ _ => nofun
    · intro after _
      have rows : (world.store.llm.filter (hasId llmConfigId)).head? = some doc := by
        rw [List.head?_filter]
        exact stored
      simp only [StoreOp.apply, rows]
      rintro view same
      exact (Except.ok.inj same).symm
  unfold Prog.Leaves at read
  rw [returned] at read
  exact read view rfl

theorem run_returns (reliable : outside.Reliable) {call : Call} {before : Dict Json} {world : World N}
    (found : storedConfig world = some before) (accepts : Acceptable call before) :
    ∃ view after, (serveCall settings call).run (exec outside) world = (.ok view, after) := by
  obtain ⟨view, returned⟩ := @update_returns N settings outside reliable call before world found accepts
  exact ⟨view, ((serveCall settings call).run (exec outside) world).2, Prod.ext returned rfl⟩

/-- Where the whole call is accepted, so are its sides, one after the other. -/
theorem sides_return (reliable : outside.Reliable) {call : Call} {before : Dict Json} {start : World N}
    (found : storedConfig start = some before) (accepts : Acceptable call before)
    (given : ∀ side, (call.payload side).isSome) (side : Side) :
    ∃ first middle second last,
      (serveCall settings (only call side)).run (exec outside) start = (.ok first, middle) ∧
      (serveCall settings (only call (other side))).run (exec outside) middle = (.ok second, last) := by
  have first := acceptable_only accepts (given side)
  obtain ⟨first, middle, firstRan⟩ := @run_returns N settings outside reliable _ _ _ found first
  obtain ⟨_, between, same, _, rewritten, held, _⟩ := served_of_run firstRan
  rw [found] at same
  obtain rfl := Option.some.inj same
  have left := rewritten.absent (other side) (payload_other call (other_ne side))
  have rest := acceptable_only accepts (given (other side))
  have later : Acceptable (only call (other side)) between := by
    refine ⟨rest.asked, fun side' payload asked => ?_⟩
    rcases side_cases (other side) side' with rfl | rfl
    · exact accepts_same left (rest.accepts _ payload asked)
    · rw [payload_other call (other_ne (other side))] at asked
      cases asked
  obtain ⟨second, last, secondRan⟩ := @run_returns N settings outside reliable _ _ _ held later
  exact ⟨first, middle, second, last, firstRan, secondRan⟩

/-- An update that refuses its payloads changes nothing. One that returns leaves the
side it was not given, writes what the two single updates write in either order, and
is read back as it was submitted. -/
theorem update_whole (settings : Settings) (outside : Outside N) (call : Call) (world : World N) :
    (∀ error after, (serveCall settings call).run (exec outside) world = (.error error, after) →
      error.kind = .llmConfigError →
        after.store.llm = world.store.llm ∧ after.store.audits = world.store.audits) ∧
    ∀ view after, (serveCall settings call).run (exec outside) world = (.ok view, after) →
      ∃ before doc, storedConfig world = some before ∧ storedConfig after = some doc ∧
        (∀ side, call.payload side = none → ∀ name,
          doc.lookup (side.key name) = before.lookup (side.key name)) ∧
        (∀ side (start middle last : World N) first second, storedConfig start = some before →
          (serveCall settings (only call side)).run (exec outside) start = (.ok first, middle) →
          (serveCall settings (only call (other side))).run (exec outside) middle = (.ok second, last) →
            ∃ doc', storedConfig last = some doc' ∧ SameRow settings doc doc') ∧
        (outside.Reliable → call.inference.isSome → call.embedding.isSome →
          ∀ side, ∀ start : World N, storedConfig start = some before →
            ∃ first middle second last,
              (serveCall settings (only call side)).run (exec outside) start = (.ok first, middle) ∧
              (serveCall settings (only call (other side))).run (exec outside) middle =
                (.ok second, last)) ∧
        ∀ shown last, LlmService.get.run (exec outside) after = (.ok shown, last) →
          ∀ side payload, call.payload side = some payload →
            ∃ provider, resolveProvider side payload = .ok provider ∧
              (sideOf shown side).entries = readBack side provider payload before := by
  constructor
  · intro error after ran refused
    have same : after.store = world.store := served_of_run ran refused
    rw [same]
    exact ⟨rfl, rfl⟩
  · intro view after ran
    obtain ⟨before, doc, found, accepts, rewritten, stored, _⟩ := served_of_run ran
    refine ⟨before, doc, found, stored, rewritten.absent, ?_, ?_, ?_⟩
    · intro side start middle last first second began firstRan secondRan
      obtain ⟨_, between, same, _, firstRewritten, held, _⟩ := served_of_run firstRan
      rw [began] at same
      obtain rfl := Option.some.inj same
      obtain ⟨_, doc', same, _, secondRewritten, final, _⟩ := served_of_run secondRan
      rw [held] at same
      obtain rfl := Option.some.inj same
      -- Both orders write rows that are made of the same one by the same payloads.
      exact ⟨doc', final, rewritten_unique rewritten (rewritten_compose firstRewritten secondRewritten)⟩
    · intro reliable inference embedding side start began
      have given : ∀ side, (call.payload side).isSome := by
        intro side
        cases side with
        | inference => exact inference
        | embedding => exact embedding
      exact sides_return reliable began accepts given side
    · intro shown last readRan side payload given
      obtain ⟨provider, laid⟩ := rewritten.given side payload given
      refine ⟨provider, laid.resolved, ?_⟩
      rw [read_get stored readRan, ← read_side laid]
      cases side <;> rfl

/-! Both sides of the configuration with the stored key. -/

def bothCall : Call :=
  { Requiring.modelCall [("api_key", .str "fresh")] with
    embedding := some (modelPayload "nomic") }

theorem both_sides_whole :
    ∃ view after, (serveCall sampleSettings bothCall).run (exec (Outside.still unreachable))
        Requiring.keyedWorld = (.ok view, after) ∧
      ∃ doc doc' last, storedConfig after = some doc ∧ storedConfig last = some doc' ∧
        SameRow sampleSettings doc doc' ∧
        ∃ first middle second,
          (serveCall sampleSettings (only bothCall .embedding)).run (exec (Outside.still unreachable))
            Requiring.keyedWorld = (.ok first, middle) ∧
          (serveCall sampleSettings (only bothCall .inference)).run (exec (Outside.still unreachable))
            middle = (.ok second, last) := by
  obtain ⟨view, after, returned⟩ : ∃ view after, (serveCall sampleSettings bothCall).run
      (exec (Outside.still unreachable)) Requiring.keyedWorld = (.ok view, after) := ⟨_, _, rfl⟩
  have whole := update_whole sampleSettings (Outside.still unreachable) bothCall Requiring.keyedWorld
  obtain ⟨before, doc, found, stored, _, same, return_, _⟩ := whole.2 view after returned
  obtain ⟨first, middle, second, last, firstRan, secondRan⟩ :=
    return_ (still_reliable unreachable) rfl rfl .embedding Requiring.keyedWorld found
  obtain ⟨doc', final, agrees⟩ :=
    same .embedding Requiring.keyedWorld middle last first second found firstRan secondRan
  exact ⟨view, after, returned, doc, doc', last, stored, final, agrees, first, middle, second, firstRan,
    secondRan⟩

end Lehen.Composing
