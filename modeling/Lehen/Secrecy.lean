import Lehen.LlmSecrets

/-!
Sequences of admin operations run twice: neither what they answer nor what the
admin log holds tells one run from the other, but for fingerprints of secrets.
-/

namespace Lehen.Secrecy

open Storage Secrets OAuth AuditService Registry Entries Masking Twinning Concealing InstanceSecrets
  LlmSecrets Conforming
open ConnectionsService (revokeForUsersNoLongerAuthorized)

variable {N : Type} (settings : Settings) {pairs : List (String × String)}

theorem twin_replace (actor : CurrentUser) (mapping : Json) (requestId : Option String) :
    Twin (Paired settings pairs) Eq
      (SiamService.replace settings (revokeForUsersNoLongerAuthorized settings · · ·) actor mapping
        requestId)
      (SiamService.replace settings (revokeForUsersNoLongerAuthorized settings · · ·) actor mapping
        requestId) := by
  have clear {α : Type} {body : Hub α} (only : body.Only Clear) :
      Twin (Paired settings pairs) Eq body body :=
    twin_only only fun op clear => Paired.clear op clear
  have reads : SiamService.get.Only Clear :=
    Prog.only_bind (Prog.only_perform trivial) fun _ => trivial
  have logged (mapping : SiamService.Mapping) :
      Entrywise (Drafted pairs []) (Dict.ofList [("mapping", mapping.toJson)])
        (Dict.ofList [("mapping", mapping.toJson)]) := by
    apply entrywise_of_list
    have open_ : "mapping" ∉ secretKeys := by decide +kernel
    exact .cons ⟨rfl, .plain _ open_⟩ .nil
  apply twin_bind (clear reads)
  rintro before _ rfl
  apply twin_bind (twin_now settings)
  rintro updatedAt _ rfl
  apply twin_perform_then (Paired.clear (.store (.selectSiam SiamService.siamId)) trivial)
  rintro existing _ rfl
  apply twin_bind
  · apply clear
    unfold SiamService.save
    split <;> exact Prog.only_perform trivial
  · intro _ _ _
    apply twin_bind (clear reads)
    rintro after _ rfl
    apply twin_bind
    · apply twin_record
      exact ⟨rfl, .some (logged before), .some (logged after), nofun⟩
    · intro _ _ _
      apply twin_bind
      · exact twin_when (twin_cascading settings (cascading_revoke_unauthorized ..))
      · exact fun _ _ _ => .ret rfl

theorem veiled_refl (names : List String) (payload : Dict Json) :
    Entrywise (Veiled names) payload payload := by
  apply entrywise_refl
  exact fun _ _ value => .same value

theorem veiled_option_refl (names : List String) (payload : Option (Dict Json)) :
    Option.Rel (Entrywise (Veiled names)) payload payload := by
  cases payload with
  | none => exact .none
  | some payload => exact .some (veiled_refl names payload)

theorem twin_administer {call other : AdminCall} (same : SameButSecrets call other) :
    Twin (Paired settings (givenSecrets call other)) Eq (administer settings call)
      (administer settings other) := by
  have wrapped {α : Type} {body other : Hub α} {pairs : List (String × String)} (reply : α → Reply)
      (twin : Twin (Paired settings pairs) Eq body other) :
      Twin (Paired settings pairs) Eq (body.bind fun value => .ret (reply value))
        (other.bind fun value => .ret (reply value)) := by
    apply twin_bind twin
    rintro value _ rfl
    exact .ret rfl
  cases same with
  | createInstance actor instanceId typeId displayName config other multi enabled requestId veiled =>
      exact wrapped _ (twin_create actor instanceId typeId displayName multi enabled requestId veiled
        fun _ member => member)
  | updateInstance actor instanceId changes other requestId rest veiled =>
      exact wrapped _ (twin_update actor instanceId requestId rest veiled fun _ member => member)
  | updateLlm actor inference inference' embedding embedding' requestId first second =>
      exact wrapped _ (twin_update_llm settings actor requestId first second
        (fun _ member => List.mem_append_left _ member) fun _ member => List.mem_append_right _ member)
  | same =>
      cases call with
      | createInstance actor instanceId typeId displayName config multi enabled requestId =>
          exact wrapped _ (twin_create actor instanceId typeId displayName multi enabled requestId
            (veiled_refl _ config) fun _ member => member)
      | updateInstance actor instanceId changes requestId =>
          exact wrapped _ (twin_update actor instanceId requestId rfl (veiled_option_refl _ _)
            fun _ member => member)
      | deleteInstance actor instanceId requestId =>
          exact wrapped _ (twin_delete actor instanceId requestId)
      | listInstances => exact wrapped _ twin_list
      | getInstance instanceId => exact wrapped _ (twin_get instanceId)
      | updateLlm actor inference embedding requestId =>
          exact wrapped _ (twin_update_llm settings actor requestId (veiled_option_refl _ _)
            (veiled_option_refl _ _) (fun _ member => List.mem_append_left _ member)
            fun _ member => List.mem_append_right _ member)
      | getLlm => exact wrapped _ (twin_get_llm settings)
      | replaceMapping actor mapping requestId => exact wrapped _ (twin_replace settings actor mapping requestId)

variable {settings}

/-- A world is like itself when its rows hold no secret in the open. -/
theorem alike_start {recorded : AdminAuditEvent → AdminAuditEvent → Prop} {world : World N}
    (conform : AllConform settings world.store) :
    AlikeWorlds recorded world.store.audits world world := by
  refine ⟨rfl, ?_, ?_, [], [], (List.append_nil _).symm, (List.append_nil _).symm, .nil⟩
  · apply List.forall₂_same.mpr
    intro row member
    obtain ⟨spec, found, conforms⟩ := conform.rows row member
    refine ⟨rfl, entrywise_refl fun _ _ _ => Iff.rfl, ?_⟩
    intro key stored
    obtain ⟨field, listed, rfl⟩ := List.mem_map.mp (conforms.publicKeys key stored)
    have ⟨known, open_⟩ := List.mem_filter.mp listed
    exact public_open (registered_of_type found) known (by simpa using open_)
  · apply List.forall₂_same.mpr
    intro doc _
    exact entrywise_refl fun _ _ _ => ⟨rfl, fun _ => rfl⟩

/-- What the log of one run shows, the log of the other shows, but for the
fingerprints of the secrets some call of the sequence gave. -/
def SameLog (settings : Settings) (calls : List (AdminCall × AdminCall))
    (event other : AdminAuditEvent) : Prop :=
  ∃ pair ∈ calls, SameRecord settings (givenSecrets pair.1 pair.2) event other

theorem sequence_alike {outside : Outside N} (indifferent : Indifferent outside)
    {recorded : AdminAuditEvent → AdminAuditEvent → Prop} {base : List AdminAuditEvent}
    (calls : List (AdminCall × AdminCall))
    (same : ∀ pair ∈ calls, SameButSecrets pair.1 pair.2 ∧
      ∀ event other, SameRecord settings (givenSecrets pair.1 pair.2) event other →
        recorded event other)
    {world world' : World N} (alike : AlikeWorlds recorded base world world') :
    (administerAll settings outside (calls.map Prod.fst) world).1 =
        (administerAll settings outside (calls.map Prod.snd) world').1 ∧
      AlikeWorlds recorded base (administerAll settings outside (calls.map Prod.fst) world).2
        (administerAll settings outside (calls.map Prod.snd) world').2 := by
  induction calls generalizing world world' with
  | nil => exact ⟨rfl, alike⟩
  | cons pair rest ih =>
      have ⟨similar, logged⟩ := same pair List.mem_cons_self
      have ⟨answers, next⟩ := run_twin (paired_kept indifferent logged)
        (twin_administer settings similar) alike
      have ⟨replies, last⟩ := ih (fun other member => same other (List.mem_cons_of_mem _ member)) next
      refine ⟨?_, last⟩
      simp only [List.map_cons, administerAll]
      rw [eq_of_same_outcome answers, replies]

/-- Two runs of admin operations that differ in secrets answer the same and log
the same, but for fingerprints. -/
theorem secrets_stay_out {outside : Outside N} (indifferent : Indifferent outside)
    {start : World N} (conform : AllConform settings start.store)
    (calls : List (AdminCall × AdminCall)) (same : ∀ pair ∈ calls, SameButSecrets pair.1 pair.2) :
    (administerAll settings outside (calls.map Prod.fst) start).1 =
        (administerAll settings outside (calls.map Prod.snd) start).1 ∧
      ∃ added added',
        (administerAll settings outside (calls.map Prod.fst) start).2.store.audits =
            start.store.audits ++ added ∧
          (administerAll settings outside (calls.map Prod.snd) start).2.store.audits =
            start.store.audits ++ added' ∧
          List.Forall₂ (SameLog settings calls) added added' := by
  have each : ∀ pair ∈ calls, SameButSecrets pair.1 pair.2 ∧
      ∀ event other, SameRecord settings (givenSecrets pair.1 pair.2) event other →
        SameLog settings calls event other :=
    fun pair member => ⟨same pair member, fun event other recorded => ⟨pair, member, recorded⟩⟩
  have ⟨replies, alike⟩ := sequence_alike indifferent calls each (alike_start conform)
  exact ⟨replies, alike.audits⟩

/-! A sequence that can be run. -/

def teamsConfig (clientSecret : String) : Dict Json :=
  Dict.ofList [("tenant_id", .str "t"), ("client_id", .str "c"), ("client_secret", .str clientSecret)]

def openaiPayload (apiKey : String) : Dict Json :=
  Dict.ofList [("provider", .str "openai"), ("model", .str "gpt"), ("api_key", .str apiKey)]

def createTeams (clientSecret : String) : AdminCall :=
  .createInstance sampleUser "teams" "teams-graph" "Teams" (teamsConfig clientSecret) false true none

def useOpenai (apiKey : String) : AdminCall :=
  .updateLlm sampleUser (some (openaiPayload apiKey)) none none

def setUpTwice : List (AdminCall × AdminCall) :=
  [(createTeams "one", createTeams "two"), (useOpenai "first", useOpenai "second"),
    (.listInstances, .listInstances), (.getLlm, .getLlm)]

theorem teams_veiled (clientSecret other : String) (first : clientSecret ≠ "") (second : other ≠ "") :
    Entrywise (Veiled secretNames) (teamsConfig clientSecret) (teamsConfig other) := by
  have known : "client_secret" ∈ secretNames := by decide +kernel
  unfold teamsConfig
  apply entrywise_of_list
  apply List.Forall₂.cons ⟨rfl, .same _⟩
  apply List.Forall₂.cons ⟨rfl, .same _⟩
  exact .cons ⟨rfl, .secret _ _ known first second⟩ .nil

theorem openai_veiled (apiKey other : String) (first : apiKey ≠ "") (second : other ≠ "") :
    Entrywise (Veiled llmSecretNames) (openaiPayload apiKey) (openaiPayload other) := by
  have known : "api_key" ∈ llmSecretNames := by decide +kernel
  unfold openaiPayload
  apply entrywise_of_list
  apply List.Forall₂.cons ⟨rfl, .same _⟩
  apply List.Forall₂.cons ⟨rfl, .same _⟩
  exact .cons ⟨rfl, .secret _ _ known first second⟩ .nil

theorem set_up_same : ∀ pair ∈ setUpTwice, SameButSecrets pair.1 pair.2 := by
  have teams := teams_veiled "one" "two" (by decide) (by decide)
  have openai := openai_veiled "first" "second" (by decide) (by decide)
  intro pair member
  simp only [setUpTwice, List.mem_cons, List.not_mem_nil, or_false] at member
  rcases member with rfl | rfl | rfl | rfl
  · exact .createInstance _ _ _ _ _ _ _ _ _ teams
  · exact .updateLlm _ _ _ _ _ _ (.some openai) .none
  · exact .same _
  · exact .same _

/-- No instances yet, and the document that bootstrap writes. -/
def bootstrapped : World Unit :=
  ⟨{ Store.empty with llm := Configuring.configuredWorld.store.llm }, ()⟩

theorem sample_secrets_stay_out :
    (administerAll sampleSettings (Outside.still unreachable) (setUpTwice.map Prod.fst) bootstrapped).1 =
        (administerAll sampleSettings (Outside.still unreachable) (setUpTwice.map Prod.snd)
          bootstrapped).1 ∧
      ∃ added added',
        (administerAll sampleSettings (Outside.still unreachable) (setUpTwice.map Prod.fst)
            bootstrapped).2.store.audits = added ∧
          (administerAll sampleSettings (Outside.still unreachable) (setUpTwice.map Prod.snd)
            bootstrapped).2.store.audits = added' ∧
          List.Forall₂ (SameLog sampleSettings setUpTwice) added added' ∧ added.length = 2 := by
  have indifferent : Indifferent (Outside.still unreachable) := fun _ _ _ => ⟨rfl, rfl⟩
  have conform : AllConform sampleSettings bootstrapped.store := ⟨nofun, List.nodup_nil⟩
  obtain ⟨replies, added, added', first, second, same⟩ :=
    secrets_stay_out indifferent conform setUpTwice set_up_same
  refine ⟨replies, added, added', first, second, same, ?_⟩
  have logged : (administerAll sampleSettings (Outside.still unreachable) (setUpTwice.map Prod.fst)
      bootstrapped).2.store.audits.length = 2 := by
    decide +kernel
  rw [first] at logged
  exact logged

end Lehen.Secrecy
