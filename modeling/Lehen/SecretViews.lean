import Lehen.Markers
import Lehen.Patching

/-!
Whether a secret is set: what an instance lists, what the token endpoint is sent, and what
the log marked when the secret was last written.
-/

namespace Lehen.SecretViews

open Storage Secrets OAuth AuditService Registry IntegrationsService ConnectionsService Splitting Markers
open Editing (Seals)
open Patching (seals_decrypt row_of_overwritten)

variable {N : Type} (settings : Settings) (outside : Outside N)

/-- A call that writes an instance. -/
inductive Submission where
  | create (actor : CurrentUser) (instanceId typeId displayName : String) (config : Dict Json)
      (multiConnectionAllowed enabled : Bool) (requestId : Option String)
  | update (actor : CurrentUser) (instanceId : String) (changes : Changes) (requestId : Option String)

def submit : Submission → Hub InstanceView
  | .create actor instanceId typeId displayName config multi enabled requestId =>
      create settings actor instanceId typeId displayName config multi enabled requestId
  | .update actor instanceId changes requestId =>
      update settings (revokeAllForInstance settings · · ·) actor instanceId changes requestId

def Submission.instanceId : Submission → String
  | .create _ instanceId _ _ _ _ _ _ => instanceId
  | .update _ instanceId _ _ => instanceId

def Submission.config : Submission → Dict Json
  | .create _ _ _ _ config _ _ _ => config
  | .update _ _ changes _ => changes.config.getD ∅

/-- A world, and the marker of the last event that wrote the secret. -/
structure Progress (N : Type) where
  world : World N
  marker : Option Json

/-- Whether a call gives the field of the instance a value. -/
def Submission.writes (submission : Submission) (instanceId name : String) : Bool :=
  submission.instanceId = instanceId && (supplied submission.config name).isSome

/-- What is noted of a call that left a world. A call that is refused leaves no event. -/
def noted (instanceId name : String) (progress : Progress N) (submission : Submission) (after : World N) :
    Progress N :=
  { world := after
    marker :=
      if submission.writes instanceId name then
        match (after.store.audits.drop progress.world.store.audits.length).head? with
        | some event => markerOf name event.after
        | none => progress.marker
      else progress.marker }

def follow (instanceId name : String) (progress : Progress N) (submission : Submission) : Progress N :=
  noted instanceId name progress submission
    ((submit settings submission).run (exec outside) progress.world).2

/-- The stored envelope is there, and opens to a text that is not empty. -/
def Holds (row : InstanceRow) (name : String) : Prop :=
  ∃ envelope text, row.configSecretsEncrypted.lookup name = some envelope ∧
    decrypt settings.aead envelope settings.masterKey = .ok text ∧ text ≠ ""

def isSet : Json → Option Bool
  | .obj fields =>
      match fields.lookup "is_set" with
      | some (.bool flag) => some flag
      | _ => none
  | _ => none

/-- The three views of one secret. -/
structure Views (row : InstanceRow) (name : String) (marker : Option Json) : Prop where
  listed : name ∈ (renderForRead row).secretFieldsSet ↔ Holds settings row name
  unwritten : marker = none → ¬ Holds settings row name
  marked : ∀ shown, marker = some shown →
    ∃ flag, isSet shown = some flag ∧ (flag = true ↔ Holds settings row name)

def ViewsAgree (instanceId name : String) (progress : Progress N) : Prop :=
  ∀ row spec, rowOf instanceId progress.world.store = some row → getType row.type = .ok spec →
    name ∈ spec.secretFieldNames → Views settings row name progress.marker

/-- What is kept of a secret: it was never written, or it was written last with a text. -/
inductive Tracked (row : InstanceRow) (name : String) : Option Json → Prop
  | never (absent : row.configSecretsEncrypted.lookup name = none) : Tracked row name none
  | written (envelope text : String) (shown : Json)
      (found : row.configSecretsEncrypted.lookup name = some envelope)
      (seals : Seals settings envelope text) (filled : text ≠ "") (marked : isSet shown = some true) :
      Tracked row name (some shown)

structure Tracking (instanceId name : String) (progress : Progress N) : Prop where
  missing : rowOf instanceId progress.world.store = none → progress.marker = none
  present : ∀ row spec, rowOf instanceId progress.world.store = some row →
    getType row.type = .ok spec → name ∈ spec.secretFieldNames →
      Tracked settings row name progress.marker

variable {settings} {outside}

/-- The endpoint is sent a `client_secret` exactly if the instance holds one. -/
theorem sent_iff (row : InstanceRow) :
    (∃ text, clientSecretOf settings row = .ok text ∧ text ≠ "") ↔
      Holds settings row "client_secret" := by
  unfold clientSecretOf Holds
  cases row.configSecretsEncrypted.lookup "client_secret" with
  | none => simp
  | some envelope =>
      by_cases empty : envelope = ""
      · subst empty
        have broken (text : String) : decrypt settings.aead "" settings.masterKey ≠ .ok text := by
          rw [decrypt, if_pos settings.masterKeyLength]
          rintro ⟨⟩
        simp [broken]
      · simp [empty]

theorem listed_iff (row : InstanceRow) (name : String) :
    name ∈ (renderForRead row).secretFieldsSet ↔
      ∃ envelope, row.configSecretsEncrypted.lookup name = some envelope ∧ envelope ≠ "" := by
  simp only [renderForRead, List.mem_insertionSort, List.mem_map, List.mem_filter, decide_eq_true_eq]
  constructor
  · rintro ⟨⟨key, envelope⟩, ⟨member, filled⟩, rfl⟩
    exact ⟨envelope, AList.mem_lookup_iff.mpr member, filled⟩
  · rintro ⟨envelope, found, filled⟩
    exact ⟨⟨name, envelope⟩, ⟨AList.mem_lookup_iff.mp found, filled⟩, rfl⟩

theorem seals_filled {envelope text : String} (seals : Seals settings envelope text) : envelope ≠ "" := by
  obtain ⟨nonce, sealed⟩ := seals
  exact InstanceSecrets.envelope_nonempty settings sealed

theorem views_of_tracked (lawful : settings.aead.Lawful) {row : InstanceRow} {name : String}
    {marker : Option Json} (tracked : Tracked settings row name marker) :
    Views settings row name marker := by
  cases tracked with
  | never absent =>
      have empty : ¬ Holds settings row name := by
        rintro ⟨envelope, text, found, _⟩
        rw [absent] at found
        cases found
      refine ⟨iff_of_false ?_ empty, fun _ => empty, nofun⟩
      rw [listed_iff, absent]
      nofun
  | written envelope text shown found seals filled marked =>
      have holds : Holds settings row name := ⟨envelope, text, found, seals_decrypt lawful seals, filled⟩
      refine ⟨iff_of_true ?_ holds, nofun, ?_⟩
      · exact (listed_iff row name).mpr ⟨envelope, found, seals_filled seals⟩
      · rintro _ ⟨⟩
        exact ⟨true, marked, iff_of_true rfl holds⟩

theorem mark_set {text : String} {marked : Json} (filled : text ≠ "")
    (marks : markSecret settings (.str text) = .ok marked) : isSet marked = some true := by
  obtain ⟨digest, found⟩ := Masking.fingerprint_total settings text
  rw [Masking.mark_text settings filled found] at marks
  obtain rfl := Except.ok.inj marks
  rfl

/-! One call. -/

theorem noted_idle (instanceId name : String) (progress : Progress N) (submission : Submission)
    {after : World N} (idle : Idle progress.world.store after.store) :
    (noted instanceId name progress submission after).marker = progress.marker := by
  simp only [noted, idle.audits, List.drop_length, List.head?_nil, ite_self]

theorem noted_logged (instanceId name : String) (progress : Progress N) (submission : Submission)
    {after : World N} {entry : AdminAuditEvent}
    (audits : after.store.audits = progress.world.store.audits ++ [entry]) :
    (noted instanceId name progress submission after).marker =
      if submission.writes instanceId name then markerOf name entry.after else progress.marker := by
  simp only [noted, audits, List.drop_left, List.head?_cons]

theorem tracking_idle {instanceId name : String} {progress : Progress N} (submission : Submission)
    {after : World N} (idle : Idle progress.world.store after.store)
    (tracking : Tracking settings instanceId name progress) :
    Tracking settings instanceId name (noted instanceId name progress submission after) := by
  have same : rowOf instanceId after.store = rowOf instanceId progress.world.store := by
    rw [rowOf, rowOf, idle.instances]
  constructor
  · intro missing
    rw [noted_idle instanceId name progress submission idle]
    exact tracking.missing (same.symm.trans missing)
  · intro row spec found
    rw [noted_idle instanceId name progress submission idle]
    exact tracking.present row spec (same.symm.trans found)

/-- A call about another instance. -/
theorem tracking_elsewhere {instanceId name : String} {progress : Progress N} {submission : Submission}
    {after : World N} (other : submission.instanceId ≠ instanceId)
    (same : rowOf instanceId after.store = rowOf instanceId progress.world.store)
    (tracking : Tracking settings instanceId name progress) :
    Tracking settings instanceId name (noted instanceId name progress submission after) := by
  have kept : (noted instanceId name progress submission after).marker = progress.marker := by
    simp [noted, Submission.writes, other]
  constructor
  · intro missing
    rw [kept]
    exact tracking.missing (same.symm.trans missing)
  · intro row spec found
    rw [kept]
    exact tracking.present row spec (same.symm.trans found)

/-- A text that was given, in its envelope and in its marker. -/
theorem tracked_given {spec : IntegrationType} {config : Dict Json} {split : SplitConfig}
    {name : String} {value : Json} {under : Dict Json} {shown : Option (Dict Json)} {row : InstanceRow}
    (named : name ∈ spec.secretFieldNames)
    (splits : Splits settings (opened spec.fields config) (hidden spec.fields config) split)
    (given : supplied config name = some value) (filled : config.lookup name ≠ some (.str ""))
    (masks : maskSecrets settings (some (Dict.merge under (givenSecrets split))) spec.secretFieldNames =
      .ok shown)
    (stored : ∀ envelope, split.encrypted.lookup name = some envelope →
      row.configSecretsEncrypted.lookup name = some envelope) :
    Tracked settings row name (markerOf name shown) := by
  have ⟨found, present⟩ := supplied_given given
  have text : value.toStr ≠ "" := by
    apply Conforming.to_str_filled
    by_contra blank
    rw [Patching.blank_cases present (by simpa using blank)] at found
    exact filled found
  have plain : hidden spec.fields config name = some value.toStr := by
    rw [hidden_secret named, given]
    rfl
  obtain ⟨marked, marks, shows⟩ := given_marker named ((splits.plaintext name).trans plain) masks
  obtain ⟨envelope, looked, seals⟩ := sealed_some splits plain
  rw [shows]
  exact .written envelope value.toStr marked (stored envelope looked) seals text (mark_set text marks)

/-- A secret that was not given has no new envelope. -/
theorem sealed_missing {spec : IntegrationType} {config : Dict Json} {split : SplitConfig} {name : String}
    (named : name ∈ spec.secretFieldNames)
    (splits : Splits settings (opened spec.fields config) (hidden spec.fields config) split)
    (missing : supplied config name = none) : split.encrypted.lookup name = none := by
  apply sealed_none splits
  rw [hidden_secret named, missing]
  rfl

theorem row_of_inserted (instanceId : String) (store : Store) (doc : InstanceRow) :
    (store.instances ++ [doc]).find? (fun row => row.id = instanceId) =
      (rowOf instanceId store).or (if doc.id = instanceId then some doc else none) := by
  rw [List.find?_append, rowOf]
  congr 1
  by_cases own : doc.id = instanceId <;> simp [own]

/-- A create, however it ends. -/
theorem tracking_create (reliable : outside.Reliable) {name : String} {progress : Progress N}
    {actor : CurrentUser} {target typeId displayName : String} {config : Dict Json} {multi enabled : Bool}
    {requestId : Option String} {instanceId : String} {after : World N}
    {outcome : Except PyError InstanceView}
    (filled : target = instanceId → config.lookup name ≠ some (.str ""))
    (ends : Concludes settings (Creatable target typeId config multi progress.world.store)
      outside.Reliable True
      (Creates settings actor target typeId displayName config multi enabled requestId progress.world.store)
      progress.world.store outcome after.store)
    (tracking : Tracking settings instanceId name progress) :
    Tracking settings instanceId name (noted instanceId name progress
      (.create actor target typeId displayName config multi enabled requestId) after) := by
  cases ends with
  | refused error _ unfit idle => exact tracking_idle _ idle tracking
  | failed error _ faulty _ => exact absurd reliable faulty
  | unlogged write error _ faulty _ _ _ => exact absurd reliable faulty
  | logged write entry _ _ fit written instances audits recorded _ =>
      obtain ⟨spec, split, instant, known, free, splits, rfl⟩ := written
      have inserted := row_of_inserted instanceId progress.world.store
        (createDoc actor target typeId displayName multi enabled split instant)
      by_cases own : target = instanceId
      · subst own
        have row_ : rowOf target after.store =
            some (createDoc actor target typeId displayName multi enabled split instant) := by
          rw [rowOf, instances]
          simp only [createWrite]
          rw [inserted, free]
          simp [createDoc]
        constructor
        · intro missing
          rw [show rowOf target after.store = none from missing] at row_
          cases row_
        · intro row other found looked named
          rw [show rowOf target after.store = some row from found] at row_
          obtain rfl := Option.some.inj row_
          rw [show getType typeId = .ok other from looked] at known
          obtain rfl := Except.ok.inj known
          rw [noted_logged target name progress _ audits]
          cases given : supplied config name with
          | none =>
              have kept : Submission.writes (.create actor target typeId displayName config multi enabled
                  requestId) target name = false := by
                simp [Submission.writes, Submission.config, given]
              rw [kept, tracking.missing free]
              exact .never (sealed_missing named splits given)
          | some value =>
              have wrote : Submission.writes (.create actor target typeId displayName config multi enabled
                  requestId) target name = true := by
                simp [Submission.writes, Submission.config, Submission.instanceId, given]
              rw [wrote]
              exact tracked_given named splits given (filled rfl) recorded.after fun _ looked => looked
      · have other : (Submission.create actor target typeId displayName config multi enabled
            requestId).instanceId ≠ instanceId := own
        apply tracking_elsewhere other _ tracking
        rw [rowOf, instances]
        simp only [createWrite]
        rw [inserted, createDoc, if_neg own, Option.or_none]

/-- An update, however it ends. -/
theorem tracking_update (reliable : outside.Reliable) {name : String} {progress : Progress N}
    {actor : CurrentUser} {target : String} {changes : Changes} {requestId : Option String}
    {instanceId : String} {after : World N} {outcome : Except PyError InstanceView}
    {before : InstanceRow} {spec : IntegrationType} {accepts calm : Prop}
    (filled : target = instanceId → (changes.config.getD ∅).lookup name ≠ some (.str ""))
    (found : rowOf target progress.world.store = some before) (known : getType before.type = .ok spec)
    (ends : Concludes settings accepts outside.Reliable calm
      (Updates settings actor target changes requestId progress.world.store before spec)
      progress.world.store outcome after.store)
    (tracking : Tracking settings instanceId name progress) :
    Tracking settings instanceId name (noted instanceId name progress
      (.update actor target changes requestId) after) := by
  cases ends with
  | refused error _ unfit idle => exact tracking_idle _ idle tracking
  | failed error _ faulty _ => exact absurd reliable faulty
  | unlogged write error _ faulty _ _ _ => exact absurd reliable faulty
  | logged write entry _ _ fit written instances audits recorded _ =>
      obtain ⟨split, instant, splits, rfl⟩ := written
      by_cases own : target = instanceId
      · subst own
        -- The update is one of the instance in question, and its row is the written one.
        have row_ : rowOf target after.store =
            some (mergedDoc before changes split actor.username instant) := by
          rw [rowOf, instances]
          exact row_of_overwritten found rfl
        constructor
        · intro missing
          rw [show rowOf target after.store = none from missing] at row_
          cases row_
        · intro row other held looked named
          rw [show rowOf target after.store = some row from held] at row_
          obtain rfl := Option.some.inj row_
          rw [show getType before.type = .ok other from looked] at known
          obtain rfl := Except.ok.inj known
          rw [noted_logged target name progress _ audits]
          cases given : supplied (changes.config.getD ∅) name with
          | none =>
              have kept : Submission.writes (.update actor target changes requestId) target name = false := by
                simp [Submission.writes, Submission.config, given]
              rw [kept]
              -- The row keeps its envelope, so what was known of it still holds.
              have same : (mergedDoc before changes split actor.username instant).configSecretsEncrypted.lookup
                  name = before.configSecretsEncrypted.lookup name := by
                simp only [mergedDoc]
                rw [History.lookup_merge, sealed_missing named splits given, Option.none_or]
              have earlier := tracking.present before other found looked named
              generalize progress.marker = marker at earlier ⊢
              cases earlier with
              | never absent => exact .never (same.trans absent)
              | written envelope text shown there seals nonempty marked =>
                  exact .written envelope text shown (same.trans there) seals nonempty marked
          | some value =>
              have wrote : Submission.writes (.update actor target changes requestId) target name = true := by
                simp [Submission.writes, Submission.config, Submission.instanceId, given]
              rw [wrote]
              apply tracked_given named splits given (filled rfl) recorded.after
              intro envelope looked
              simp only [mergedDoc]
              rw [History.lookup_merge, looked, Option.some_or]
      · have other : (Submission.update actor target changes requestId).instanceId ≠ instanceId := own
        apply tracking_elsewhere other _ tracking
        have named : before.id = target := by simpa using List.find?_some found
        rw [rowOf, instances]
        exact History.find_elsewhere named (Ne.symm own)

theorem tracking_follow (reliable : outside.Reliable) {instanceId name : String} {progress : Progress N}
    {submission : Submission}
    (filled : submission.instanceId = instanceId → submission.config.lookup name ≠ some (.str ""))
    (tracking : Tracking settings instanceId name progress) :
    Tracking settings instanceId name (follow settings outside instanceId name progress submission) := by
  cases submission with
  | create actor target typeId displayName config multi enabled requestId =>
      exact tracking_create reliable filled (leaves_create actor target typeId displayName config multi
        enabled requestId progress.world) tracking
  | update actor target changes requestId =>
      by_cases known : ∃ before spec, rowOf target progress.world.store = some before ∧
          getType before.type = .ok spec
      · obtain ⟨before, spec, found, known⟩ := known
        exact tracking_update reliable filled found known (leaves_update actor found known) tracking
      · exact tracking_idle _ (leaves_unknown actor changes requestId known) tracking

theorem tracking_run (reliable : outside.Reliable) {instanceId name : String}
    (submissions : List Submission)
    (filled : ∀ submission ∈ submissions, submission.instanceId = instanceId →
      submission.config.lookup name ≠ some (.str "")) {progress : Progress N}
    (tracking : Tracking settings instanceId name progress) :
    Tracking settings instanceId name
      (submissions.foldl (follow settings outside instanceId name) progress) := by
  induction submissions generalizing progress with
  | nil => exact tracking
  | cons submission rest ih =>
      apply ih fun later member => filled later (List.mem_cons_of_mem _ member)
      exact tracking_follow reliable (filled submission List.mem_cons_self) tracking

/-- The views of a secret agree in every state that creates and updates reach, as long as
none of them gives it an empty text. -/
theorem views_agree (lawful : settings.aead.Lawful) (reliable : outside.Reliable) (instanceId name : String)
    (submissions : List Submission)
    (filled : ∀ submission ∈ submissions, submission.instanceId = instanceId →
      submission.config.lookup name ≠ some (.str "")) {world : World N}
    (fresh : world.store.instances = []) :
    ViewsAgree settings instanceId name
      (submissions.foldl (follow settings outside instanceId name) ⟨world, none⟩) := by
  have nothing : rowOf instanceId world.store = none := by
    rw [rowOf, fresh]
    rfl
  have start : Tracking settings instanceId name (⟨world, none⟩ : Progress N) := by
    refine ⟨fun _ => rfl, fun row spec found => ?_⟩
    rw [show rowOf instanceId world.store = some row from found] at nothing
    cases nothing
  intro row spec found known named
  have tracking := tracking_run reliable submissions filled start
  exact views_of_tracked lawful (tracking.present row spec found known named)

/-! A confidential client, and an app whose secret was emptied. -/

def appConfig (secret : String) : Dict Json :=
  Dict.ofList [("tenant_id", .str "t"), ("client_id", .str "c"), ("client_secret", .str secret)]

def appWith (secret : String) : Submission :=
  .create sampleUser "mail" "outlook-graph" "Mail" (appConfig secret) false true none

def created (secret : String) : Progress Unit :=
  [appWith secret].foldl
    (follow sampleSettings (Outside.still unreachable) "mail" "client_secret") ⟨⟨Store.empty, ()⟩, none⟩

/-- The app gets a name, and later another secret. -/
def rotated : Progress Unit :=
  [appWith "s3cret", .update sampleUser "mail" { displayName := some "Post" } none,
      .update sampleUser "mail" { config := some (appConfig "n3w") } none].foldl
    (follow sampleSettings (Outside.still unreachable) "mail" "client_secret") ⟨⟨Store.empty, ()⟩, none⟩

theorem rotated_agrees :
    ((rowOf "mail" rotated.world.store).map fun row => (row.displayName, clientSecretOf sampleSettings row)) =
        some ("Post", .ok "n3w") ∧
      ViewsAgree sampleSettings "mail" "client_secret" rotated := by
  refine ⟨rfl, ?_⟩
  apply views_agree tagging_aead_lawful (still_reliable unreachable)
  · intro submission member _
    simp only [List.mem_cons, List.not_mem_nil, or_false] at member
    rcases member with rfl | rfl | rfl
    · exact fun empty => absurd (Json.str.inj (Option.some.inj empty)) (by decide)
    · exact fun empty => by cases empty
    · exact fun empty => absurd (Json.str.inj (Option.some.inj empty)) (by decide)
  · rfl

/-- The instance lists a secret that opens to nothing, and that the log calls unset. -/
theorem emptied_disagree :
    ((rowOf "mail" (created "").world.store).map fun row => (renderForRead row).secretFieldsSet) =
        some ["client_secret"] ∧
      ((rowOf "mail" (created "").world.store).map (clientSecretOf sampleSettings)) = some (.ok "") ∧
      (created "").marker.map isSet = some (some false) ∧
        ¬ ViewsAgree sampleSettings "mail" "client_secret" (created "") := by
  have listed : ((rowOf "mail" (created "").world.store).map fun row =>
      (renderForRead row).secretFieldsSet) = some ["client_secret"] := rfl
  have opened : ((rowOf "mail" (created "").world.store).map (clientSecretOf sampleSettings)) =
      some (.ok "") := rfl
  refine ⟨listed, opened, rfl, fun agree => ?_⟩
  cases found : rowOf "mail" (created "").world.store with
  | none =>
      rw [found] at listed
      cases listed
  | some row =>
      rw [found] at listed opened
      have known : getType row.type = .ok outlookGraph := by
        cases found
        rfl
      have views := agree row outlookGraph found known (by decide)
      have shown : (renderForRead row).secretFieldsSet = ["client_secret"] := Option.some.inj listed
      have member : "client_secret" ∈ (renderForRead row).secretFieldsSet := by simp [shown]
      obtain ⟨text, sent, filled⟩ := (sent_iff row).mpr (views.listed.mp member)
      rw [Option.some.inj opened] at sent
      exact filled (Except.ok.inj sent).symm

end Lehen.SecretViews
