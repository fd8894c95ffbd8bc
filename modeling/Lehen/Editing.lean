import Lehen.Footprint
import Lehen.LlmService
import Lehen.Overwriting

/-!
Concurrent edits of one instance, and of the two sides of the LLM configuration.
-/

namespace Lehen.Editing

open Storage Secrets OAuth Schedule Overwriting Footprint Registry
open IntegrationsService (Changes SplitConfig InstanceView splitFields splitChanges mergedDoc)
open ConnectionsService (revokeAllForInstance)
open Prog (yields_bind yields_perform_then yields_lift yields_require_then yields_mono only_bind
  only_mono only_when only_of_straight follows_lift_then follows_require_then follows_perform_then)

variable {N : Type} (settings : Settings)

/-- An envelope of the text under the master key. -/
def Seals (envelope text : String) : Prop :=
  ∃ nonce, encrypt settings.aead text settings.masterKey nonce = .ok envelope

theorem yields_encrypt (text : String) :
    (encryptFresh settings text settings.masterKey).Yields Quick
      fun envelope => Seals settings envelope text := by
  have quick : Quick (.tokenBytes nonceLen) := rfl
  apply yields_perform_then quick
  intro nonce
  exact yields_lift fun envelope sealed => ⟨nonce, sealed⟩

/-! Two updates of one instance. -/

/-- One call of `IntegrationsService.update`. -/
structure Edit where
  actor : AuditService.CurrentUser
  changes : Changes
  requestId : Option String

def serveEdit (instanceId : String) (edit : Edit) : Hub InstanceView :=
  IntegrationsService.update settings (revokeAllForInstance settings · · ·) edit.actor instanceId
    edit.changes edit.requestId

def SetsConfig (changes : Changes) (name : String) : Prop :=
  ∃ config value, changes.config = some config ∧ config.lookup name = some value ∧ value ≠ .null

/-- No field is set by both. -/
structure DisjointChanges (first second : Changes) : Prop where
  displayName : first.displayName = none ∨ second.displayName = none
  enabled : first.enabled = none ∨ second.enabled = none
  multiConnectionAllowed :
    first.multiConnectionAllowed = none ∨ second.multiConnectionAllowed = none
  config : ∀ name, SetsConfig first name → ¬ SetsConfig second name

def HasField (row : InstanceRow) (field : FieldSpec) (value : Json) : Prop :=
  if field.secret then
    ∃ envelope, row.configSecretsEncrypted.lookup field.name = some envelope ∧
      Seals settings envelope value.toStr
  else row.configPublic.lookup field.name = some value

/-- The document has every value the call sets. -/
structure Carries (changes : Changes) (row : InstanceRow) : Prop where
  displayName : ∀ name, changes.displayName = some name → row.displayName = name
  enabled : ∀ flag, changes.enabled = some flag → row.enabled = flag
  multiConnectionAllowed : ∀ flag, changes.multiConnectionAllowed = some flag →
    row.multiConnectionAllowed = flag
  config : ∀ config spec field value, changes.config = some config → getType row.type = .ok spec →
    field ∈ spec.fields → config.lookup field.name = some value → value ≠ .null →
    HasField settings row field value

/-- What the call does not set is as it was read. -/
structure Leaves (changes : Changes) (before row : InstanceRow) : Prop where
  id : row.id = before.id
  type : row.type = before.type
  displayName : changes.displayName = none → row.displayName = before.displayName
  enabled : changes.enabled = none → row.enabled = before.enabled
  multiConnectionAllowed : changes.multiConnectionAllowed = none →
    row.multiConnectionAllowed = before.multiConnectionAllowed
  config : ∀ name, ¬ SetsConfig changes name →
    row.configPublic.lookup name = before.configPublic.lookup name ∧
      row.configSecretsEncrypted.lookup name = before.configSecretsEncrypted.lookup name

theorem carries_left {first second : Changes} {before row : InstanceRow}
    (disjoint : DisjointChanges first second) (leaves : Leaves first before row)
    (carries : Carries settings second before) : Carries settings second row := by
  constructor
  · intro name sets
    rcases disjoint.displayName with free | unset
    · rw [leaves.displayName free]
      exact carries.displayName name sets
    · simp [sets] at unset
  · intro flag sets
    rcases disjoint.enabled with free | unset
    · rw [leaves.enabled free]
      exact carries.enabled flag sets
    · simp [sets] at unset
  · intro flag sets
    rcases disjoint.multiConnectionAllowed with free | unset
    · rw [leaves.multiConnectionAllowed free]
      exact carries.multiConnectionAllowed flag sets
    · simp [sets] at unset
  · intro config spec field value sets known member given present
    rw [leaves.type] at known
    have held := carries.config config spec field value sets known member given present
    have free : ¬ SetsConfig first field.name := fun other =>
      disjoint.config field.name other ⟨config, value, sets, given, present⟩
    unfold HasField at held ⊢
    rw [(leaves.config field.name free).1, (leaves.config field.name free).2]
    exact held

/-! What `_split_config` makes of a config. -/

/-- Every entry of the split is a value of the config. -/
structure Accurate (config : Dict Json) (split : SplitConfig) : Prop where
  publicFields : ∀ name value, split.publicFields.lookup name = some value →
    config.lookup name = some value ∧ value ≠ .null
  encrypted : ∀ name envelope, split.encrypted.lookup name = some envelope →
    ∃ value, config.lookup name = some value ∧ value ≠ .null ∧
      Seals settings envelope value.toStr

def Covered (config : Dict Json) (split : SplitConfig) (field : FieldSpec) : Prop :=
  ∀ value, config.lookup field.name = some value → value ≠ .null →
    if field.secret then field.name ∈ split.encrypted else field.name ∈ split.publicFields

structure Grown (before after : SplitConfig) : Prop where
  publicFields : ∀ name ∈ before.publicFields, name ∈ after.publicFields
  encrypted : ∀ name ∈ before.encrypted, name ∈ after.encrypted

theorem accurate_public {config : Dict Json} {split : SplitConfig} {name : String} {value : Json}
    (accurate : Accurate settings config split) (given : config.lookup name = some value)
    (present : value ≠ .null) :
    Accurate settings config
      { split with publicFields := split.publicFields.insert name value } := by
  constructor
  · intro other found entry
    by_cases same : other = name
    · subst same
      rw [AList.lookup_insert] at entry
      obtain rfl := Option.some.inj entry
      exact ⟨given, present⟩
    · rw [AList.lookup_insert_ne same] at entry
      exact accurate.publicFields other found entry
  · exact accurate.encrypted

theorem accurate_secret {config : Dict Json} {split : SplitConfig} {name envelope : String}
    {value : Json} {plaintext : Dict String} (accurate : Accurate settings config split)
    (given : config.lookup name = some value) (present : value ≠ .null)
    (seals : Seals settings envelope value.toStr) :
    Accurate settings config
      { split with encrypted := split.encrypted.insert name envelope, plaintext } := by
  constructor
  · exact accurate.publicFields
  · intro other found entry
    by_cases same : other = name
    · subst same
      rw [AList.lookup_insert] at entry
      obtain rfl := Option.some.inj entry
      exact ⟨value, given, present, seals⟩
    · rw [AList.lookup_insert_ne same] at entry
      exact accurate.encrypted other found entry

theorem yields_split_fields (config : Dict Json) (fields : List FieldSpec) (split : SplitConfig)
    (accurate : Accurate settings config split) :
    (splitFields settings config split fields).Yields Quick fun after =>
      Accurate settings config after ∧ Grown split after ∧
        ∀ field ∈ fields, Covered config after field := by
  -- Every field that is given ends up in one of the two parts, and none leaves it again.
  induction fields generalizing split with
  | nil => exact ⟨accurate, ⟨fun _ member => member, fun _ member => member⟩, nofun⟩
  | cons field rest ih =>
      apply yields_require_then
      intro _
      split
      · next missing =>
          apply yields_mono (ih split accurate)
          rintro after ⟨exact_, grown, covered⟩
          refine ⟨exact_, grown, List.forall_mem_cons.mpr ⟨?_, covered⟩⟩
          intro value given
          rw [missing] at given
          cases given
      · next isNull =>
          apply yields_mono (ih split accurate)
          rintro after ⟨exact_, grown, covered⟩
          refine ⟨exact_, grown, List.forall_mem_cons.mpr ⟨?_, covered⟩⟩
          intro value given present
          rw [isNull] at given
          exact absurd (Option.some.inj given).symm present
      · next value present given =>
          have nonnull : value ≠ .null := fun h => present h
          split
          · next secret =>
              apply yields_bind (yields_encrypt settings value.toStr)
              intro envelope seals
              apply yields_mono (ih _ (accurate_secret settings accurate given nonnull seals))
              rintro after ⟨exact_, grown, covered⟩
              have own : field.name ∈ after.encrypted :=
                grown.encrypted _ (AList.mem_insert _ |>.mpr (.inl rfl))
              refine ⟨exact_, ⟨grown.publicFields, fun name member => grown.encrypted name
                (AList.mem_insert _ |>.mpr (.inr member))⟩,
                List.forall_mem_cons.mpr ⟨?_, covered⟩⟩
              intro _ _ _
              rw [if_pos secret]
              exact own
          · next open_ =>
              apply yields_mono (ih _ (accurate_public settings accurate given nonnull))
              rintro after ⟨exact_, grown, covered⟩
              have own : field.name ∈ after.publicFields :=
                grown.publicFields _ (AList.mem_insert _ |>.mpr (.inl rfl))
              refine ⟨exact_, ⟨fun name member => grown.publicFields name
                (AList.mem_insert _ |>.mpr (.inr member)), grown.encrypted⟩,
                List.forall_mem_cons.mpr ⟨?_, covered⟩⟩
              intro _ _ _
              rw [if_neg open_]
              exact own

theorem yields_split_changes (spec : IntegrationType) (changes : Changes) :
    (splitChanges settings spec changes).Yields Quick fun split =>
      match changes.config with
      | none => split = ⟨∅, ∅, ∅⟩
      | some config => Accurate settings config split ∧
          ∀ field ∈ spec.fields, Covered config split field := by
  unfold splitChanges
  cases changes.config with
  | none => rfl
  | some config =>
      have start : Accurate settings config ⟨∅, ∅, ∅⟩ := by
        constructor
        · intro name value found
          rw [AList.lookup_empty] at found
          cases found
        · intro name envelope found
          rw [AList.lookup_empty] at found
          cases found
      apply yields_require_then
      intro _
      apply yields_mono (yields_split_fields settings config spec.fields _ start)
      rintro split ⟨accurate, _, covered⟩
      exact ⟨accurate, covered⟩

/-- A key the split has is one the call sets. -/
theorem sets_of_split {spec : IntegrationType} {changes : Changes} {split : SplitConfig}
    {name : String}
    (made : match changes.config with
      | none => split = ⟨∅, ∅, ∅⟩
      | some config => Accurate settings config split ∧
          ∀ field ∈ spec.fields, Covered config split field)
    (entry : name ∈ split.publicFields ∨ name ∈ split.encrypted) : SetsConfig changes name := by
  cases given : changes.config with
  | none =>
      simp only [given] at made
      subst made
      rcases entry with member | member
      · exact absurd member (AList.notMem_empty name)
      · exact absurd member (AList.notMem_empty name)
  | some config =>
      simp only [given] at made
      rcases entry with member | member
      · obtain ⟨value, found⟩ := Option.isSome_iff_exists.mp (AList.lookup_isSome.mpr member)
        obtain ⟨supplied, present⟩ := made.1.publicFields name value found
        exact ⟨config, value, given, supplied, present⟩
      · obtain ⟨envelope, found⟩ := Option.isSome_iff_exists.mp (AList.lookup_isSome.mpr member)
        obtain ⟨value, supplied, present, _⟩ := made.1.encrypted name envelope found
        exact ⟨config, value, given, supplied, present⟩

theorem merged_leaves {spec : IntegrationType} {changes : Changes} {split : SplitConfig}
    (before : InstanceRow) (updatedBy : String) (updatedAt : Time)
    (made : match changes.config with
      | none => split = ⟨∅, ∅, ∅⟩
      | some config => Accurate settings config split ∧
          ∀ field ∈ spec.fields, Covered config split field) :
    Leaves changes before (mergedDoc before changes split updatedBy updatedAt) := by
  constructor
  · rfl
  · rfl
  · intro unset
    simp [mergedDoc, unset]
  · intro unset
    simp [mergedDoc, unset]
  · intro unset
    simp [mergedDoc, unset]
  · intro name unset
    constructor
    · exact Dict.lookup_merge_old _ _ name fun member =>
        unset (sets_of_split settings made (.inl member))
    · exact Dict.lookup_merge_old _ _ name fun member =>
        unset (sets_of_split settings made (.inr member))

theorem merged_carries {spec : IntegrationType} {changes : Changes} {split : SplitConfig}
    {before : InstanceRow} (updatedBy : String) (updatedAt : Time)
    (known : getType before.type = .ok spec)
    (made : match changes.config with
      | none => split = ⟨∅, ∅, ∅⟩
      | some config => Accurate settings config split ∧
          ∀ field ∈ spec.fields, Covered config split field) :
    Carries settings changes (mergedDoc before changes split updatedBy updatedAt) := by
  constructor
  · intro name sets
    simp [mergedDoc, sets]
  · intro flag sets
    simp [mergedDoc, sets]
  · intro flag sets
    simp [mergedDoc, sets]
  · intro config other field value sets known' member given present
    have same : getType before.type = .ok other := known'
    rw [known] at same
    obtain rfl := Except.ok.inj same
    simp only [sets] at made
    have covered := made.2 field member value given present
    unfold HasField
    split at covered
    · rw [if_pos ‹_›]
      obtain ⟨envelope, found⟩ := Option.isSome_iff_exists.mp (AList.lookup_isSome.mpr covered)
      obtain ⟨value', given', _, seals⟩ := made.1.encrypted field.name envelope found
      rw [given] at given'
      obtain rfl := Option.some.inj given'
      exact ⟨envelope, (Dict.lookup_merge_new _ _ _ covered).trans found, seals⟩
    · rw [if_neg ‹_›]
      obtain ⟨value', found⟩ := Option.isSome_iff_exists.mp (AList.lookup_isSome.mpr covered)
      obtain ⟨given', _⟩ := made.1.publicFields field.name value' found
      rw [given] at given'
      obtain rfl := Option.some.inj given'
      exact (Dict.lookup_merge_new _ _ _ covered).trans found

/-- The stored document of an instance, under calls that update it. -/
def instanceCell (instanceId : String) : Cell Edit Op Op.Res PyError InstanceRow (World N) :=
  { document := fun world => world.store.instances.find? fun row => row.id = instanceId
    within := fun op =>
      match op with
      | .store (.insertInstance _) | .store (.deleteInstance _) => False
      | .store (.updateInstance id _) => id = instanceId
      | _ => True
    reads := fun op answer =>
      match op, answer with
      | .store (.selectInstance id), .ok rows => if id = instanceId then rows.head? else none
      | _, _ => none
    writes := fun op =>
      match op with
      | .store (.updateInstance _ row) => some row
      | _ => none
    edits := fun edit before row =>
      Leaves edit.changes before row ∧ Carries settings edit.changes row
    carries := fun edit row => Carries settings edit.changes row }

/-- The first row with an id, after rows with that id were overwritten. -/
theorem find_overwritten {α : Type} {matching : α → Bool} {rows : List α} {before doc : α}
    (found : rows.find? matching = some before) (same : matching doc = true) :
    (rows.map fun row => if matching row then doc else row).find? matching = some doc := by
  induction rows with
  | nil => cases found
  | cons row rest ih =>
      by_cases hit : matching row
      · simp [hit, same]
      · simp only [List.find?_cons, hit] at found
        simp [hit, ih found]

/-- A cell that is a document of the store: only statements show it or change it. -/
structure Tabled {Req Doc : Type} (cell : Cell Req Op Op.Res PyError Doc (World N)) (table : Store → Option Doc) :
    Prop where
  document : ∀ world, cell.document world = table world.store
  unread : ∀ op answer, (∀ statement, op ≠ .store statement) → cell.reads op answer = none
  unwritten : ∀ op, (∀ statement, op ≠ .store statement) → cell.writes op = none
  failed : ∀ statement error, cell.reads (.store statement) (.error error) = none
  shown : ∀ statement store doc,
    cell.reads (.store statement) (.ok (statement.apply store).1) = some doc → table store = some doc
  quiet : ∀ statement store, cell.within (.store statement) → cell.writes (.store statement) = none →
    table (statement.apply store).2 = table store
  stored : ∀ request statement store before doc, table store = some before → cell.within (.store statement) →
    cell.writes (.store statement) = some doc → cell.edits request before doc →
      table (statement.apply store).2 = some doc

theorem lawful_of_tabled {Req Doc : Type} {cell : Cell Req Op Op.Res PyError Doc (World N)}
    {table : Store → Option Doc} (tabled : Tabled cell table) (outside : Outside N) :
    cell.Lawful (exec outside) instant := by
  have still (op : Op) (world : World N) (other : ∀ statement, op ≠ .store statement) :
      cell.document (exec outside op world).2 = cell.document world := by
    rw [tabled.document, tabled.document, exec_elsewhere outside op world other]
  constructor
  · intro op world doc shown
    cases op with
    | store statement =>
        -- A statement that failed shows nothing.
        rcases exec_store outside statement world with ⟨error, answer, _⟩ | ⟨answer, _⟩
        · rw [answer, tabled.failed] at shown
          cases shown
        · rw [answer] at shown
          exact (tabled.document world).trans (tabled.shown statement world.store doc shown)
    | _ =>
        rw [tabled.unread _ _ fun statement same => by cases same] at shown
        cases shown
  · intro op world within idle
    cases op with
    | store statement =>
        rw [tabled.document, tabled.document]
        rcases exec_moves outside statement world with same | same
        · rw [same]
        · rw [same]
          exact tabled.quiet statement world.store within idle
    | _ => exact still _ world fun statement same => by cases same
  · intro request op world before doc present within writes edits
    cases op with
    | store statement =>
        rw [tabled.document] at present ⊢
        rw [tabled.document]
        have written := tabled.stored request statement world.store before doc present within writes edits
        rcases exec_store outside statement world with ⟨error, failed, same | same⟩ | ⟨_, same⟩
        · exact .inr ⟨by rw [same], error, failed⟩
        · exact .inl (by rw [same, written])
        · exact .inl (by rw [same, written])
    | _ =>
        -- What writes the document is a statement.
        rw [tabled.unwritten _ fun statement same => by cases same] at writes
        cases writes
  · intro op answer quick
    cases op with
    | store statement => cases quick
    | _ => exact tabled.unread _ answer fun statement same => by cases same

theorem instance_cell_tabled (instanceId : String) :
    Tabled (instanceCell settings instanceId : Cell Edit Op Op.Res PyError InstanceRow (World N))
      fun store => store.instances.find? fun row => row.id = instanceId where
  document _ := rfl
  unread := by
    intro op answer other
    cases op with
    | store statement => exact absurd rfl (other statement)
    | _ => rfl
  unwritten := by
    intro op other
    cases op with
    | store statement => exact absurd rfl (other statement)
    | _ => rfl
  failed := by
    intro statement error
    cases statement <;> rfl
  shown := by
    intro statement store doc shown
    cases statement with
    | selectInstance id =>
        simp only [instanceCell] at shown
        split at shown
        · next same =>
            subst same
            rw [← List.head?_filter]
            exact shown
        · cases shown
    | _ => cases shown
  quiet := by
    intro statement store within idle
    cases statement <;> first | exact (within : False).elim | rfl | cases idle
  stored := by
    intro edit statement store before doc present within writes edits
    cases statement with
    | updateInstance id row =>
        obtain rfl := Option.some.inj writes
        obtain rfl : id = instanceId := within
        have own : row.id = id := by
          rw [edits.1.id]
          simpa using List.find?_some present
        have after := find_overwritten present (decide_eq_true own)
        simp only [decide_eq_true_eq] at after
        exact after
    | _ => cases writes

theorem updating_idle {instanceId : String} (op : Op) (updating : Updating op) :
    (instanceCell settings instanceId : Cell Edit Op Op.Res PyError InstanceRow (World N)).within op ∧
      (instanceCell settings instanceId :
        Cell Edit Op Op.Res PyError InstanceRow (World N)).writes op = none := by
  cases op with
  | store statement =>
      cases statement <;> first | exact (updating : False).elim | exact ⟨trivial, rfl⟩
  | _ => exact ⟨trivial, rfl⟩

theorem updating_update_tail (event : AuditService.AuditEvent) (instanceId : String)
    (requestId : Option String) (condition : Prop) [Decidable condition] (view : InstanceView) :
    ((AuditService.record settings event).bind fun _ =>
      (Prog.when condition (revokeAllForInstance settings instanceId "revoked-by-admin-disable"
        requestId)).bind fun _ => .ret view).Only Updating := by
  apply only_bind (only_of_straight (logging_record ..) fun op logging =>
    updating_of_calm op (calm_of_quiet op (quiet_of_logging op logging)))
  intro _
  apply only_bind (only_when (only_mono (withdrawing_revoke_all ..) updating_of_withdrawing))
  exact fun _ => trivial

/-- An update writes what it makes of the row it read. -/
theorem edit_served (instanceId : String) (edit : Edit) :
    (savingProtocol
      (instanceCell settings instanceId : Cell Edit Op Op.Res PyError InstanceRow (World N))).Served
      (serveEdit settings instanceId) edit := by
  let cell : Cell Edit Op Op.Res PyError InstanceRow (World N) := instanceCell settings instanceId
  have quick (op : Op) (fast : Quick op) : cell.within op ∧ cell.writes op = none :=
    updating_idle settings op (updating_of_calm op (calm_of_quiet op (quiet_of_quick op fast)))
  have clock : Quick .clock := rfl
  have saves : Saves cell edit .fresh (serveEdit settings instanceId edit) := by
    unfold serveEdit IntegrationsService.update IntegrationsService.rawGet
    simp only [Prog.bind_eq, query, Prog.bind_assoc]
    apply saves_read_then trivial rfl
    · intro rows before shown
      have head : rows.head? = some before := by simpa [cell, instanceCell] using shown
      simp only [head, Prog.pure_eq, Prog.bind_ret]
      apply follows_lift_then
      · intro spec known
        apply follows_require_then
        · intro _
          -- Between the read and the write there are only clocks and random bytes.
          apply saves_held_then (yields_split_changes settings spec edit.changes) quick
          intro split made
          apply follows_perform_then
          · exact idle_allowed (quick _ clock).1 (quick _ clock).2
          · intro instant
            have within : cell.within (.store (.updateInstance instanceId
                (mergedDoc before edit.changes split edit.actor.username instant))) := rfl
            apply saves_write_then within rfl
            · exact ⟨merged_leaves settings before _ _ made, merged_carries settings _ _ known made⟩
            · intro _
              exact saves_wrote (updating_update_tail settings _ instanceId _ _ _)
                (updating_idle settings)
          · exact fun _ => nofun
        · exact fun _ => nofun
      · exact fun _ _ => nofun
    · intro rows missing
      have head : rows.head? = none := by simpa [cell, instanceCell] using missing
      simp only [head, fail, Prog.bind_raise]
      exact nofun
  exact saves

def storedInstance (instanceId : String) (world : World N) : Option InstanceRow :=
  world.store.instances.find? fun row => row.id = instanceId

/-- Two calls that begin from one world, after a schedule. -/
def editPool (instanceId : String) (outside : Outside N) (world : World N) (first second : Edit)
    (events : List (Event Edit)) : Pool (World N) Edit Op Op.Res PyError InstanceView :=
  (begun (serveEdit settings instanceId) world [first, second]).play (exec outside) instant
    (serveEdit settings instanceId) events

theorem disjoint_symm {first second : Changes} (disjoint : DisjointChanges first second) :
    DisjointChanges second first :=
  ⟨disjoint.displayName.symm, disjoint.enabled.symm, disjoint.multiConnectionAllowed.symm,
    fun name sets other => disjoint.config name other sets⟩

theorem edits_carried {instanceId : String} {outside : Outside N} {world : World N}
    {first second : Edit} {events : List (Event Edit)}
    (disjoint : DisjointChanges first.changes second.changes)
    (disciplined : Disciplined (exec outside) instant (serveEdit settings instanceId)
      (ReadsAlone (instanceCell settings instanceId))
      (begun (serveEdit settings instanceId) world [first, second]) events)
    (finished : ∀ task ∈ (editPool settings instanceId outside world first second events).tasks,
      Returned task) (edit : Edit) (member : edit ∈ [first, second]) :
    ∃ row, storedInstance instanceId
        (editPool settings instanceId outside world first second events).state = some row ∧
      Carries settings edit.changes row := by
  let cell : Cell Edit Op Op.Res PyError InstanceRow (World N) := instanceCell settings instanceId
  have forth : cell.Apart first second := fun before row edits =>
    carries_left settings disjoint edits.1
  have back : cell.Apart second first := fun before row edits =>
    carries_left settings (disjoint_symm disjoint) edits.1
  exact all_carried (lawful_of_tabled (instance_cell_tabled settings instanceId) outside) (fun _ _ _ edits => edits.2)
    world [first, second] events (edit_served settings instanceId) (apart_pair forth back)
    disciplined finished edit member

end Lehen.Editing
