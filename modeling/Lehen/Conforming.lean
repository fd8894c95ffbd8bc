import Lehen.Editing
import Lehen.Keeping

/-!
Stored instances conform to the registry. Validation looks at the config that
comes in, and storage lays it over what is there.
-/

namespace Lehen.Conforming

open Storage OAuth AuditService Registry IntegrationsService ConnectionsService Footprint Keeping
open Editing (Seals Accurate Covered yields_encrypt yields_split_fields)
open Prog (yields_bind yields_mono yields_require_then yields_and only_bind only_perform only_mono
  only_of_straight)

variable {N : Type} (settings : Settings)

/-- What an instance has to meet under the entry of its type. -/
structure Conforms (spec : IntegrationType) (row : InstanceRow) : Prop where
  publicKeys : ∀ name ∈ row.configPublic, name ∈ spec.publicFieldNames
  secretKeys : ∀ name ∈ row.configSecretsEncrypted, name ∈ spec.secretFieldNames
  publicRequired : ∀ field ∈ spec.fields, field.required = true → field.secret = false →
    ∃ value, row.configPublic.lookup field.name = some value ∧ value.isBlank = false
  secretRequired : ∀ field ∈ spec.fields, field.required = true → field.secret = true →
    ∃ envelope text, row.configSecretsEncrypted.lookup field.name = some envelope ∧
      Seals settings envelope text ∧ text ≠ ""
  multi : row.multiConnectionAllowed = true → spec.connectionCardinality = .multi

/-- Every instance conforms to the entry of its type, and ids are unique. -/
structure AllConform (store : Store) : Prop where
  rows : ∀ row ∈ store.instances, ∃ spec, getType row.type = .ok spec ∧ Conforms settings spec row
  ids : (store.instances.map InstanceRow.id).Nodup

/-! What a split config has of the fields it was made over. -/

structure Sound (fields : List FieldSpec) (split : SplitConfig) : Prop where
  publicKeys : ∀ name ∈ split.publicFields, ∃ field ∈ fields, field.secret = false ∧ field.name = name
  secretKeys : ∀ name ∈ split.encrypted, ∃ field ∈ fields, field.secret = true ∧ field.name = name

theorem sound_empty (fields : List FieldSpec) : Sound fields ⟨∅, ∅, ∅⟩ :=
  ⟨fun name member => absurd member (AList.notMem_empty name),
    fun name member => absurd member (AList.notMem_empty name)⟩

theorem sound_public {fields : List FieldSpec} {split : SplitConfig} {field : FieldSpec}
    (sound : Sound fields split) (known : field ∈ fields) (open_ : field.secret = false)
    (value : Json) :
    Sound fields { split with publicFields := split.publicFields.insert field.name value } := by
  constructor
  · intro name member
    rcases (AList.mem_insert _).mp member with rfl | earlier
    · exact ⟨field, known, open_, rfl⟩
    · exact sound.publicKeys name earlier
  · exact sound.secretKeys

theorem sound_secret {fields : List FieldSpec} {split : SplitConfig} {field : FieldSpec}
    {plaintext : Dict String} (sound : Sound fields split) (known : field ∈ fields)
    (secret : field.secret = true) (envelope : String) :
    Sound fields
      { split with encrypted := split.encrypted.insert field.name envelope, plaintext } := by
  constructor
  · exact sound.publicKeys
  · intro name member
    rcases (AList.mem_insert _).mp member with rfl | earlier
    · exact ⟨field, known, secret, rfl⟩
    · exact sound.secretKeys name earlier

/-- The loop puts every value on the side its field says, and passes no required
field without a value. -/
theorem yields_sound (config : Dict Json) (all : List FieldSpec) (fields : List FieldSpec)
    (split : SplitConfig) (inside : ∀ field ∈ fields, field ∈ all) (sound : Sound all split) :
    (splitFields settings config split fields).Yields Quick fun after =>
      Sound all after ∧ ∀ field ∈ fields, field.required = true →
        ((config.lookup field.name).getD .null).isBlank = false := by
  induction fields generalizing split with
  | nil => exact ⟨sound, nofun⟩
  | cons field rest ih =>
      have known := inside field List.mem_cons_self
      have later : ∀ other ∈ rest, other ∈ all := fun other member =>
        inside other (List.mem_cons_of_mem _ member)
      apply yields_require_then
      intro filled
      -- The rest of the loop adds the later fields to what is known of this one.
      have onward {split : SplitConfig} (sound : Sound all split) :
          (splitFields settings config split rest).Yields Quick fun after =>
            Sound all after ∧ ∀ other ∈ field :: rest, other.required = true →
              ((config.lookup other.name).getD .null).isBlank = false := by
        apply yields_mono (ih split later sound)
        rintro after ⟨sound, required⟩
        refine ⟨sound, List.forall_mem_cons.mpr ⟨?_, required⟩⟩
        intro needed
        simpa [needed] using filled
      split
      · exact onward sound
      · exact onward sound
      · split
        · next secret =>
            apply yields_bind (yields_encrypt settings _)
            intro envelope _
            exact onward (sound_secret sound known secret envelope)
        · next open_ =>
            exact onward (sound_public sound known (by simpa using open_) _)

/-- A value that is not blank has a text. -/
theorem to_str_filled {value : Json} (filled : value.isBlank = false) : value.toStr ≠ "" := by
  cases value with
  | null => cases filled
  | bool flag => cases flag <;> decide
  | int number =>
      cases number with
      | ofNat magnitude => exact Nat.repr_ne_empty
      | negSucc magnitude =>
          intro empty
          have chars := congrArg String.toList empty
          simp [Json.toStr, Json.repr, toString, Int.repr] at chars
  | float number =>
      intro empty
      have spelled := number.spelled
      rw [show number.repr = "" from empty] at spelled
      cases spelled
  | str text => simpa [Json.isBlank] using filled
  | arr items => simp [Json.toStr, Json.repr]
  | obj fields => simp [Json.toStr, Json.repr]

/-- Every required field has a value, on its side. -/
structure Filled (spec : IntegrationType) (split : SplitConfig) : Prop where
  publicFields : ∀ field ∈ spec.fields, field.required = true → field.secret = false →
    ∃ value, split.publicFields.lookup field.name = some value ∧ value.isBlank = false
  encrypted : ∀ field ∈ spec.fields, field.required = true → field.secret = true →
    ∃ envelope text, split.encrypted.lookup field.name = some envelope ∧
      Seals settings envelope text ∧ text ≠ ""

theorem filled_of_covered {spec : IntegrationType} {config : Dict Json} {split : SplitConfig}
    (accurate : Accurate settings config split)
    (covered : ∀ field ∈ spec.fields, Covered config split field)
    (required : ∀ field ∈ spec.fields, field.required = true →
      ((config.lookup field.name).getD .null).isBlank = false) : Filled settings spec split := by
  -- A required field is in the config, with a value that is not blank.
  have given (field : FieldSpec) (known : field ∈ spec.fields) (needed : field.required = true) :
      ∃ value, config.lookup field.name = some value ∧ value ≠ .null ∧ value.isBlank = false := by
    have filled := required field known needed
    cases found : config.lookup field.name with
    | none => simp [found, Json.isBlank] at filled
    | some value =>
        rw [found] at filled
        refine ⟨value, rfl, ?_, filled⟩
        rintro rfl
        cases filled
  constructor
  · intro field known needed open_
    obtain ⟨value, supplied, present, filled⟩ := given field known needed
    have member := covered field known value supplied present
    rw [if_neg (by simp [open_])] at member
    obtain ⟨stored, found⟩ := Option.isSome_iff_exists.mp (AList.lookup_isSome.mpr member)
    have same := (accurate.publicFields field.name stored found).1
    rw [supplied] at same
    cases same
    exact ⟨value, found, filled⟩
  · intro field known needed secret
    obtain ⟨value, supplied, present, filled⟩ := given field known needed
    have member := covered field known value supplied present
    rw [if_pos secret] at member
    obtain ⟨envelope, found⟩ := Option.isSome_iff_exists.mp (AList.lookup_isSome.mpr member)
    obtain ⟨source, same, _, seals⟩ := accurate.encrypted field.name envelope found
    rw [supplied] at same
    cases same
    exact ⟨envelope, value.toStr, found, seals, to_str_filled filled⟩

theorem yields_split_config (spec : IntegrationType) (config : Dict Json) :
    (splitConfig settings spec config).Yields Quick fun split =>
      Sound spec.fields split ∧ Filled settings spec split := by
  apply yields_require_then
  intro _
  have start : Accurate settings config ⟨∅, ∅, ∅⟩ := by
    constructor
    · intro name value found
      rw [AList.lookup_empty] at found
      cases found
    · intro name envelope found
      rw [AList.lookup_empty] at found
      cases found
  apply yields_mono (yields_and (yields_split_fields settings config spec.fields _ start)
    (yields_sound settings config spec.fields spec.fields _ (fun _ member => member)
      (sound_empty _)))
  rintro split ⟨⟨accurate, _, covered⟩, sound, required⟩
  exact ⟨sound, filled_of_covered settings accurate covered required⟩

theorem yields_changes (spec : IntegrationType) (changes : Changes) :
    (splitChanges settings spec changes).Yields Quick fun split =>
      split = ⟨∅, ∅, ∅⟩ ∨ Sound spec.fields split ∧ Filled settings spec split := by
  unfold splitChanges
  cases changes.config with
  | none => exact .inl rfl
  | some config =>
      exact yields_mono (yields_split_config settings spec config) fun split both => .inr both

/-! The documents that are written. -/

theorem public_name {spec : IntegrationType} {field : FieldSpec} (known : field ∈ spec.fields)
    (open_ : field.secret = false) : field.name ∈ spec.publicFieldNames :=
  List.mem_map_of_mem (List.mem_filter.mpr ⟨known, by simp [open_]⟩)

theorem secret_name {spec : IntegrationType} {field : FieldSpec} (known : field ∈ spec.fields)
    (secret : field.secret = true) : field.name ∈ spec.secretFieldNames :=
  List.mem_map_of_mem (List.mem_filter.mpr ⟨known, secret⟩)

theorem conforms_created {spec : IntegrationType} {split : SplitConfig} {row : InstanceRow}
    (sound : Sound spec.fields split) (filled : Filled settings spec split)
    (publicFields : row.configPublic = split.publicFields)
    (encrypted : row.configSecretsEncrypted = split.encrypted)
    (multi : row.multiConnectionAllowed = true → spec.connectionCardinality = .multi) :
    Conforms settings spec row := by
  constructor
  · intro name member
    rw [publicFields] at member
    obtain ⟨field, known, open_, rfl⟩ := sound.publicKeys name member
    exact public_name known open_
  · intro name member
    rw [encrypted] at member
    obtain ⟨field, known, secret, rfl⟩ := sound.secretKeys name member
    exact secret_name known secret
  · rw [publicFields]
    exact filled.publicFields
  · rw [encrypted]
    exact filled.encrypted
  · exact multi

theorem conforms_merged {spec : IntegrationType} {split : SplitConfig} {before : InstanceRow}
    {changes : Changes} (updatedBy : String) (updatedAt : Time)
    (conforms : Conforms settings spec before)
    (made : split = ⟨∅, ∅, ∅⟩ ∨ Sound spec.fields split ∧ Filled settings spec split)
    (multi : changes.multiConnectionAllowed.getD false = true →
      spec.connectionCardinality = .multi) :
    Conforms settings spec (mergedDoc before changes split updatedBy updatedAt) := by
  have allowed : (mergedDoc before changes split updatedBy updatedAt).multiConnectionAllowed = true →
      spec.connectionCardinality = .multi := by
    cases given : changes.multiConnectionAllowed with
    | none =>
        intro kept
        simp only [mergedDoc, given, Option.getD_none] at kept
        exact conforms.multi kept
    | some flag =>
        intro kept
        simp only [mergedDoc, given, Option.getD_some] at kept
        exact multi (by rw [given]; exact kept)
  rcases made with rfl | ⟨sound, filled⟩
  · -- An update without a config leaves both parts as they were.
    have same {β : Type} (old : Dict β) : Dict.merge old ∅ = old := AList.empty_union
    constructor
    · intro name member
      simp only [mergedDoc, same] at member
      exact conforms.publicKeys name member
    · intro name member
      simp only [mergedDoc, same] at member
      exact conforms.secretKeys name member
    · simp only [mergedDoc, same]
      exact conforms.publicRequired
    · simp only [mergedDoc, same]
      exact conforms.secretRequired
    · exact allowed
  · constructor
    · intro name member
      -- A key of the merged part comes from the split or from the row before.
      rcases AList.mem_union.mp member with added | kept
      · obtain ⟨field, known, open_, rfl⟩ := sound.publicKeys name added
        exact public_name known open_
      · exact conforms.publicKeys name kept
    · intro name member
      rcases AList.mem_union.mp member with added | kept
      · obtain ⟨field, known, secret, rfl⟩ := sound.secretKeys name added
        exact secret_name known secret
      · exact conforms.secretKeys name kept
    · intro field known needed open_
      obtain ⟨value, found, present⟩ := filled.publicFields field known needed open_
      refine ⟨value, ?_, present⟩
      have added : field.name ∈ split.publicFields :=
        AList.lookup_isSome.mp (Option.isSome_iff_exists.mpr ⟨value, found⟩)
      exact (Dict.lookup_merge_new _ _ _ added).trans found
    · intro field known needed secret
      obtain ⟨envelope, text, found, seals, nonempty⟩ := filled.encrypted field known needed secret
      refine ⟨envelope, text, ?_, seals, nonempty⟩
      have added : field.name ∈ split.encrypted :=
        AList.lookup_isSome.mp (Option.isSome_iff_exists.mpr ⟨envelope, found⟩)
      exact (Dict.lookup_merge_new _ _ _ added).trans found
    · exact allowed

/-! Requests. Only two of them write an instance. -/

/-- No instance is written, though one may go. -/
def Shrinking : Op → Prop
  | .store (.insertInstance _) | .store (.updateInstance _ _) => False
  | _ => True

theorem shrinking_of_diminishing (op : Op) (diminishing : Diminishing op) : Shrinking op := by
  cases op with
  | store statement => cases statement <;> trivial
  | _ => trivial

theorem shrinking_of_asking (op : Op) (asking : Asking op) : Shrinking op :=
  shrinking_of_diminishing op
    (diminishing_of_updating op (updating_of_calm op (calm_of_asking op asking)))

theorem shrinking_of_logging (op : Op) (logging : Logging op) : Shrinking op :=
  shrinking_of_diminishing op (diminishing_of_logging op logging)

theorem shrinking_of_quick (op : Op) (quick : Quick op) : Shrinking op :=
  shrinking_of_asking op (asking_of_quick op quick)

variable {settings}

theorem conform_shrinking (outside : Outside N) (op : Op) (world : World N) (shrinking : Shrinking op)
    (conform : AllConform settings world.store) :
    AllConform settings (exec outside op world).2.store := by
  cases op with
  | store statement =>
      rcases exec_moves outside statement world with same | same
      · rw [same]
        exact conform
      · rw [same]
        cases statement with
        | insertInstance row => exact shrinking.elim
        | updateInstance id row => exact shrinking.elim
        | deleteInstance id =>
            constructor
            · intro row member
              exact conform.rows row (List.mem_of_mem_filter member)
            · exact conform.ids.sublist ((List.filter_sublist).map _)
        | _ => exact ⟨conform.rows, conform.ids⟩
  | _ =>
      rw [exec_elsewhere outside _ world (fun statement same => by cases same)]
      exact conform

theorem conform_only {α : Type} {outside : Outside N} {world : World N} {body : Hub α}
    (shrinking : body.Only Shrinking) (conform : AllConform settings world.store) :
    Prog.Leaves (exec outside) body world fun _ after => AllConform settings after.store :=
  Prog.leaves_only _ shrinking conform fun op state fits held =>
    conform_shrinking outside op state fits held

theorem shrinking_grant (user : CurrentUser) (instanceId privacyClass externalSubject displayLabel
    : String) (requestId : Option String) :
    (grant settings user instanceId privacyClass externalSubject displayLabel requestId).Only
      Shrinking := by
  apply only_bind (only_mono (asking_gates ..) shrinking_of_asking)
  intro _
  apply only_bind (only_mono (asking_unconnected ..) shrinking_of_asking)
  intro _
  apply only_bind (only_mono (asking_seq ..) shrinking_of_asking)
  intro seq
  refine only_bind (only_perform trivial) fun instant => only_bind (only_perform trivial) fun _ => ?_
  exact only_bind (only_of_straight (logging_record_consent ..) shrinking_of_logging) fun _ => trivial

theorem shrinking_complete (user : CurrentUser) (instanceId code state : String)
    (requestId : Option String) :
    (completeGrant settings user instanceId code state requestId).Only Shrinking := by
  apply only_bind (only_mono (asking_authorize ..) shrinking_of_asking)
  intro granted
  apply only_bind (only_mono (asking_unconnected ..) shrinking_of_asking)
  intro _
  apply only_bind (only_mono (asking_seq ..) shrinking_of_asking)
  intro seq
  refine only_bind (only_perform trivial) fun instant => ?_
  apply only_bind (only_of_straight (quick_encrypt ..) shrinking_of_quick)
  intro encrypted
  refine only_bind (only_perform trivial) fun _ => ?_
  exact only_bind (only_of_straight (logging_record_consent ..) shrinking_of_logging) fun _ => trivial

/-- The flag is refused on a type that takes one connection only. -/
theorem refuse_then {α : Type} {outside : Outside N} {world : World N} {spec : IntegrationType}
    {multi : Bool} {rest : Unit → Hub α} {post : Except PyError α → World N → Prop}
    (allowed : (multi = true → spec.connectionCardinality = .multi) →
      Prog.Leaves (exec outside) (rest ()) world post)
    (refused : ∀ error, post (.error error) world) :
    Prog.Leaves (exec outside) ((refuseMultiOnSingle spec multi).bind rest) world post := by
  apply Prog.leaves_require_then
  · intro free
    apply allowed
    intro flag
    cases cardinality : spec.connectionCardinality with
    | single => exact absurd ⟨cardinality, flag⟩ free
    | multi => rfl
  · exact fun _ => refused _

theorem quick_store (outside : Outside N) {store : Store} (op : Op) (world : World N) (quick : Quick op)
    (same : world.store = store) : (exec outside op world).2.store = store :=
  (asking_store outside op world (asking_of_quick op quick)).trans same

/-- A new instance conforms, and its id was looked up first. -/
theorem conform_insert {store : Store} {row : InstanceRow} {spec : IntegrationType}
    (conform : AllConform settings store) (known : getType row.type = .ok spec)
    (absent : (store.instances.filter fun other => other.id = row.id).isEmpty = true)
    (conforms : Conforms settings spec row) :
    AllConform settings { store with instances := store.instances ++ [row] } := by
  constructor
  · intro other member
    rcases List.mem_append.mp member with earlier | last
    · exact conform.rows other earlier
    · rw [List.mem_singleton.mp last]
      exact ⟨spec, known, conforms⟩
  · have fresh : row.id ∉ store.instances.map InstanceRow.id := by
      intro taken
      obtain ⟨other, member, same⟩ := List.mem_map.mp taken
      have found : other ∈ store.instances.filter fun other => other.id = row.id :=
        List.mem_filter.mpr ⟨member, by simp [same]⟩
      rw [List.isEmpty_iff.mp absent] at found
      cases found
    simpa [List.nodup_append, conform.ids] using fresh

/-- A conforming document takes the place of the row with its id. -/
theorem conform_update {store : Store} {row : InstanceRow} {spec : IntegrationType}
    (conform : AllConform settings store) (known : getType row.type = .ok spec)
    (conforms : Conforms settings spec row) :
    AllConform settings { store with
      instances := store.instances.map fun other => if other.id = row.id then row else other } := by
  constructor
  · intro other member
    obtain ⟨old, present, rfl⟩ := List.mem_map.mp member
    split
    · exact ⟨spec, known, conforms⟩
    · exact conform.rows old present
  · have same : (store.instances.map fun other => if other.id = row.id then row else other).map
        InstanceRow.id = store.instances.map InstanceRow.id := by
      rw [List.map_map]
      apply List.map_congr_left
      intro other _
      by_cases hit : other.id = row.id <;> simp [hit]
    rw [same]
    exact conform.ids

theorem conform_create (outside : Outside N) (world : World N) (actor : CurrentUser)
    (instanceId typeId displayName : String) (config : Dict Json)
    (multiConnectionAllowed enabled : Bool) (requestId : Option String)
    (conform : AllConform settings world.store) :
    Prog.Leaves (exec outside) (create settings actor instanceId typeId displayName config
      multiConnectionAllowed enabled requestId) world
      fun _ after => AllConform settings after.store := by
  apply Prog.leaves_lift_then
  · intro spec found
    have known := type_of_reworded found
    apply refuse_then
    · intro multi
      apply leaves_read_then rfl
      · intro error after _ same
        rw [same]
        exact conform
      · intro after store
        apply Prog.leaves_require_then
        · intro absent
          apply Prog.leaves_yields_then (fun state => state.store = world.store)
            (yields_split_config settings spec config) store
          · exact fun op state quick held => quick_store outside op state quick held
          · rintro split before ⟨sound, filled⟩ held
            rw [Prog.bind_eq, now, Prog.leaves_bind, Prog.leaves_perform]
            have ticked : (exec outside .clock before).2.store = world.store := held
            refine leaves_kept_then (AllConform settings) ?_ ?_ fun last written => ?_
            · rw [ticked]
              exact conform
            · -- The id was free, so no other row has it.
              rw [ticked]
              exact conform_insert conform known absent
                (conforms_created settings sound filled rfl rfl multi)
            · apply conform_only _ written
              exact only_bind (only_of_straight (logging_record ..) shrinking_of_logging)
                fun _ => trivial
          · intro error last held
            rw [held]
            exact conform
        · intro _
          rw [store]
          exact conform
    · exact fun _ => conform
  · exact fun _ _ => conform

theorem conform_edit (outside : Outside N) (world : World N) (actor : CurrentUser)
    (instanceId : String) (changes : Changes) (requestId : Option String)
    (conform : AllConform settings world.store) :
    Prog.Leaves (exec outside) (update settings (revokeAllForInstance settings · · ·) actor instanceId
      changes requestId) world fun _ after => AllConform settings after.store := by
  apply leaves_raw_get_then
  · intro error after same
    rw [same]
    exact conform
  · intro before after member named same
    obtain ⟨spec, known, conforms⟩ := conform.rows before member
    apply Prog.leaves_lift_then
    · intro found looked
      rw [known] at looked
      cases looked
      apply refuse_then
      · intro multi
        apply Prog.leaves_yields_then (fun state => state.store = world.store)
          (yields_changes settings spec changes) same
        · exact fun op state quick held => quick_store outside op state quick held
        · intro split middle made held
          rw [Prog.bind_eq, now, Prog.leaves_bind, Prog.leaves_perform]
          have ticked : (exec outside .clock middle).2.store = world.store := held
          refine leaves_kept_then (AllConform settings) ?_ ?_ fun last written => ?_
          · rw [ticked]
            exact conform
          · -- The written row conforms to the type of the row that was read.
            have merged := conforms_merged settings actor.username
              (outside.clock middle.outside).1 conforms made multi
            have typed : getType (mergedDoc before changes split actor.username
              (outside.clock middle.outside).1).type = .ok spec := known
            have updated := conform_update conform typed merged
            rw [ticked, ← named]
            exact updated
          · apply conform_only _ written
            apply only_bind (only_of_straight (logging_record ..) shrinking_of_logging)
            intro _
            apply only_bind (Prog.only_when (only_mono (withdrawing_revoke_all ..) fun op fits =>
              shrinking_of_diminishing op
                (diminishing_of_updating op (updating_of_withdrawing op fits))))
            exact fun _ => trivial
        · intro error last held
          rw [held]
          exact conform
      · intro _
        rw [same]
        exact conform
    · intro _ _
      rw [same]
      exact conform

/-- Every request keeps the instances conforming. -/
theorem conform_request (settings : Settings) (outside : Outside N) (world : World N)
    (request : Request) (conform : AllConform settings world.store) :
    AllConform settings ((serve settings request).run (exec outside) world).2.store := by
  have bystander (stands : Bystander request) :
      AllConform settings ((serve settings request).run (exec outside) world).2.store :=
    conform_only (only_mono (updating_bystander settings request stands) fun op updating =>
      shrinking_of_diminishing op (diminishing_of_updating op updating)) conform
  cases request with
  | createInstance actor instanceId typeId displayName config multi enabled requestId =>
      exact Prog.leaves_drop (conform_create outside world actor instanceId typeId displayName config
        multi enabled requestId conform)
  | updateInstance actor instanceId changes requestId =>
      exact Prog.leaves_drop (conform_edit outside world actor instanceId changes requestId conform)
  | deleteInstance actor instanceId requestId =>
      exact conform_only (only_mono (diminishing_delete ..) shrinking_of_diminishing) conform
  | replaceMapping actor mapping requestId =>
      exact conform_only (only_drop (only_mono (diminishing_replace ..) shrinking_of_diminishing))
        conform
  | grant user instanceId privacyClass externalSubject displayLabel requestId =>
      exact conform_only (only_drop (shrinking_grant ..)) conform
  | completeGrant user instanceId code state requestId =>
      exact conform_only (only_drop (shrinking_complete ..)) conform
  | _ => exact bystander trivial

/-- In every reachable state every instance conforms to the entry of its type,
and no id is used twice. -/
theorem reachable_conform (settings : Settings) (outside : Outside N) (world : World N)
    (reached : Reachable settings outside world) : AllConform settings world.store :=
  reachable_kept (AllConform settings) ⟨nofun, List.nodup_nil⟩ (conform_request settings outside) reached

/-! Another instance, with a secret that is replaced. -/

def graphConfig (secret : String) : Dict Json :=
  Dict.ofList [("tenant_id", .str "t"), ("client_id", .str "c"), ("client_secret", .str secret)]

def secretRequests : List Request :=
  [.createInstance sampleUser "graph" "outlook-graph" "Graph" (graphConfig "s3cret") false true none,
    .updateInstance sampleUser "graph"
      { config := some (graphConfig "n3w"), enabled := some false } none]

theorem secret_instances_conform :
    ((consented secretRequests).store.instances.map fun row =>
      (row.id, row.enabled, row.configSecretsEncrypted.keys)) =
        [("mail", true, []), ("graph", false, ["client_secret"])] ∧
      AllConform sampleSettings (consented secretRequests).store :=
  ⟨by decide +kernel, reachable_conform sampleSettings (Outside.still provider) _
    (reachable_serve_all (setUp ++ secretRequests) (.empty ()))⟩

end Lehen.Conforming
