import Lehen.History
import Lehen.InstanceSecrets
import Lehen.Laying
import Lehen.Selecting

/-!
What a create or an update makes of its config, key by key, and how the call ends. Entries
that are `None` count as absent throughout.
-/

namespace Lehen.Splitting

open Storage Secrets OAuth AuditService Registry IntegrationsService ConnectionsService Keeping
open Editing (Seals yields_encrypt)
open Footprint (Quick)
open InstanceSecrets (split_absent split_null split_given)
open Laying (straight_encrypt)
open Selecting (leaves_quick_then)
open Prog (Leaves yields_bind yields_mono yields_require_then straight_bind)

variable {N : Type} {settings : Settings} {outside : Outside N}

/-- The value a config gives for a name. -/
def supplied (config : Dict Json) (name : String) : Option Json :=
  match config.lookup name with
  | none | some .null => none
  | some value => some value

def openNames (fields : List FieldSpec) : List String :=
  (fields.filter fun field => !field.secret).map FieldSpec.name

def hiddenNames (fields : List FieldSpec) : List String :=
  (fields.filter FieldSpec.secret).map FieldSpec.name

/-- The public entries that a config gives the fields of a type. -/
def opened (fields : List FieldSpec) (config : Dict Json) (name : String) : Option Json :=
  if name ∈ openNames fields then supplied config name else none

/-- The secrets that a config gives them, as text. -/
def hidden (fields : List FieldSpec) (config : Dict Json) (name : String) : Option String :=
  if name ∈ hiddenNames fields then (supplied config name).map Json.toStr else none

/-- A split config, key by key. Every secret is there in the clear and in an envelope. -/
structure Splits (settings : Settings) (values : String → Option Json) (texts : String → Option String)
    (split : SplitConfig) : Prop where
  publicFields : ∀ name, split.publicFields.lookup name = values name
  plaintext : ∀ name, split.plaintext.lookup name = texts name
  encrypted : ∀ name, Option.Rel (Seals settings) (split.encrypted.lookup name) (texts name)

theorem supplied_given {config : Dict Json} {name : String} {value : Json}
    (given : supplied config name = some value) : config.lookup name = some value ∧ value ≠ .null := by
  unfold supplied at given
  split at given
  · cases given
  · cases given
  · next nonnull found =>
      obtain rfl := Option.some.inj given
      exact ⟨found, fun null => nonnull null⟩

theorem supplied_missing {config : Dict Json} {name : String} (missing : supplied config name = none) :
    config.lookup name = none ∨ config.lookup name = some .null := by
  unfold supplied at missing
  split at missing
  · next found => exact .inl found
  · next found => exact .inr found
  · cases missing

theorem supplied_empty (name : String) : supplied ∅ name = none := by
  rw [supplied, AList.lookup_empty]

theorem splits_empty (fields : List FieldSpec) :
    Splits settings (opened fields ∅) (hidden fields ∅) ⟨∅, ∅, ∅⟩ := by
  constructor
  · intro name
    simp [opened, supplied_empty]
  · intro name
    simp [hidden, supplied_empty]
  · intro name
    have nothing : hidden fields ∅ name = none := by simp [hidden, supplied_empty]
    rw [nothing, AList.lookup_empty]
    exact .none

theorem splits_public {values : String → Option Json} {texts : String → Option String}
    {split : SplitConfig} (splits : Splits settings values texts split) (name : String) (value : Json) :
    Splits settings (fun key => if key = name then some value else values key) texts
      { split with publicFields := split.publicFields.insert name value } := by
  constructor
  · intro key
    rw [History.lookup_insert_ite, splits.publicFields]
  · exact splits.plaintext
  · exact splits.encrypted

theorem splits_secret {values : String → Option Json} {texts : String → Option String}
    {split : SplitConfig} (splits : Splits settings values texts split) (name : String)
    {text envelope : String} (seals : Seals settings envelope text) :
    Splits settings values (fun key => if key = name then some text else texts key)
      { split with
        encrypted := split.encrypted.insert name envelope
        plaintext := split.plaintext.insert name text } := by
  constructor
  · exact splits.publicFields
  · intro key
    rw [History.lookup_insert_ite, splits.plaintext]
  · intro key
    rw [History.lookup_insert_ite]
    by_cases same : key = name
    · rw [if_pos same, if_pos same]
      exact .some seals
    · rw [if_neg same, if_neg same]
      exact splits.encrypted key

theorem sealed_none {values : String → Option Json} {texts : String → Option String} {split : SplitConfig}
    (splits : Splits settings values texts split) {name : String} (unset : texts name = none) :
    split.encrypted.lookup name = none := by
  have sealed := splits.encrypted name
  rw [unset] at sealed
  generalize split.encrypted.lookup name = entry at sealed ⊢
  cases sealed
  rfl

theorem sealed_some {values : String → Option Json} {texts : String → Option String} {split : SplitConfig}
    (splits : Splits settings values texts split) {name text : String} (given : texts name = some text) :
    ∃ envelope, split.encrypted.lookup name = some envelope ∧ Seals settings envelope text := by
  have sealed := splits.encrypted name
  rw [given] at sealed
  generalize split.encrypted.lookup name = entry at sealed ⊢
  cases sealed with
  | some seals => exact ⟨_, rfl, seals⟩

/-! One field more. -/

theorem open_names_cons (field : FieldSpec) (rest : List FieldSpec) (name : String) :
    name ∈ openNames (field :: rest) ↔
      (name = field.name ∧ field.secret = false) ∨ name ∈ openNames rest := by
  cases secret : field.secret <;> simp [openNames, secret]

theorem hidden_names_cons (field : FieldSpec) (rest : List FieldSpec) (name : String) :
    name ∈ hiddenNames (field :: rest) ↔
      (name = field.name ∧ field.secret = true) ∨ name ∈ hiddenNames rest := by
  cases secret : field.secret <;> simp [hiddenNames, secret]

/-- A field without a value adds nothing. -/
theorem unsupplied_cons {field : FieldSpec} {config : Dict Json}
    (missing : supplied config field.name = none) (rest : List FieldSpec) :
    opened (field :: rest) config = opened rest config ∧
      hidden (field :: rest) config = hidden rest config := by
  constructor
  · funext name
    by_cases own : name = field.name
    · subst own
      simp [opened, missing]
    · simp [opened, open_names_cons, own]
  · funext name
    by_cases own : name = field.name
    · subst own
      simp [hidden, missing]
    · simp [hidden, hidden_names_cons, own]

theorem open_cons {field : FieldSpec} {config : Dict Json} {value : Json} (open_ : field.secret = false)
    (given : supplied config field.name = some value) (rest : List FieldSpec)
    (values : String → Option Json) (name : String) :
    (opened (field :: rest) config name).or (values name) =
      (opened rest config name).or (if name = field.name then some value else values name) := by
  by_cases own : name = field.name
  · subst own
    by_cases again : field.name ∈ openNames rest <;> simp [opened, open_names_cons, open_, given, again]
  · simp [opened, open_names_cons, own]

theorem open_aside {field : FieldSpec} (secret : field.secret = true) (rest : List FieldSpec)
    (config : Dict Json) : opened (field :: rest) config = opened rest config := by
  funext name
  simp [opened, open_names_cons, secret]

theorem hidden_cons {field : FieldSpec} {config : Dict Json} {value : Json}
    (secret : field.secret = true) (given : supplied config field.name = some value)
    (rest : List FieldSpec) (texts : String → Option String) (name : String) :
    (hidden (field :: rest) config name).or (texts name) =
      (hidden rest config name).or (if name = field.name then some value.toStr else texts name) := by
  by_cases own : name = field.name
  · subst own
    by_cases again : field.name ∈ hiddenNames rest <;>
      simp [hidden, hidden_names_cons, secret, given, again]
  · simp [hidden, hidden_names_cons, own]

theorem hidden_aside {field : FieldSpec} (open_ : field.secret = false) (rest : List FieldSpec)
    (config : Dict Json) : hidden (field :: rest) config = hidden rest config := by
  funext name
  simp [hidden, hidden_names_cons, open_]

/-! The loop over the fields, and the split of a whole config. -/

theorem yields_splits (config : Dict Json) (fields : List FieldSpec) {split : SplitConfig}
    {values : String → Option Json} {texts : String → Option String}
    (splits : Splits settings values texts split) :
    (splitFields settings config split fields).Yields Quick
      (Splits settings (fun name => (opened fields config name).or (values name))
        fun name => (hidden fields config name).or (texts name)) := by
  induction fields generalizing split values texts with
  | nil =>
      simp only [opened, hidden, openNames, hiddenNames, List.filter_nil, List.map_nil, List.not_mem_nil,
        if_false, Option.none_or]
      exact splits
  | cons field rest ih =>
      cases given : supplied config field.name with
      | none =>
          rw [(unsupplied_cons given rest).1, (unsupplied_cons given rest).2]
          rcases supplied_missing given with absent | null
          · rw [split_absent settings absent]
            exact yields_require_then fun _ => ih splits
          · rw [split_null settings null]
            exact yields_require_then fun _ => ih splits
      | some value =>
          have ⟨found, present⟩ := supplied_given given
          rw [split_given settings found present]
          apply yields_require_then
          intro _
          by_cases secret : field.secret = true
          · rw [if_pos secret, open_aside secret]
            simp only [hidden_cons secret given]
            apply yields_bind (yields_encrypt settings _)
            intro envelope seals
            exact ih (splits_secret splits field.name seals)
          · have open_ : field.secret = false := by simpa using secret
            rw [if_neg secret, hidden_aside open_]
            simp only [open_cons open_ given]
            exact ih (splits_public splits field.name value)

/-- What `_split_config` asks of a config. -/
structure Accepts (spec : IntegrationType) (config : Dict Json) : Prop where
  known : ∀ name ∈ config, name ∈ spec.fields.map FieldSpec.name
  required : ∀ field ∈ spec.fields, field.required = true →
    ((config.lookup field.name).getD .null).isBlank = false

theorem unknown_iff (spec : IntegrationType) (config : Dict Json) :
    (config.keys.filter fun name => decide (name ∉ spec.fields.map FieldSpec.name)) = [] ↔
      ∀ name ∈ config, name ∈ spec.fields.map FieldSpec.name := by
  simp only [List.filter_eq_nil_iff, decide_eq_true_eq, not_not, AList.mem_keys]

theorem yields_accepted (spec : IntegrationType) (config : Dict Json) :
    (splitConfig settings spec config).Yields Quick fun split => Accepts spec config ∧
      Splits settings (opened spec.fields config) (hidden spec.fields config) split := by
  apply yields_require_then
  intro known
  have empty : Splits settings (fun _ => none) (fun _ => none) ⟨∅, ∅, ∅⟩ :=
    ⟨AList.lookup_empty, AList.lookup_empty, fun name => by rw [AList.lookup_empty]; exact .none⟩
  apply yields_mono (Prog.yields_and
    (Conforming.yields_sound settings config spec.fields spec.fields _ (fun _ member => member)
      (Conforming.sound_empty _))
    (yields_splits config spec.fields empty))
  rintro split ⟨⟨_, required⟩, splits⟩
  simp only [Option.or_none] at splits
  exact ⟨⟨(unknown_iff spec config).mp known, required⟩, splits⟩

theorem straight_require {condition : Prop} [Decidable condition] {error : PyError}
    (holds : condition) : (Prog.require condition error : Hub Unit).Straight Quick False := by
  rw [Prog.require, if_pos holds]
  trivial

theorem straight_split_fields {config : Dict Json} {fields : List FieldSpec}
    (required : ∀ field ∈ fields, field.required = true →
      ((config.lookup field.name).getD .null).isBlank = false) (split : SplitConfig) :
    (splitFields settings config split fields).Straight Quick False := by
  induction fields generalizing split with
  | nil => trivial
  | cons field rest ih =>
      have later := ih fun other member => required other (List.mem_cons_of_mem _ member)
      have filled : ¬ (field.required ∧ ((config.lookup field.name).getD .null).isBlank) := by
        rintro ⟨needed, blank⟩
        rw [required field List.mem_cons_self needed] at blank
        cases blank
      apply straight_bind (straight_require filled)
      intro _
      split
      · exact later split
      · exact later split
      · split
        · exact straight_bind (straight_encrypt _) fun envelope => later _
        · exact later _

/-- The split of a config goes through exactly if the config is accepted. -/
theorem leaves_split_then {α : Type} {spec : IntegrationType} {config : Dict Json}
    {rest : SplitConfig → Hub α} {world : World N} {post : Except PyError α → World N → Prop}
    (done : Accepts spec config → ∀ split (after : World N),
      Splits settings (opened spec.fields config) (hidden spec.fields config) split →
        after.store = world.store → Leaves (exec outside) (rest split) after post)
    (refused : ¬ Accepts spec config → ∀ error (after : World N), after.store = world.store →
      post (.error error) after) :
    Leaves (exec outside) ((splitConfig settings spec config).bind rest) world post := by
  have yields : (splitConfig settings spec config).Yields Quick _ := yields_accepted spec config
  have kept := Laying.quick_keeps outside world.store
  by_cases accepts : Accepts spec config
  · have straight : (splitConfig settings spec config).Straight Quick False :=
      straight_bind (straight_require ((unknown_iff spec config).mpr accepts.known)) fun _ =>
        straight_split_fields accepts.required _
    apply Prog.leaves_straight_then (fun after => after.store = world.store) straight yields rfl
      (Laying.quick_succeeds outside) kept
    rintro split after ⟨_, splits⟩ same
    exact done accepts split after splits same
  · apply Prog.leaves_yields_then (fun after => after.store = world.store) yields rfl kept
    · rintro split after ⟨accepted, _⟩ _
      exact absurd accepted accepts
    · exact fun error after same => refused accepts error after same

/-! How a create and an update end. -/

/-- The entry that the log has of an event. -/
structure Recorded (settings : Settings) (event : AuditEvent) (entry : AdminAuditEvent) : Prop where
  action : entry.action = event.action
  targetId : entry.targetId = event.targetId
  before : maskSecrets settings event.before event.secretFields = .ok entry.before
  after : maskSecrets settings event.after event.secretFields = .ok entry.after

theorem leaves_recorded_then {α : Type} {event : AuditEvent} {rest : Unit → Hub α} {world : World N}
    {post : Except PyError α → World N → Prop}
    (failed : ¬ outside.Reliable → ∀ error (after : World N), after.store = world.store →
      post (.error error) after)
    (unheard : ¬ outside.Reliable → ∀ entry error (after : World N), Recorded settings event entry →
      after.store = { world.store with audits := world.store.audits ++ [entry] } →
        post (.error error) after)
    (done : ∀ entry (after : World N), Recorded settings event entry →
      after.store = { world.store with audits := world.store.audits ++ [entry] } →
        Leaves (exec outside) (rest ()) after post) :
    Leaves (exec outside) ((record settings event).bind rest) world post := by
  obtain ⟨before, maskedBefore⟩ := mask_secrets_total settings event.before event.secretFields
  obtain ⟨after, maskedAfter⟩ := mask_secrets_total settings event.after event.secretFields
  simp only [record, Prog.bind_eq, Prog.bind_assoc, maskedBefore, maskedAfter, Prog.lift, Prog.bind_ret]
  apply leaves_quick_then (Footprint.quick_perform rfl)
  intro id first same
  apply leaves_quick_then (Footprint.quick_perform rfl)
  intro ts second same'
  apply leaves_quick_then (Footprint.quick_request_id event.requestId)
  intro requestId third same''
  have stored : third.store = world.store := same''.trans (same'.trans same)
  rw [← stored] at failed unheard done
  apply leaves_faulty_then
  · intro faulty error last moved
    rcases moved with held | written
    · exact failed faulty error last held
    · exact unheard faulty _ error last ⟨rfl, rfl, maskedBefore, maskedAfter⟩ written
  · exact fun last written => done _ last ⟨rfl, rfl, maskedBefore, maskedAfter⟩ written

/-- What a call writes: the instances, and the event it hands to the log. -/
structure Write where
  instances : List InstanceRow
  event : AuditEvent

/-- The instances and the log are as they were. -/
structure Idle (store after : Store) : Prop where
  instances : after.instances = store.instances
  audits : after.audits = store.audits

/-- How a call ends. It is refused, the store fails it before or after it has written, or its
event is in the log. Without a cascade a call to a reliable store then returns. -/
inductive Concludes (settings : Settings) (accepts reliable calm : Prop) (writes : Write → Prop)
    (store : Store) : Except PyError InstanceView → Store → Prop
  | refused (error : PyError) (after : Store) (unfit : ¬ accepts) (idle : Idle store after) :
      Concludes settings accepts reliable calm writes store (.error error) after
  | failed (error : PyError) (after : Store) (faulty : ¬ reliable) (idle : Idle store after) :
      Concludes settings accepts reliable calm writes store (.error error) after
  | unlogged (write : Write) (error : PyError) (after : Store) (faulty : ¬ reliable)
      (written : writes write) (instances : after.instances = write.instances)
      (audits : after.audits = store.audits) :
      Concludes settings accepts reliable calm writes store (.error error) after
  | logged (write : Write) (entry : AdminAuditEvent) (outcome : Except PyError InstanceView)
      (after : Store) (fit : accepts) (written : writes write)
      (instances : after.instances = write.instances) (audits : after.audits = store.audits ++ [entry])
      (recorded : Recorded settings write.event entry)
      (returned : reliable → calm → ∃ view, outcome = .ok view) :
      Concludes settings accepts reliable calm writes store outcome after

/-- The row of an id that the service reads. -/
def rowOf (instanceId : String) (store : Store) : Option InstanceRow :=
  store.instances.find? fun row => row.id = instanceId

/-- The snapshot of the stored row that an update logs. -/
def beforeAudit (instanceId : String) (spec : IntegrationType) (before : InstanceRow) : Dict Json :=
  Dict.merge
    (Dict.merge
      (Dict.ofList
        [("id", .str instanceId), ("type", .str before.type), ("display_name", .str before.displayName),
          ("enabled", .bool before.enabled),
          ("multi_connection_allowed", .bool before.multiConnectionAllowed)])
      before.configPublic)
    (existingSecrets spec before)

/-- The plaintext of a split config, as it is laid over a snapshot. -/
def givenSecrets (split : SplitConfig) : Dict Json :=
  Dict.ofList (split.plaintext.entries.map fun entry => (entry.1, .str entry.2))

def updateWrite (actor : CurrentUser) (instanceId : String) (changes : Changes)
    (requestId : Option String) (rows : List InstanceRow) (before : InstanceRow) (spec : IntegrationType)
    (split : SplitConfig) (instant : Time) : Write :=
  { instances := rows.map fun row =>
      if row.id = instanceId then mergedDoc before changes split actor.username instant else row
    event :=
      { actorSub := actor.sub, actorUsername := actor.username, action := "integration.update"
        targetId := some instanceId, before := some (beforeAudit instanceId spec before)
        after := some (Dict.merge
          (Dict.merge (Dict.merge (beforeAudit instanceId spec before) changes.audit) split.publicFields)
          (givenSecrets split))
        secretFields := spec.secretFieldNames, requestId } }

/-- What an update asks of its changes. -/
structure Permits (spec : IntegrationType) (changes : Changes) : Prop where
  cardinality : ¬ (spec.connectionCardinality = .single ∧ changes.multiConnectionAllowed.getD false = true)
  config : ∀ config, changes.config = some config → Accepts spec config

/-- The splits an update may come to. -/
def Updates (settings : Settings) (actor : CurrentUser) (instanceId : String) (changes : Changes)
    (requestId : Option String) (store : Store) (before : InstanceRow) (spec : IntegrationType)
    (write : Write) : Prop :=
  ∃ split instant,
    Splits settings (opened spec.fields (changes.config.getD ∅))
        (hidden spec.fields (changes.config.getD ∅)) split ∧
      write = updateWrite actor instanceId changes requestId store.instances before spec split instant

theorem leaves_changes_then {α : Type} {spec : IntegrationType} {changes : Changes}
    {rest : SplitConfig → Hub α} {world : World N} {post : Except PyError α → World N → Prop}
    (done : (∀ config, changes.config = some config → Accepts spec config) →
      ∀ split (after : World N), Splits settings (opened spec.fields (changes.config.getD ∅))
        (hidden spec.fields (changes.config.getD ∅)) split → after.store = world.store →
          Leaves (exec outside) (rest split) after post)
    (refused : ¬ (∀ config, changes.config = some config → Accepts spec config) →
      ∀ error (after : World N), after.store = world.store → post (.error error) after) :
    Leaves (exec outside) ((splitChanges settings spec changes).bind rest) world post := by
  unfold splitChanges
  cases given : changes.config with
  | none =>
      rw [given] at done
      exact done nofun _ world (splits_empty spec.fields) rfl
  | some config =>
      rw [given] at done refused
      apply leaves_split_then
      · intro accepts split after splits same
        refine done ?_ split after splits same
        rintro _ ⟨⟩
        exact accepts
      · exact fun unfit => refused fun all => unfit (all config rfl)

/-- A program that begins by reading the row of an id. -/
theorem leaves_row_then {α : Type} {instanceId : String} {rest : InstanceRow → Hub α} {world : World N}
    {post : Except PyError α → World N → Prop}
    (failed : ¬ outside.Reliable → ∀ error (after : World N), after.store = world.store →
      post (.error error) after)
    (missing : rowOf instanceId world.store = none → ∀ error (after : World N),
      after.store = world.store → post (.error error) after)
    (done : ∀ row (after : World N), rowOf instanceId world.store = some row →
      after.store = world.store → Leaves (exec outside) (rest row) after post) :
    Leaves (exec outside) ((rawGet instanceId).bind rest) world post := by
  rw [rawGet, Prog.bind_eq, Prog.bind_assoc]
  apply leaves_faulty_read_then rfl failed
  intro after same
  simp only [StoreOp.apply, List.head?_filter]
  cases first : world.store.instances.find? fun row => row.id = instanceId with
  | none => exact missing first _ after same
  | some row => exact done row after first same

theorem leaves_multi_then {α : Type} {spec : IntegrationType} {multi : Bool} {rest : Unit → Hub α}
    {world : World N} {post : Except PyError α → World N → Prop}
    (done : ¬ (spec.connectionCardinality = .single ∧ multi = true) →
      Leaves (exec outside) (rest ()) world post)
    (refused : (spec.connectionCardinality = .single ∧ multi = true) → ∀ error, post (.error error) world) :
    Leaves (exec outside) ((refuseMultiOnSingle spec multi).bind rest) world post := by
  apply Prog.leaves_require_then done
  intro single
  exact refused (not_not.mp single) _

/-- What follows the event of an update leaves the instances and the log alone. -/
theorem leaves_tail (instanceId : String) (requestId : Option String) (condition : Prop)
    [Decidable condition] (view : InstanceView) (world : World N) :
    Leaves (exec outside)
      ((Prog.when condition (revokeAllForInstance settings instanceId "revoked-by-admin-disable"
        requestId)).bind fun _ => .ret view) world fun outcome after =>
          Idle world.store after.store ∧ (¬ condition → ∃ view, outcome = .ok view) := by
  by_cases holds : condition
  · have aside : ((Prog.when condition (revokeAllForInstance settings instanceId
        "revoked-by-admin-disable" requestId)).bind fun _ => .ret view).Only History.Aside := by
      apply Prog.only_bind (Prog.only_when (Prog.only_mono (cascading_revoke_all ..)
        History.aside_of_cascading))
      exact fun _ => trivial
    have untouched : Leaves (exec outside) _ world fun _ after =>
        History.Untouched world.store after.store :=
      Prog.leaves_only _ aside ⟨rfl, rfl, rfl, rfl⟩ fun op state fits same =>
        History.untouched_step op state fits same
    apply Prog.leaves_mono untouched
    exact fun outcome after same => ⟨⟨same.instances, same.audits⟩, fun free => absurd holds free⟩
  · rw [Prog.when, if_neg holds]
    exact ⟨⟨rfl, rfl⟩, fun _ => ⟨view, rfl⟩⟩

theorem leaves_update (actor : CurrentUser) {instanceId : String} {changes : Changes}
    {requestId : Option String} {world : World N} {before : InstanceRow} {spec : IntegrationType}
    (found : rowOf instanceId world.store = some before) (known : getType before.type = .ok spec) :
    Leaves (exec outside) (update settings (revokeAllForInstance settings · · ·) actor instanceId
      changes requestId) world fun outcome after =>
        Concludes settings (Permits spec changes) outside.Reliable (changes.enabled = none)
          (Updates settings actor instanceId changes requestId world.store before spec)
          world.store outcome after.store := by
  have idle {store after : Store} (same : after = store) : Idle store after := by
    subst same
    exact ⟨rfl, rfl⟩
  apply leaves_row_then
  · exact fun faulty error after same => .failed error _ faulty (idle same)
  · intro missing
    rw [missing] at found
    cases found
  · intro row first read same
    rw [found] at read
    obtain rfl := Option.some.inj read
    apply Prog.leaves_lift_then
    · intro other looked
      rw [known] at looked
      obtain rfl := Except.ok.inj looked
      apply leaves_multi_then
      · intro cardinality
        apply leaves_changes_then
        · intro accepted split second splits held
          apply leaves_quick_then (Footprint.quick_perform rfl)
          intro instant third ticked
          have stored : third.store = world.store := ticked.trans (held.trans same)
          let write := updateWrite actor instanceId changes requestId world.store.instances before spec
            split instant
          have written : Updates settings actor instanceId changes requestId world.store before spec
              write := ⟨split, instant, splits, rfl⟩
          have unlogged (faulty : ¬ outside.Reliable) (error : PyError) {after : Store}
              (updated : after = ((StoreOp.updateInstance instanceId (mergedDoc before changes split
                actor.username instant)).apply third.store).2) :
              Concludes settings (Permits spec changes) outside.Reliable (changes.enabled = none)
                (Updates settings actor instanceId changes requestId world.store before spec)
                world.store (.error error) after := by
            apply Concludes.unlogged write error _ faulty written
            · rw [updated, stored]
              rfl
            · rw [updated, stored]
              rfl
          apply leaves_faulty_then
          · intro faulty error after moved
            rcases moved with kept | updated
            · exact .failed error _ faulty (idle (kept.trans stored))
            · exact unlogged faulty error updated
          · intro fourth updated
            apply leaves_recorded_then
            · exact fun faulty error after kept => unlogged faulty error (kept.trans updated)
            · intro faulty entry error after recorded appended
              rw [updated, stored] at appended
              apply Concludes.logged write entry _ _ ⟨cardinality, accepted⟩ written
              · rw [appended]
                rfl
              · rw [appended]
                rfl
              · exact recorded
              · exact fun reliable => absurd reliable faulty
            · intro entry fifth recorded appended
              rw [updated, stored] at appended
              apply Prog.leaves_mono (leaves_tail instanceId requestId _ _ fifth)
              rintro outcome last ⟨rest, calm⟩
              apply Concludes.logged write entry outcome _ ⟨cardinality, accepted⟩ written
              · rw [rest.instances, appended]
                rfl
              · rw [rest.audits, appended]
                rfl
              · exact recorded
              · intro _ unset
                apply calm
                simp [mergedDoc, unset]
        · intro unfit error after kept
          exact .refused error _ (fun fit => unfit fit.config) (idle (kept.trans same))
      · exact fun single error => .refused error _ (fun fit => fit.cardinality single) (idle same)
    · intro error looked
      rw [known] at looked
      cases looked

/-- An update of a row that is not there, or whose type the registry does not know. -/
theorem leaves_unknown (actor : CurrentUser) {instanceId : String} (changes : Changes)
    (requestId : Option String) {world : World N}
    (unknown : ¬ ∃ before spec, rowOf instanceId world.store = some before ∧
      getType before.type = .ok spec) :
    Leaves (exec outside) (update settings (revokeAllForInstance settings · · ·) actor instanceId
      changes requestId) world fun _ after => Idle world.store after.store := by
  have idle {after : Store} (same : after = world.store) : Idle world.store after := by
    rw [same]
    exact ⟨rfl, rfl⟩
  apply leaves_row_then
  · exact fun _ _ _ same => idle same
  · exact fun _ _ _ same => idle same
  · intro before after found same
    apply Prog.leaves_lift_then
    · exact fun spec known => absurd ⟨before, spec, found, known⟩ unknown
    · exact fun _ _ => idle same

def createDoc (actor : CurrentUser) (instanceId typeId displayName : String) (multi enabled : Bool)
    (split : SplitConfig) (instant : Time) : InstanceRow :=
  { id := instanceId, type := typeId, displayName, configPublic := split.publicFields
    configSecretsEncrypted := split.encrypted, enabled, multiConnectionAllowed := multi
    createdBy := actor.username, createdAt := instant
    updatedBy := actor.username, updatedAt := instant }

def createWrite (actor : CurrentUser) (instanceId typeId displayName : String) (multi enabled : Bool)
    (requestId : Option String) (rows : List InstanceRow) (spec : IntegrationType) (split : SplitConfig)
    (instant : Time) : Write :=
  { instances := rows ++ [createDoc actor instanceId typeId displayName multi enabled split instant]
    event :=
      { actorSub := actor.sub, actorUsername := actor.username, action := "integration.create"
        targetId := some instanceId, before := none
        after := some (Dict.merge
          (Dict.merge
            (Dict.ofList
              [("id", .str instanceId), ("type", .str typeId), ("display_name", .str displayName),
                ("enabled", .bool enabled), ("multi_connection_allowed", .bool multi)])
            split.publicFields)
          (givenSecrets split))
        secretFields := spec.secretFieldNames, requestId } }

/-- The documents a create may insert. -/
def Creates (settings : Settings) (actor : CurrentUser) (instanceId typeId displayName : String)
    (config : Dict Json) (multi enabled : Bool) (requestId : Option String) (store : Store)
    (write : Write) : Prop :=
  ∃ spec split instant, getType typeId = .ok spec ∧ rowOf instanceId store = none ∧
    Splits settings (opened spec.fields config) (hidden spec.fields config) split ∧
      write = createWrite actor instanceId typeId displayName multi enabled requestId store.instances spec
        split instant

/-- What a create asks of its arguments. -/
def Creatable (instanceId typeId : String) (config : Dict Json) (multi : Bool) (store : Store) : Prop :=
  ∃ spec, getType typeId = .ok spec ∧ ¬ (spec.connectionCardinality = .single ∧ multi = true) ∧
    rowOf instanceId store = none ∧ Accepts spec config

theorem row_of_empty {instanceId : String} {store : Store} :
    (store.instances.filter fun row => row.id = instanceId).isEmpty = true ↔
      rowOf instanceId store = none := by
  rw [rowOf, ← List.head?_filter]
  simp

theorem leaves_create (actor : CurrentUser) (instanceId typeId displayName : String)
    (config : Dict Json) (multi enabled : Bool) (requestId : Option String) (world : World N) :
    Leaves (exec outside) (create settings actor instanceId typeId displayName config multi enabled
      requestId) world fun outcome after =>
        Concludes settings (Creatable instanceId typeId config multi world.store) outside.Reliable True
          (Creates settings actor instanceId typeId displayName config multi enabled requestId world.store)
          world.store outcome after.store := by
  have idle {store after : Store} (same : after = store) : Idle store after := by
    subst same
    exact ⟨rfl, rfl⟩
  apply Prog.leaves_lift_then
  · intro spec looked
    have known := type_of_reworded looked
    -- The registry gives one type for an id.
    have own {other : IntegrationType} (also : getType typeId = .ok other) : other = spec := by
      rw [known] at also
      exact (Except.ok.inj also).symm
    apply leaves_multi_then
    · intro cardinality
      apply leaves_faulty_read_then rfl
      · exact fun faulty error after same => .failed error _ faulty (idle same)
      · intro first unread
        apply Prog.leaves_require_then
        · intro absent
          have free := row_of_empty.mp absent
          apply leaves_split_then
          · intro accepted split second splits held
            apply leaves_quick_then (Footprint.quick_perform rfl)
            intro instant third ticked
            have stored : third.store = world.store := ticked.trans (held.trans unread)
            -- Up to here nothing is written; from here on the document is known.
            let write := createWrite actor instanceId typeId displayName multi enabled requestId
              world.store.instances spec split instant
            have written : Creates settings actor instanceId typeId displayName config multi enabled
                requestId world.store write := ⟨spec, split, instant, known, free, splits, rfl⟩
            have unlogged (faulty : ¬ outside.Reliable) (error : PyError) {after : Store}
                (inserted : after = ((StoreOp.insertInstance (createDoc actor instanceId typeId
                  displayName multi enabled split instant)).apply third.store).2) :
                Concludes settings (Creatable instanceId typeId config multi world.store)
                  outside.Reliable True
                  (Creates settings actor instanceId typeId displayName config multi enabled requestId
                    world.store) world.store (.error error) after := by
              apply Concludes.unlogged write error _ faulty written
              · rw [inserted, stored]
                rfl
              · rw [inserted, stored]
                rfl
            apply leaves_faulty_then
            · intro faulty error after moved
              rcases moved with kept | inserted
              · exact .failed error _ faulty (idle (kept.trans stored))
              · exact unlogged faulty error inserted
            · intro fourth inserted
              apply leaves_recorded_then
              · exact fun faulty error after kept => unlogged faulty error (kept.trans inserted)
              · intro faulty entry error after recorded appended
                rw [inserted, stored] at appended
                apply Concludes.logged write entry _ _ ⟨spec, known, cardinality, free, accepted⟩ written
                · rw [appended]
                  rfl
                · rw [appended]
                  rfl
                · exact recorded
                · exact fun reliable => absurd reliable faulty
              · intro entry fifth recorded appended
                rw [inserted, stored] at appended
                rw [Prog.pure_eq, Prog.leaves_ret]
                apply Concludes.logged write entry _ _ ⟨spec, known, cardinality, free, accepted⟩ written
                · rw [appended]
                  rfl
                · rw [appended]
                  rfl
                · exact recorded
                · exact fun _ _ => ⟨_, rfl⟩
          · intro unfit error after kept
            refine .refused error _ ?_ (idle (kept.trans unread))
            rintro ⟨other, also, _, _, accepted⟩
            rw [own also] at accepted
            exact unfit accepted
        · intro taken
          refine .refused _ _ ?_ (idle unread)
          rintro ⟨_, _, _, free, _⟩
          exact taken (row_of_empty.mpr free)
    · intro single error
      refine .refused error _ ?_ (idle rfl)
      rintro ⟨other, also, cardinality, _⟩
      rw [own also] at cardinality
      exact cardinality single
  · intro error looked
    refine .refused error _ ?_ (idle rfl)
    rintro ⟨other, also, _⟩
    rw [also] at looked
    cases looked

end Lehen.Splitting
