import Lehen.Bootstrap

/-!
Bootstraps one after another. What a completed one leaves is a function of the
database before it, and an interrupted one does not change that function's value.
-/

namespace Lehen.Rebooting

open Bootstrap
open Storage (Time)
open Prog (Tells tells_await tells_bind tells_mono tells_raise tells_ret)

/-! What a bootstrap is for. -/

def base (database : Option Database) : Database := database.getD Database.empty

def missing (database : Option Database) : List String :=
  docTypes.filter fun name => name ∉ (base database).types

/-- The database with every required type. -/
def completed (database : Option Database) : Database := (base database).withTypes (missing database)

theorem completed_required (database : Option Database) : ∀ name ∈ docTypes, name ∈ (completed database).types := by
  intro name required
  by_cases present : name ∈ (base database).types
  · exact List.mem_append_left _ present
  · exact List.mem_append_right _ (List.mem_filter.mpr ⟨required, decide_eq_true present⟩)

/-- The seed, where `LLMConfig` has no document. -/
def seeded (instant : Time) (database : Database) (typed : "LLMConfig" ∈ database.types) : Database :=
  { types := database.types
    llmConfig := if database.llmConfig = [] then [seedDoc instant] else database.llmConfig
    typed := fun _ => typed }

def ensured (instant : Time) (database : Option Database) : Database :=
  seeded instant (completed database) (completed_required database "LLMConfig" (by decide))

/-- A database that a bootstrap has nothing to do on. -/
structure Settled (database : Option Database) : Prop where
  present : database.isSome = true
  required : missing database = []
  filled : (base database).llmConfig ≠ []

@[simp] theorem with_none (database : Database) : database.withTypes [] = database := by
  apply Database.ext
  · exact List.append_nil _
  · rfl

theorem with_more (database : Database) (names more : List String) :
    (database.withTypes names).withTypes more = database.withTypes (names ++ more) := by
  apply Database.ext
  · exact List.append_assoc _ _ _
  · rfl

theorem doc_types_distinct : docTypes.Nodup := by decide

/-- What is missing once some of what was missing has been created. -/
theorem missing_with {database : Option Database} {made later : List String}
    (split : missing database = made ++ later) :
    missing (some ((base database).withTypes made)) = later := by
  have distinct : (made ++ later).Nodup := split ▸ doc_types_distinct.filter _
  have apart := List.disjoint_of_nodup_append distinct
  calc missing (some ((base database).withTypes made))
      = (missing database).filter fun name => name ∉ made := by
        rw [missing, missing, List.filter_filter]
        apply List.filter_congr
        intro name _
        have types : (base (some ((base database).withTypes made))).types =
            (base database).types ++ made := rfl
        rw [types]
        by_cases old : name ∈ (base database).types
        · simp [old]
        · simp [old]
    _ = later := by
        rw [split, List.filter_append]
        have gone : made.filter (fun name => name ∉ made) = [] := by simp
        have kept : later.filter (fun name => name ∉ made) = later := by
          apply List.filter_eq_self.mpr
          intro name member
          exact decide_eq_true fun inside => apart inside member
        rw [gone, kept, List.nil_append]

theorem completed_missing (database : Option Database) : missing (some (completed database)) = [] :=
  missing_with (List.append_nil _).symm

/-! What an interrupted bootstrap may leave. -/

def Begun (before after : Option Database) : Prop :=
  after = before ∨ ∃ made, made <+: missing before ∧ after = some ((base before).withTypes made)

theorem begun_completed {before after : Option Database} (begun : Begun before after) :
    completed after = completed before := by
  rcases begun with rfl | ⟨made, ⟨later, split⟩, rfl⟩
  · rfl
  · rw [completed, missing_with split.symm]
    exact (with_more _ made later).trans (by rw [completed, split])

/-- A bootstrap after an interrupted one leaves what it would have left before it. -/
theorem begun_ensured {before after : Option Database} (begun : Begun before after) (instant : Time) :
    ensured instant after = ensured instant before := by
  have same := begun_completed begun
  simp only [ensured, same]

/-! A run. -/
section Running

variable {N : Type} {outside : Outside N} {world : World N} {α : Type}
  {past : List ((op : BootstrapOp) × Except PyError op.Res)}
  {post : Except PyError α → List ((op : BootstrapOp) × Except PyError op.Res) → World N → Prop}

/-- A statement that can be executed fails, and leaves the database alone, or does
what it says. -/
theorem tells_send_then {statement : SchemaStatement} {rest : statement.Res → Boot α}
    {answer : statement.Res} {database : Option Database}
    (applied : statement.apply world.database = some (answer, database))
    (failed : ∀ error next, ¬ outside.Reliable →
      post (.error error) (past ++ [⟨.send statement, .error error⟩]) ⟨world.database, next⟩)
    (done : ∀ next, Tells (exec outside) (rest answer) (past ++ [⟨.send statement, .ok answer⟩])
      ⟨database, next⟩ post) :
    Tells (exec outside) ((send statement).bind rest) past world post := by
  rw [send, Prog.perform, Prog.bind_await, tells_await]
  rcases interrupted : outside.fails statement world.outside with ⟨_ | error, next⟩
  · simp only [exec, interrupted, applied]
    exact done next
  · simp only [exec, interrupted]
    rw [Prog.bind_raise, tells_raise]
    apply failed error next
    intro reliable
    have never := reliable statement world.outside
    rw [interrupted] at never
    cases never

/-- The instant a run writes into the seed. -/
def instantOf (outside : Outside N) (now : Option Time) (state : N) : Time :=
  now.getD (outside.clock state).1

def Quiet (log : List ((op : BootstrapOp) × Except PyError op.Res)) : Prop :=
  ∀ statement answer, ⟨.send statement, answer⟩ ∈ log → statement.isWrite = false

theorem tells_now_then {now : Option Time} {rest : Time → Boot α}
    (done : ∀ log next, (Quiet past → Quiet log) →
      Tells (exec outside) (rest (instantOf outside now world.outside)) log ⟨world.database, next⟩ post) :
    Tells (exec outside) ((nowOr now).bind rest) past world post := by
  cases now with
  | some instant => exact done past world.outside id
  | none =>
      rw [nowOr, Prog.perform, Prog.bind_await, tells_await]
      apply done
      intro quiet statement answer member
      rcases List.mem_append.mp member with old | new
      · exact quiet statement answer old
      · cases List.mem_singleton.mp new

/-- The database is there afterwards. -/
theorem tells_present_then {rest : Unit → Boot α}
    (failed : ∀ error log next, ¬ outside.Reliable → post (.error error) log ⟨world.database, next⟩)
    (done : ∀ log next, Tells (exec outside) (rest ()) log ⟨some (base world.database), next⟩ post) :
    Tells (exec outside) ((send .databaseExists).bind fun present =>
      (Prog.when (present = false) (send .createDatabase)).bind rest) past world post := by
  apply tells_send_then rfl
  · exact fun error next => failed error _ next
  · intro next
    cases absent : world.database with
    | none =>
        rw [absent] at failed done
        rw [Prog.when, if_pos (show (none : Option Database).isSome = false from rfl), Prog.bind_assoc]
        apply tells_send_then rfl
        · exact fun error next => failed error _ next
        · exact fun next => done _ next
    | some database =>
        rw [absent] at done
        rw [Prog.when, if_neg (show ¬ (some database).isSome = false by simp)]
        exact done _ next

theorem named_rows (name : String) (types : List String) :
    named ((types.map fun name => Dict.ofList [("name", Json.str name)]).map
      fun row => (row.lookup "name").getD .null) name = decide (name ∈ types) := by
  induction types with
  | nil => rfl
  | cons first rest ih =>
      have head : ((Dict.ofList [("name", Json.str first)]).lookup "name").getD .null = Json.str first := rfl
      rw [named] at ih
      rw [named, List.map_cons, List.map_cons, head, List.any_cons, ih]
      simp [eq_comm]

/-- The loop creates the missing types in their order, or the first of them. -/
theorem tells_missing {existing : List Json} {names created : List String} {database : Database} {state : N}
    (distinct : names.Nodup) (known : ∀ name ∈ names, named existing name = decide (name ∈ database.types)) :
    Tells (exec outside) (createMissing existing created names) past ⟨some database, state⟩
      fun outcome _ after => ∃ made, made <+: names.filter (fun name => name ∉ database.types) ∧
        after.database = some (database.withTypes made) ∧
        match outcome with
        | .ok value =>
            made = names.filter (fun name => name ∉ database.types) ∧ value = created ++ made
        | .error _ => ¬ outside.Reliable := by
  -- `existing` is what was there before the loop; the database grows under it.
  induction names generalizing created database state past with
  | nil =>
      rw [createMissing, Prog.pure_eq, tells_ret]
      exact ⟨[], List.nil_prefix, by rw [with_none], rfl, (List.append_nil created).symm⟩
  | cons typeName rest ih =>
      have head := known typeName List.mem_cons_self
      have tail : ∀ name ∈ rest, named existing name = decide (name ∈ database.types) :=
        fun name member => known name (List.mem_cons_of_mem typeName member)
      obtain ⟨fresh, distinctRest⟩ := List.nodup_cons.mp distinct
      by_cases present : typeName ∈ database.types
      · rw [createMissing, head, if_pos (decide_eq_true present),
          List.filter_cons_of_neg (by simpa using present)]
        exact ih distinctRest tail
      · have others : ∀ name ∈ rest,
            decide (name ∈ (database.withTypes [typeName]).types) = decide (name ∈ database.types) := by
          intro name member
          have different : name ≠ typeName := fun same => fresh (same ▸ member)
          simp [Database.withTypes, different]
        have same : rest.filter (fun name => name ∉ (database.withTypes [typeName]).types) =
            rest.filter fun name => name ∉ database.types := by
          apply List.filter_congr
          intro name member
          rw [decide_not, decide_not, others name member]
        rw [createMissing, head, if_neg (by simpa using present),
          List.filter_cons_of_pos (by simpa using present)]
        apply tells_send_then (by rw [SchemaStatement.apply, if_neg present])
        · exact fun error next failed => ⟨[], List.nil_prefix, by rw [with_none], failed⟩
        · intro next
          apply tells_mono (ih distinctRest fun name member => (tail name member).trans (others name member).symm)
          rintro outcome log after ⟨made, begun, left, returned⟩
          rw [same] at begun
          rw [with_more] at left
          refine ⟨typeName :: made, (List.prefix_cons_inj typeName).mpr begun, left, ?_⟩
          cases outcome with
          | error error => exact returned
          | ok value =>
              obtain ⟨rfl, rfl⟩ := returned
              exact ⟨by rw [same], List.append_assoc _ _ _⟩

/-- The count is of the documents. -/
theorem tells_empty_then {rest : Bool → Boot α} {database : Database} {state : N}
    (typed : "LLMConfig" ∈ database.types)
    (failed : ∀ error answer next, ¬ outside.Reliable →
      post (.error error) (past ++ [⟨.send .countLlmConfig, answer⟩]) ⟨some database, next⟩)
    (done : ∀ answer next, Tells (exec outside) (rest (decide (database.llmConfig = [])))
      (past ++ [⟨.send .countLlmConfig, answer⟩]) ⟨some database, next⟩ post) :
    Tells (exec outside) (isLlmConfigEmpty.bind rest) past ⟨some database, state⟩ post := by
  rw [isLlmConfigEmpty, Prog.bind_eq, Prog.bind_assoc]
  apply tells_send_then (by rw [SchemaStatement.apply, if_pos typed])
  · exact fun error next => failed error _ next
  · intro next
    have counted : decide ((database.llmConfig.length : Int) = 0) = decide (database.llmConfig = []) := by
      simp
    have answered := done (.ok [Dict.ofList [("c", .int database.llmConfig.length)]]) next
    rw [← counted] at answered
    exact answered

/-- The end of a run: the seed where nothing is configured yet. -/
theorem tells_seed {instant : Time} {created : List String} {database : Database} {state : N}
    (typed : "LLMConfig" ∈ database.types) :
    Tells (exec outside)
      (isLlmConfigEmpty.bind fun empty =>
        (Prog.when (empty = true) (seedLlmConfig instant)).bind fun _ => pure created)
      past ⟨some database, state⟩ fun outcome _ after =>
        match outcome with
        | .ok value => value = created ∧ after.database = some (seeded instant database typed)
        | .error _ => after.database = some database ∧ ¬ outside.Reliable := by
  apply tells_empty_then typed
  · exact fun error answer next failed => ⟨rfl, failed⟩
  · intro answer state
    by_cases empty : database.llmConfig = []
    · have inserted : database.insert (seedDoc instant) typed = seeded instant database typed := by
        apply Database.ext
        · rfl
        · simp [Database.insert, seeded, empty]
      rw [Prog.when, if_pos (decide_eq_true empty), seedLlmConfig, Prog.bind_assoc]
      apply tells_send_then (by rw [SchemaStatement.apply, dif_pos typed])
      · exact fun error next failed => ⟨rfl, failed⟩
      · intro next
        rw [Prog.bind_ret, Prog.pure_eq, tells_ret]
        exact ⟨rfl, congrArg some inserted⟩
    · have same : database = seeded instant database typed := by
        apply Database.ext
        · rfl
        · simp [seeded, empty]
      rw [Prog.when, if_neg (by simpa using empty), Prog.bind_ret, Prog.pure_eq, tells_ret]
      exact ⟨rfl, congrArg some same⟩

/-- What a bootstrap leaves, whether it completes or is interrupted. -/
theorem tells_boot (now : Option Time) :
    Tells (exec outside) (ensureAdminSchema now) past world fun outcome _ after =>
      match outcome with
      | .ok created => created = missing world.database ∧
          after.database = some (ensured (instantOf outside now world.outside) world.database)
      | .error _ => Begun world.database after.database ∧ ¬ outside.Reliable := by
  have bare : Begun world.database (some (base world.database)) :=
    .inr ⟨[], List.nil_prefix, by rw [with_none]⟩
  -- Up to the loop only the empty database may have been added; after it every
  -- missing type has been, and the seed is the last request.
  unfold ensureAdminSchema
  simp only [Prog.bind_eq]
  apply tells_now_then
  intro _ state _
  apply tells_present_then
  · exact fun error _ next failed => ⟨.inl rfl, failed⟩
  intro _ state
  apply tells_send_then rfl
  · exact fun error next failed => ⟨bare, failed⟩
  intro state
  rw [tells_bind]
  apply tells_mono (tells_missing doc_types_distinct fun name _ => named_rows name (base world.database).types)
  rintro outcome _ ⟨_, state⟩ ⟨made, begun, left, returned⟩
  obtain rfl := left
  cases outcome with
  | error error => exact ⟨.inr ⟨made, begun, rfl⟩, returned⟩
  | ok created =>
      obtain ⟨rfl, rfl⟩ := returned
      apply tells_mono (tells_seed (completed_required world.database "LLMConfig" (by decide)))
      intro outcome _ after reached
      cases outcome with
      | ok value => exact reached
      | error error =>
          exact ⟨.inr ⟨missing world.database, List.prefix_rfl, reached.1⟩, reached.2⟩

/-! A run on a database that has everything. -/

theorem quiet_snoc (quiet : Quiet past) {statement : SchemaStatement} {answer : Except PyError statement.Res}
    (reads : statement.isWrite = false) : Quiet (past ++ [⟨.send statement, answer⟩]) := by
  intro other given member
  rcases List.mem_append.mp member with old | new
  · exact quiet other given old
  · cases List.mem_singleton.mp new
    exact reads

theorem create_none {existing : List Json} {names created : List String}
    (known : ∀ name ∈ names, named existing name = true) :
    createMissing existing created names = .ret created := by
  induction names with
  | nil => rfl
  | cons typeName rest ih =>
      rw [createMissing, if_pos (known typeName List.mem_cons_self)]
      exact ih fun name member => known name (List.mem_cons_of_mem typeName member)

theorem tells_settled (settled : Settled world.database) (now : Option Time) (quiet : Quiet past) :
    Tells (exec outside) (ensureAdminSchema now) past world fun _ log _ => Quiet log := by
  obtain ⟨database, present⟩ := Option.isSome_iff_exists.mp settled.present
  obtain ⟨_, required, filled⟩ := settled
  rw [present] at required filled
  have types : ∀ name ∈ docTypes, name ∈ database.types := by
    intro name member
    by_contra absent
    have listed : name ∈ missing (some database) := List.mem_filter.mpr ⟨member, decide_eq_true absent⟩
    rw [required] at listed
    cases listed
  unfold ensureAdminSchema
  simp only [Prog.bind_eq]
  apply tells_now_then
  intro log state kept
  rw [present]
  apply tells_send_then rfl
  · exact fun error next _ => quiet_snoc (kept quiet) rfl
  intro state
  rw [Prog.when, if_neg (show ¬ (some database).isSome = false by simp), Prog.bind_ret]
  apply tells_send_then rfl
  · exact fun error next _ => quiet_snoc (quiet_snoc (kept quiet) rfl) rfl
  intro state
  rw [create_none fun name member => (named_rows name database.types).trans (decide_eq_true (types name member)),
    Prog.bind_ret]
  apply tells_empty_then (types "LLMConfig" (by decide))
  · exact fun error answer next _ => quiet_snoc (quiet_snoc (quiet_snoc (kept quiet) rfl) rfl) rfl
  · intro answer state
    have kept' : ¬ decide (database.llmConfig = []) = true := fun empty => filled (of_decide_eq_true empty)
    rw [Prog.when, if_neg kept', Prog.bind_ret, Prog.pure_eq, tells_ret]
    exact quiet_snoc (quiet_snoc (quiet_snoc (kept quiet) rfl) rfl) rfl

end Running

/-! Runs one after another. -/

theorem ensured_settled (instant : Time) (database : Option Database) :
    Settled (some (ensured instant database)) where
  present := rfl
  required := completed_missing database
  filled := by
    change (if (completed database).llmConfig = [] then [seedDoc instant] else (completed database).llmConfig) ≠ []
    split
    · exact List.cons_ne_nil _ _
    · assumption

theorem settled_ensured {database : Database} (settled : Settled (some database)) (instant : Time) :
    ensured instant (some database) = database := by
  have same : completed (some database) = database := by
    rw [completed, settled.required]
    exact with_none database
  apply Database.ext
  · change (completed (some database)).types = database.types
    rw [same]
  · change (if (completed (some database)).llmConfig = [] then _ else (completed (some database)).llmConfig) = _
    rw [same]
    exact if_neg settled.filled

/-- One call of `ensure_admin_schema`, in a process and at a time of its own. -/
structure Attempt (N : Type) where
  now : Option Time
  outside : Outside N
  start : N

variable {N : Type}

def Attempt.instant (attempt : Attempt N) : Time := instantOf attempt.outside attempt.now attempt.start

def boot (attempt : Attempt N) (database : Option Database) :
    Except PyError (List String) × Option Database :=
  let ended := (ensureAdminSchema attempt.now).run (exec attempt.outside) ⟨database, attempt.start⟩
  (ended.1, ended.2.database)

/-- The requests of a call with their answers. -/
def callsOf (attempt : Attempt N) (database : Option Database) :
    List ((op : BootstrapOp) × Except PyError op.Res) :=
  (ensureAdminSchema attempt.now).trace (exec attempt.outside) ⟨database, attempt.start⟩

/-- The database after some calls. -/
def reboots : List (Attempt N) → Option Database → Option Database
  | [], database => database
  | attempt :: rest, database => reboots rest (boot attempt database).2

/-- None of the calls came to its end. -/
def Interrupted : List (Attempt N) → Option Database → Prop
  | [], _ => True
  | attempt :: rest, database =>
      (∃ error, (boot attempt database).1 = .error error) ∧ Interrupted rest (boot attempt database).2

theorem boot_leaves (attempt : Attempt N) (database : Option Database) :
    match (boot attempt database).1 with
    | .ok created => created = missing database ∧
        (boot attempt database).2 = some (ensured attempt.instant database)
    | .error _ => Begun database (boot attempt database).2 ∧ ¬ attempt.outside.Reliable :=
  @tells_boot N attempt.outside ⟨database, attempt.start⟩ [] attempt.now

theorem boot_completes {attempt : Attempt N} {database : Option Database} {created : List String}
    (returned : (boot attempt database).1 = .ok created) :
    created = missing database ∧ (boot attempt database).2 = some (ensured attempt.instant database) := by
  have left := boot_leaves attempt database
  rw [returned] at left
  exact left

theorem boot_interrupted {attempt : Attempt N} {database : Option Database} {error : PyError}
    (raised : (boot attempt database).1 = .error error) :
    Begun database (boot attempt database).2 ∧ ¬ attempt.outside.Reliable := by
  have left := boot_leaves attempt database
  rw [raised] at left
  exact left

/-- A call whose requests are all carried out comes to its end. -/
theorem reliable_completes {attempt : Attempt N} (reliable : attempt.outside.Reliable) (database : Option Database) :
    ∃ created, (boot attempt database).1 = .ok created := by
  cases ended : (boot attempt database).1 with
  | ok created => exact ⟨created, rfl⟩
  | error error => exact absurd reliable (boot_interrupted ended).2

theorem reboots_ensured {attempts : List (Attempt N)} {initial : Option Database}
    (interrupted : Interrupted attempts initial) (instant : Time) :
    ensured instant (reboots attempts initial) = ensured instant initial := by
  induction attempts generalizing initial with
  | nil => rfl
  | cons attempt rest ih =>
      obtain ⟨⟨error, raised⟩, later⟩ := interrupted
      exact (ih later).trans (begun_ensured (boot_interrupted raised).1 instant)

theorem boot_settled {database : Database} (settled : Settled (some database)) (attempt : Attempt N)
    {created : List String} (returned : (boot attempt (some database)).1 = .ok created) :
    created = [] ∧ Quiet (callsOf attempt (some database)) ∧ (boot attempt (some database)).2 = some database := by
  obtain ⟨rfl, left⟩ := boot_completes returned
  have quiet : Quiet (callsOf attempt (some database)) :=
    @tells_settled N attempt.outside ⟨some database, attempt.start⟩ [] settled attempt.now
      fun _ _ member => by cases member
  exact ⟨settled.required, quiet, left.trans (congrArg some (settled_ensured settled attempt.instant))⟩

/-- Whatever was there and however often the bootstrap was interrupted, one that completes
leaves every required type and a configuration, its own only where there was none, and the
next one finds nothing to do. -/
theorem reboots_settle (initial : Option Database) (attempts : List (Attempt N)) (last : Attempt N)
    (created : List String) (interrupted : Interrupted attempts initial)
    (returned : (boot last (reboots attempts initial)).1 = .ok created) :
    ∃ database, (boot last (reboots attempts initial)).2 = some database ∧
      (∀ name ∈ docTypes, name ∈ database.types) ∧ (base initial).types ⊆ database.types ∧
      database.llmConfig ≠ [] ∧
      ((base initial).llmConfig = [] → database.llmConfig = [seedDoc last.instant]) ∧
      ((base initial).llmConfig ≠ [] → database.llmConfig = (base initial).llmConfig) ∧
      ∀ (further : Attempt N) names, (boot further (some database)).1 = .ok names →
        names = [] ∧ Quiet (callsOf further (some database)) ∧
          (boot further (some database)).2 = some database := by
  have settled := ensured_settled last.instant initial
  have left := (boot_completes returned).2
  rw [reboots_ensured interrupted] at left
  refine ⟨ensured last.instant initial, left, completed_required initial, ?_, settled.filled, ?_, ?_, ?_⟩
  · exact fun name present => List.mem_append_left _ present
  · exact fun empty => if_pos empty
  · exact fun filled => if_neg filled
  · exact fun further names again => boot_settled settled further again

/-- The request that brings the countdown to one fails. -/
def interrupting : Outside Nat :=
  { fails := fun _ left => if left = 1 then (some ⟨.arcadeError, "timed out"⟩, 0) else (none, left - 1)
    refusal := fun _ => ⟨.arcadeError, "refused"⟩
    clock := fun left => (0, left) }

def steady : Outside Nat := { interrupting with fails := fun _ left => (none, left) }

theorem sample_settle :
    ∃ database, (boot ⟨some 7, steady, 0⟩ (reboots [⟨none, interrupting, 5⟩, ⟨none, interrupting, 3⟩] none)).2 =
        some database ∧
      (∀ name ∈ docTypes, name ∈ database.types) ∧ database.llmConfig = [seedDoc 7] ∧
      (boot ⟨none, steady, 0⟩ (some database)).1 = .ok [] ∧
      Quiet (callsOf ⟨none, steady, 0⟩ (some database)) := by
  have reliable : steady.Reliable := fun _ _ => rfl
  obtain ⟨created, returned⟩ := @reliable_completes Nat ⟨some 7, steady, 0⟩ reliable
    (reboots [⟨none, interrupting, 5⟩, ⟨none, interrupting, 3⟩] none)
  obtain ⟨database, left, required, _, _, seed, _, further⟩ := reboots_settle none
    [⟨none, interrupting, 5⟩, ⟨none, interrupting, 3⟩] ⟨some 7, steady, 0⟩ created
    ⟨⟨_, rfl⟩, ⟨_, rfl⟩, trivial⟩ returned
  obtain ⟨names, again⟩ := @reliable_completes Nat ⟨none, steady, 0⟩ reliable (some database)
  obtain ⟨rfl, quiet, _⟩ := further ⟨none, steady, 0⟩ names again
  exact ⟨database, left, required, seed rfl, again, quiet⟩

end Lehen.Rebooting
