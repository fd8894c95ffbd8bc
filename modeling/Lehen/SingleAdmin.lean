import Lehen.LocalCalls
import Lehen.Verification
import Mathlib.Data.List.Induction

/-!
How many local admins there are. The CLI keys its row by the username it is given, the
auto-disable by a constant; one row, disabled, is what they leave where the two agree.
-/

namespace Lehen.SingleAdmin

open AuthState LocalAdminService LocalCalls
open Prog (Leaves leaves_bind leaves_perform leaves_mono leaves_only only_bind only_perform)

variable {N : Type} (settings : AuthSettings) (admin : LocalAdminSettings) (outside : AuthOutside N)

inductive AdminCall where
  | createAdmin (username : String)
  | login (request : LoginRequest)
  | disable (siamUsername : String)

def serveAdmin : AdminCall → Auth Unit
  | .createAdmin username => (createAdmin settings username).drop
  | .login request => (login settings admin request).drop
  | .disable siamUsername => (disableOnSiamAdminLogin siamUsername).drop

def adminOnce (call : AdminCall) (world : AuthWorld N) : AuthWorld N :=
  ((serveAdmin settings admin call).run (authExec outside) world).2

/-- The world after calls one after another. -/
def adminRun (world : AuthWorld N) (calls : List AdminCall) : AuthWorld N :=
  calls.foldl (fun world call => adminOnce settings admin outside call world) world

/-- Whether a call returns. -/
def Returns (call : AdminCall) (world : AuthWorld N) : Prop :=
  ∃ value, ((serveAdmin settings admin call).run (authExec outside) world).1 = .ok value

/-- At every point of the calls there is one row at most, and a disable call that
returns leaves none enabled. -/
structure Promised (world : AuthWorld N) (calls : List AdminCall) : Prop where
  single : ∀ n, (adminRun settings admin outside world (calls.take n)).store.localAdmins.length ≤ 1
  disabled : ∀ n siamUsername, calls[n]? = some (.disable siamUsername) →
    Returns settings admin outside (.disable siamUsername)
      (adminRun settings admin outside world (calls.take n)) →
    ∀ row ∈ (adminRun settings admin outside world (calls.take (n + 1))).store.localAdmins,
      row.enabled = false

/-- All runs of the CLI are for one username, and no disable call comes after a run
for another username than the one it disables. -/
structure OneName (calls : List AdminCall) : Prop where
  same : ∀ first second, .createAdmin first ∈ calls → .createAdmin second ∈ calls → first = second
  disabled : ∀ (i j : Nat) username siamUsername, i < j → calls[i]? = some (.createAdmin username) →
    calls[j]? = some (.disable siamUsername) → username = bootstrapUsername

/-! One row. -/

/-- The table is empty, or has one row, of the username. -/
def Single (username : String) (world : AuthWorld N) : Prop :=
  world.store.localAdmins = [] ∨
    ∃ row, world.store.localAdmins = [row] ∧ row.username = username

variable {settings admin outside} {username : String} {world : AuthWorld N}

theorem single_set {after : AuthWorld N} {name : String} {set : LocalAdminRow → LocalAdminRow}
    (single : Single username world)
    (stored : after.store.localAdmins = setWhereUsername name set world.store.localAdmins)
    (keeps : ∀ row, row.username = name → (set row).username = row.username) :
    Single username after := by
  rcases single with empty | ⟨row, only, named⟩
  · left
    rw [stored, empty]
    rfl
  · right
    rw [stored, only]
    by_cases own : row.username = name
    · exact ⟨set row, by simp [setWhereUsername, own], (keeps row own).trans named⟩
    · exact ⟨row, by simp [setWhereUsername, own], named⟩

/-- Operations that neither add a row nor replace one, and disable only the bootstrap row. -/
def Harmless : AuthOp → Prop
  | .store (.insertLocalAdmin _) => False
  | .store (.replaceLocalAdmin _ _) => False
  | .store (.disableLocalAdmin username _ _) => username = bootstrapUsername
  | _ => True

/-- What a harmless operation does to the rows: it rewrites those of one username, and
switches none on. -/
structure Rewritten (before after : List LocalAdminRow) (name : String)
    (set : LocalAdminRow → LocalAdminRow) : Prop where
  rows : after = setWhereUsername name set before
  named : ∀ row, (set row).username = row.username
  enabled : ∀ row, (set row).enabled = row.enabled ∨
    name = bootstrapUsername ∧ (set row).enabled = false

theorem rewritten_same (rows : List LocalAdminRow) : Rewritten rows rows "" id := by
  constructor
  · simp [setWhereUsername]
  · exact fun _ => rfl
  · exact fun _ => .inl rfl

theorem rewritten_harmless (op : AuthOp) (world : AuthWorld N) (harmless : Harmless op) :
    ∃ name set, Rewritten world.store.localAdmins (authExec outside op world).2.store.localAdmins
      name set := by
  cases op with
  | store statement =>
      rcases auth_store outside statement world with ⟨_, _, same⟩ | ⟨_, same⟩
      · rw [same]
        exact ⟨_, _, rewritten_same _⟩
      · rw [same]
        cases statement with
        | insertLocalAdmin doc => exact harmless.elim
        | replaceLocalAdmin name doc => exact harmless.elim
        | disableLocalAdmin name ts who =>
            exact ⟨name, _, rfl, fun _ => rfl, fun _ => .inr ⟨harmless, rfl⟩⟩
        | setFailedAttempts name attempts lockedUntil =>
            exact ⟨name, _, rfl, fun _ => rfl, fun _ => .inl rfl⟩
        | setSuccessfulLogin name ts => exact ⟨name, _, rfl, fun _ => rfl, fun _ => .inl rfl⟩
        | selectLocalAdmin name => exact ⟨_, _, rewritten_same _⟩
        | insertLoginEvent event => exact ⟨_, _, rewritten_same _⟩
        | insertRotation event => exact ⟨_, _, rewritten_same _⟩
  | _ =>
      rw [auth_elsewhere outside _ world fun _ same => by cases same]
      exact ⟨_, _, rewritten_same _⟩

theorem single_harmless (op : AuthOp) (world : AuthWorld N) (harmless : Harmless op)
    (single : Single username world) : Single username (authExec outside op world).2 := by
  obtain ⟨name, set, rewritten⟩ := @rewritten_harmless N outside op world harmless
  exact single_set single rewritten.rows fun row _ => rewritten.named row

/-- No row is enabled. -/
def AllOff (world : AuthWorld N) : Prop := ∀ row ∈ world.store.localAdmins, row.enabled = false

theorem off_harmless (op : AuthOp) (world : AuthWorld N) (harmless : Harmless op)
    (off : AllOff world) : AllOff (authExec outside op world).2 := by
  obtain ⟨name, set, rewritten⟩ := @rewritten_harmless N outside op world harmless
  intro row member
  rw [rewritten.rows, setWhereUsername, List.mem_map] at member
  obtain ⟨before, there, rfl⟩ := member
  split
  · rcases rewritten.enabled before with same | ⟨_, switched⟩
    · rw [same]
      exact off before there
    · exact switched
  · exact off before there

theorem harmless_apart (op : AuthOp) (unstored : Unstored op) : Harmless op := by
  cases op with
  | store statement => exact unstored.elim
  | _ => trivial

theorem harmless_hit (limit : Nat) (key : String) : (hitAndCheck limit key).Only Harmless :=
  Prog.only_mono (unstored_hit limit key) harmless_apart

theorem harmless_record {username clientIp userAgent : String} {outcome : LoginOutcome}
    {requestId : Option String} :
    (recordLoginEvent username clientIp userAgent outcome requestId).Only Harmless :=
  only_record harmless_apart fun _ _ => trivial

theorem harmless_refuse {α : Type} {request : LoginRequest} {outcome : LoginOutcome} :
    (refuseLogin request outcome : Auth α).Only Harmless :=
  only_refuse harmless_apart fun _ _ => trivial

theorem harmless_fetch (username : String) : (fetchRow username).Only Harmless := by
  apply only_bind (only_perform trivial)
  exact fun _ => trivial

theorem harmless_login (request : LoginRequest) : (login settings admin request).Only Harmless := by
  apply only_bind (harmless_hit _ _)
  intro ipAllowed
  split
  · exact harmless_refuse
  · apply only_bind (harmless_hit _ _)
    intro userAllowed
    split
    · exact harmless_refuse
    · apply only_bind (harmless_fetch _)
      intro row
      apply only_bind (only_perform trivial)
      intro now
      split
      · exact harmless_refuse
      · split
        · exact harmless_refuse
        · split
          · exact harmless_refuse
          · split
            · apply only_bind (only_perform trivial)
              exact fun _ => harmless_refuse
            · apply only_bind (only_perform trivial)
              intro _
              apply only_bind
              · apply only_bind (only_perform trivial)
                exact fun _ => trivial
              · intro token
                apply only_bind harmless_record
                intro _
                apply only_bind (only_perform trivial)
                exact fun _ => trivial

theorem harmless_disable (siamUsername : String) :
    (disableOnSiamAdminLogin siamUsername).Only Harmless := by
  apply only_bind (harmless_fetch _)
  intro row
  split
  · trivial
  · split
    · trivial
    · apply only_bind (only_perform trivial)
      intro now
      refine only_bind ?_ fun _ => ?_
      · exact only_perform rfl
      · apply only_bind harmless_record
        exact fun _ => trivial

theorem rows_of_single (single : Single username world)
    (missing : rowOf world.store.localAdmins username = none) : world.store.localAdmins = [] := by
  rcases single with empty | ⟨row, only, named⟩
  · exact empty
  · rw [rowOf, only] at missing
    simp [named] at missing

theorem single_then {α β : Type} {body : Auth α} {next : α → Auth β} (harmless : body.Only Harmless)
    (single : Single username world)
    (rest : ∀ value after, Single username after →
      Leaves (authExec outside) (next value) after fun _ last => Single username last) :
    Leaves (authExec outside) (body.bind next) world fun _ last => Single username last := by
  apply Prog.leaves_yields_then (Single username) (Prog.yields_of_only harmless) single single_harmless
  · exact fun value after _ single => rest value after single
  · exact fun _ _ single => single

/-- What a call reads is the row it has in the end, if it has read at all. -/
theorem fetch_read (username : String) (world : AuthWorld N) :
    Leaves (authExec outside) (fetchRow username) world fun outcome after =>
      after.store = world.store ∧
        ∀ row, outcome = .ok row → row = rowOf world.store.localAdmins username := by
  unfold fetchRow query
  simp only [Prog.bind_eq, Prog.pure_eq]
  rw [leaves_bind, leaves_perform]
  rcases auth_store outside (.selectLocalAdmin username) world with ⟨error, failed, same⟩ | ⟨answer, same⟩
  · rw [failed]
    exact ⟨same, nofun⟩
  · rw [answer]
    refine ⟨same, fun row read => ?_⟩
    cases read
    rfl

theorem single_saved (single : Single username world) (doc : LocalAdminRow)
    (named : doc.username = username) :
    Leaves (authExec outside) (saveRow username (rowOf world.store.localAdmins username) doc) world
      fun _ after => Single username after := by
  unfold saveRow
  split
  · rw [command, leaves_perform]
    rcases auth_store outside (.replaceLocalAdmin username doc) world with ⟨_, _, same⟩ | ⟨_, same⟩
    · rw [Single, same]
      exact single
    · apply single_set single (congrArg AuthStore.localAdmins same)
      exact fun row own => named.trans own.symm
  · next fresh =>
      have empty := rows_of_single single (Option.not_isSome_iff_eq_none.mp fresh)
      rw [command, leaves_perform]
      rcases auth_store outside (.insertLocalAdmin doc) world with ⟨_, _, same⟩ | ⟨_, same⟩
      · rw [Single, same]
        exact single
      · right
        refine ⟨doc, ?_, named⟩
        rw [same]
        simp [AuthStatement.apply, empty]

/-- A run of the CLI leaves the one row that its username has. -/
theorem single_created (single : Single username world) :
    Leaves (authExec outside) (createAdmin settings username) world fun _ after =>
      Single username after := by
  unfold createAdmin bootstrapSetPassword
  simp only [Prog.bind_eq, Prog.pure_eq, Prog.bind_assoc]
  apply Prog.leaves_require_then
  · intro _
    refine single_then ?_ single fun password first single => ?_
    · exact only_perform trivial
    refine single_then ?_ single fun passwordHash second single => ?_
    · exact only_perform trivial
    refine single_then ?_ single fun now third single => ?_
    · exact only_perform trivial
    rw [leaves_bind]
    apply leaves_mono (fetch_read username third)
    rintro outcome fourth ⟨same, read⟩
    have single : Single username fourth := by
      rw [Single, same]
      exact single
    cases outcome with
    | error error => exact single
    | ok existing =>
        rw [← same] at read
        obtain rfl := read existing rfl
        dsimp only
        rw [leaves_bind]
        -- The row is overwritten if it is there, and inserted into an empty table if not.
        apply leaves_mono (single_saved single _ rfl)
        intro outcome fifth single
        cases outcome with
        | error error => exact single
        | ok _ =>
            refine single_then ?_ single fun id sixth single => ?_
            · exact only_perform trivial
            refine single_then ?_ single fun _ last single => single
            exact only_perform trivial
  · exact fun _ => single

/-- An auto-disable that returns leaves the one row of its username disabled. -/
theorem disabled_all (single : Single bootstrapUsername world) (siamUsername : String) :
    Leaves (authExec outside) (disableOnSiamAdminLogin siamUsername) world fun outcome after =>
      ∀ value, outcome = .ok value → AllOff after := by
  unfold disableOnSiamAdminLogin
  simp only [Prog.bind_eq, Prog.pure_eq]
  rw [leaves_bind]
  apply leaves_mono (fetch_read bootstrapUsername world)
  rintro outcome first ⟨same, read⟩
  have single : Single bootstrapUsername first := by
    rw [Single, same]
    exact single
  cases outcome with
  | error error => rintro _ ⟨⟩
  | ok existing =>
      rw [← same] at read
      obtain rfl := read existing rfl
      dsimp only
      split
      · next missing =>
          rw [Prog.leaves_ret]
          intro value _ row member
          rw [rows_of_single single missing] at member
          cases member
      · next row found =>
          -- The row it has found is the only one.
          have only : first.store.localAdmins = [row] := by
            rcases single with empty | ⟨only, rows, named⟩
            · rw [empty] at found
              cases found
            · rw [rows, rowOf] at found
              simp only [named, decide_true, List.filter_cons_of_pos, List.filter_nil, List.head?_cons,
                Option.some.injEq] at found
              rw [rows, found]
          split
          · next off =>
              rw [Prog.leaves_ret]
              intro value _ other member
              rw [only, List.mem_singleton] at member
              rw [member]
              exact off
          · rw [leaves_bind, clock, leaves_perform]
            simp only [authExec]
            rw [leaves_bind, command, leaves_perform]
            rcases auth_store outside (.disableLocalAdmin bootstrapUsername
                (outside.clock first.outside).1 siamUsername)
                ({ first with outside := (outside.clock first.outside).2 }) with
              ⟨error, failed, _⟩ | ⟨answer, stored⟩
            · rw [failed]
              rintro _ ⟨⟩
            · rw [answer]
              have off : AllOff (authExec outside (.store (.disableLocalAdmin bootstrapUsername
                  (outside.clock first.outside).1 siamUsername))
                  { first with outside := (outside.clock first.outside).2 }).2 := by
                intro other member
                rw [stored] at member
                simp only [AuthStatement.apply, only, setWhereUsername, List.map_cons, List.map_nil,
                  List.mem_singleton] at member
                rw [member]
                split
                · rfl
                · next foreign => exact absurd (row_of_username found) foreign
              apply Prog.leaves_yields_then AllOff (Prog.yields_of_only harmless_record) off off_harmless
              · exact fun _ _ _ off _ _ => off
              · rintro _ _ _ _ ⟨⟩

theorem disabled_once (single : Single bootstrapUsername world) (siamUsername : String) (value : Unit)
    (returned : ((serveAdmin settings admin (.disable siamUsername)).run (authExec outside) world).1 =
      .ok value) :
    AllOff (adminOnce settings admin outside (.disable siamUsername) world) := by
  have through : Leaves (authExec outside) (serveAdmin settings admin (.disable siamUsername)) world
      fun outcome after => ∀ value, outcome = .ok value → AllOff after := by
    rw [serveAdmin, Prog.drop, leaves_bind]
    apply leaves_mono (disabled_all single siamUsername)
    intro outcome after off
    cases outcome with
    | ok answer => exact fun _ _ => off answer rfl
    | error error => rintro _ ⟨⟩
  exact through value returned

/-! The calls, where the usernames agree. -/

theorem single_once (single : Single username world) {call : AdminCall}
    (own : ∀ other, call = .createAdmin other → settings.localAdmin = none ∨ other = username) :
    Single username (adminOnce settings admin outside call world) := by
  cases call with
  | createAdmin other =>
      rcases own other rfl with unconfigured | rfl
      · -- The CLI stops before it has touched the store.
        have refused : Leaves (authExec outside) (createAdmin settings other) world fun _ after =>
            Single username after := by
          apply Prog.leaves_require_then
          · intro configured
            rw [unconfigured] at configured
            cases configured
          · exact fun _ => single
        exact Prog.leaves_drop refused
      · exact Prog.leaves_drop (single_created single)
  | login request =>
      exact Prog.leaves_drop (leaves_only (Single username) (harmless_login request) single
        single_harmless)
  | disable siamUsername =>
      exact Prog.leaves_drop (leaves_only (Single username) (harmless_disable siamUsername) single
        single_harmless)

theorem single_run {calls : List AdminCall} (single : Single username world)
    (own : ∀ other, .createAdmin other ∈ calls → settings.localAdmin = none ∨ other = username) :
    Single username (adminRun settings admin outside world calls) := by
  induction calls generalizing world with
  | nil => exact single
  | cons call rest ih =>
      apply ih
      · apply single_once single
        intro other same
        rw [same] at own
        exact own other List.mem_cons_self
      · exact fun other member => own other (List.mem_cons_of_mem _ member)

theorem one_of_single (single : Single username world) : world.store.localAdmins.length ≤ 1 := by
  rcases single with empty | ⟨row, only, _⟩
  · simp [empty]
  · simp [only]

/-- The username of the runs of the CLI, if there is one. -/
theorem name_of_same {calls : List AdminCall}
    (same : ∀ first second, .createAdmin first ∈ calls → .createAdmin second ∈ calls →
      first = second) :
    ∃ username, ∀ other, .createAdmin other ∈ calls → other = username := by
  by_cases some_run : ∃ username, AdminCall.createAdmin username ∈ calls
  · obtain ⟨username, member⟩ := some_run
    exact ⟨username, fun other also => same other username also member⟩
  · exact ⟨"", fun other member => absurd ⟨other, member⟩ some_run⟩

theorem run_snoc (world : AuthWorld N) (calls : List AdminCall) (n : Nat) {call : AdminCall}
    (there : calls[n]? = some call) :
    adminRun settings admin outside world (calls.take (n + 1)) =
      adminOnce settings admin outside call (adminRun settings admin outside world (calls.take n)) := by
  rw [List.take_add_one, there, adminRun, List.foldl_append]
  rfl

theorem promised_of_name {calls : List AdminCall} (empty : world.store.localAdmins = [])
    (name : settings.localAdmin = none ∨ OneName calls) :
    Promised settings admin outside world calls := by
  constructor
  · intro n
    obtain ⟨username, own⟩ : ∃ username, ∀ other, .createAdmin other ∈ calls →
        settings.localAdmin = none ∨ other = username := by
      rcases name with unconfigured | name
      · exact ⟨"", fun _ _ => .inl unconfigured⟩
      · obtain ⟨username, own⟩ := name_of_same name.same
        exact ⟨username, fun other member => .inr (own other member)⟩
    have single : Single username (adminRun settings admin outside world (calls.take n)) :=
      single_run (.inl empty) fun other member => own other (List.mem_of_mem_take member)
    exact one_of_single single
  · intro n siamUsername there ⟨value, returned⟩
    have single : Single bootstrapUsername (adminRun settings admin outside world (calls.take n)) := by
      apply single_run (.inl empty)
      intro other member
      rcases name with unconfigured | name
      · exact .inl unconfigured
      · obtain ⟨i, earlier, at_i⟩ := List.mem_take_iff_getElem.mp member
        exact .inr (name.disabled i n other siamUsername (by omega) (by simp [← at_i]) there)
    rw [run_snoc world calls n there]
    exact disabled_once single siamUsername value returned

/-! The calls, where they do not. -/

/-- A row of the username, which only the disable call for the bootstrap row switches off. -/
def Standing (username : String) (world : AuthWorld N) : Prop :=
  ∃ row ∈ world.store.localAdmins,
    row.username = username ∧ (username ≠ bootstrapUsername → row.enabled = true)

/-- Operations that take no such row away. -/
def Sparing (op : AuthOp) : Prop :=
  match op with
  | .store (.replaceLocalAdmin username doc) => doc.username = username ∧ doc.enabled = true
  | .store (.insertLocalAdmin _) => True
  | op => Harmless op

theorem sparing_of_harmless (op : AuthOp) (harmless : Harmless op) : Sparing op := by
  cases op with
  | store statement =>
      cases statement with
      | insertLocalAdmin doc => trivial
      | replaceLocalAdmin name doc => exact harmless.elim
      | _ => exact harmless
  | _ => exact harmless

theorem standing_rewritten {after : AuthWorld N} {name : String} {set : LocalAdminRow → LocalAdminRow}
    (rewritten : Rewritten world.store.localAdmins after.store.localAdmins name set)
    (standing : Standing username world) : Standing username after := by
  obtain ⟨row, member, named, enabled⟩ := standing
  by_cases own : row.username = name
  · refine ⟨set row, ?_, (rewritten.named row).trans named, fun other => ?_⟩
    · rw [rewritten.rows, setWhereUsername]
      exact List.mem_map.mpr ⟨row, member, if_pos own⟩
    · rcases rewritten.enabled row with same | ⟨bootstrap, _⟩
      · exact same.trans (enabled other)
      · exact absurd (named.symm.trans (own.trans bootstrap)) other
  · refine ⟨row, ?_, named, enabled⟩
    rw [rewritten.rows, setWhereUsername]
    exact List.mem_map.mpr ⟨row, member, if_neg own⟩

theorem standing_kept (op : AuthOp) (world : AuthWorld N) (sparing : Sparing op)
    (standing : Standing username world) : Standing username (authExec outside op world).2 := by
  have rewriting (harmless : Harmless op) : Standing username (authExec outside op world).2 := by
    obtain ⟨name, set, rewritten⟩ := @rewritten_harmless N outside op world harmless
    exact standing_rewritten rewritten standing
  cases op with
  | store statement =>
      cases statement with
      | insertLocalAdmin doc =>
          rcases auth_store outside (.insertLocalAdmin doc) world with ⟨_, _, same⟩ | ⟨_, same⟩
          · rw [Standing, same]
            exact standing
          · obtain ⟨row, member, counts⟩ := standing
            refine ⟨row, ?_, counts⟩
            rw [same]
            exact List.mem_append_left _ member
      | replaceLocalAdmin name doc =>
          rcases auth_store outside (.replaceLocalAdmin name doc) world with ⟨_, _, same⟩ | ⟨_, same⟩
          · rw [Standing, same]
            exact standing
          · obtain ⟨row, member, named, enabled⟩ := standing
            have rows := congrArg AuthStore.localAdmins same
            by_cases own : row.username = name
            · refine ⟨doc, ?_, sparing.1.trans (own.symm.trans named), fun _ => sparing.2⟩
              rw [rows]
              exact List.mem_map.mpr ⟨row, member, if_pos own⟩
            · refine ⟨row, ?_, named, enabled⟩
              rw [rows]
              exact List.mem_map.mpr ⟨row, member, if_neg own⟩
      | _ => exact rewriting sparing
  | _ => exact rewriting sparing

theorem sparing_create (username : String) : (createAdmin settings username).Only Sparing := by
  unfold createAdmin bootstrapSetPassword
  simp only [Prog.bind_eq, Prog.pure_eq, Prog.bind_assoc]
  apply only_bind (Prog.only_require _ _)
  intro _
  apply only_bind (only_perform trivial)
  intro password
  apply only_bind (only_perform trivial)
  intro passwordHash
  apply only_bind (only_perform trivial)
  intro now
  apply only_bind (Prog.only_mono (harmless_fetch username) sparing_of_harmless)
  intro existing
  apply only_bind
  · unfold saveRow
    split
    · exact only_perform ⟨rfl, rfl⟩
    · exact only_perform trivial
  · intro _
    apply only_bind (only_perform trivial)
    intro id
    apply only_bind (only_perform trivial)
    exact fun _ => trivial

theorem standing_once (call : AdminCall) (standing : Standing username world) :
    Standing username (adminOnce settings admin outside call world) := by
  have kept {α : Type} {body : Auth α} (sparing : body.Only Sparing) :
      Leaves (authExec outside) body.drop world fun _ after => Standing username after :=
    Prog.leaves_drop (leaves_only (Standing username) sparing standing standing_kept)
  cases call with
  | createAdmin other => exact kept (sparing_create other)
  | login request => exact kept (Prog.only_mono (harmless_login request) sparing_of_harmless)
  | disable siamUsername =>
      exact kept (Prog.only_mono (harmless_disable siamUsername) sparing_of_harmless)

/-- On a store that executes every statement, a run of the CLI puts the row there. -/
theorem standing_created (reliable : outside.Reliable) (configured : settings.localAdmin.isSome = true)
    (username : String) (world : AuthWorld N) :
    Standing username (adminOnce settings admin outside (.createAdmin username) world) := by
  have rotated (password : String) (between : AuthWorld N) :
      Leaves (authExec outside) (bootstrapSetPassword username password) between
        fun _ after => Standing username after := by
    have done := rotate_tells reliable username password between
    obtain ⟨now, own⟩ := done.own
    have member := List.mem_of_head? own
    exact ⟨_, (List.mem_filter.mp member).1, rfl, fun _ => rfl⟩
  suffices created : Leaves (authExec outside) (createAdmin settings username) world
      fun _ after => Standing username after from Prog.leaves_drop created
  unfold createAdmin
  simp only [Prog.bind_eq, Prog.pure_eq]
  apply Prog.leaves_require_then
  · intro _
    rw [leaves_bind, leaves_perform]
    simp only [authExec]
    rw [leaves_bind]
    apply leaves_mono (rotated _ _)
    intro outcome after standing
    cases outcome <;> exact standing
  · exact fun refused => absurd configured refused

theorem standing_run {calls : List AdminCall} (standing : Standing username world) :
    Standing username (adminRun settings admin outside world calls) := by
  induction calls generalizing world with
  | nil => exact standing
  | cons call rest ih => exact ih (standing_once call standing)

theorem standing_after (reliable : outside.Reliable) (configured : settings.localAdmin.isSome = true)
    {calls : List AdminCall} (world : AuthWorld N) (member : .createAdmin username ∈ calls) :
    Standing username (adminRun settings admin outside world calls) := by
  induction calls generalizing world with
  | nil => cases member
  | cons call rest ih =>
      rcases List.mem_cons.mp member with rfl | later
      · have created := @standing_created N settings admin outside reliable configured username world
        rw [adminRun, List.foldl_cons]
        exact standing_run created
      · exact ih _ later

theorem disable_completes (reliable : outside.Reliable) (siamUsername : String) (world : AuthWorld N) :
    Returns settings admin outside (.disable siamUsername) world := by
  have done := disable_tells reliable siamUsername world
  obtain ⟨disabled, answer⟩ := done.returned
  have through : Leaves (authExec outside) (serveAdmin settings admin (.disable siamUsername)) world
      fun outcome _ => ∃ value, outcome = .ok value := by
    rw [serveAdmin, Prog.drop, leaves_bind, Leaves, answer]
    exact ⟨(), rfl⟩
  exact through

theorem two_of_standing {first second : String} (different : first ≠ second)
    (one : Standing first world) (other : Standing second world) :
    2 ≤ world.store.localAdmins.length := by
  obtain ⟨row, member, named, _⟩ := one
  obtain ⟨row', member', named', _⟩ := other
  rcases rows : world.store.localAdmins with _ | ⟨only, _ | ⟨another, rest⟩⟩
  · rw [rows] at member
    cases member
  · rw [rows, List.mem_singleton] at member member'
    rw [member] at named
    rw [member'] at named'
    exact absurd (named.symm.trans named') different
  · simp

theorem name_of_promised (reliable : outside.Reliable) (configured : settings.localAdmin.isSome = true)
    {calls : List AdminCall} (promised : Promised settings admin outside world calls) :
    OneName calls := by
  constructor
  · intro first second one other
    by_contra different
    have standing {username : String} (member : .createAdmin username ∈ calls) :=
      @standing_after N settings admin outside username reliable configured calls world member
    have two := two_of_standing different (standing one) (standing other)
    have single := promised.single calls.length
    rw [List.take_length] at single
    omega
  · intro i j username siamUsername before created disabling
    by_contra other
    have member : .createAdmin username ∈ calls.take j := by
      apply List.mem_of_getElem?
      exact (List.getElem?_take_of_lt before).trans created
    have standing := @standing_after N settings admin outside username reliable configured _ world member
    have after := @standing_once N settings admin outside username _ (.disable siamUsername) standing
    rw [← run_snoc world calls j disabling] at after
    obtain ⟨row, there, named, enabled⟩ := after
    have off := promised.disabled j siamUsername disabling (disable_completes reliable _ _) row there
    rw [enabled other] at off
    cases off

/-- One row, disabled by the auto-disable, is what is left exactly where the CLI was run
for one username, and before an auto-disable only for the bootstrap one. -/
theorem single_admin {world : AuthWorld N} (empty : world.store.localAdmins = [])
    (calls : List AdminCall) :
    (settings.localAdmin = none ∨ OneName calls → Promised settings admin outside world calls) ∧
      (outside.Reliable → (Promised settings admin outside world calls ↔
        settings.localAdmin = none ∨ OneName calls)) := by
  constructor
  · exact promised_of_name empty
  · intro reliable
    constructor
    · intro promised
      cases configured : settings.localAdmin with
      | none => exact .inl rfl
      | some keys =>
          right
          apply name_of_promised reliable _ promised
          rw [configured]
          rfl
    · exact promised_of_name empty

/-! Calls on a fresh install. -/

open Verification (sampleAuth stillAuth warmProcess)

def freshWorld : AuthWorld Unit := ⟨AuthStore.empty, warmProcess, ()⟩

def bootstrapCalls : List AdminCall :=
  [.createAdmin "admin", .createAdmin "admin", .disable "alice", .disable "bob"]

theorem bootstrap_single :
    Promised sampleAuth { signingKey := [] } stillAuth freshWorld bootstrapCalls := by
  have name : OneName bootstrapCalls := by
    constructor
    · intro first second one other
      simp only [bootstrapCalls, List.mem_cons, AdminCall.createAdmin.injEq, reduceCtorEq,
        List.not_mem_nil, or_self, or_false] at one other
      rw [one, other]
    · intro i j username siamUsername _ created _
      have member := List.mem_of_getElem? created
      simp only [bootstrapCalls, List.mem_cons, AdminCall.createAdmin.injEq, reduceCtorEq,
        List.not_mem_nil, or_self, or_false] at member
      exact member
  exact (single_admin rfl bootstrapCalls).1 (.inr name)

/-- Two usernames make two rows, and the row of another username stays enabled. -/
theorem other_name_stays :
    ¬ Promised sampleAuth { signingKey := [] } stillAuth freshWorld
        [.createAdmin "admin", .createAdmin "ops"] ∧
      ¬ Promised sampleAuth { signingKey := [] } stillAuth freshWorld
        [.createAdmin "ops", .disable "alice"] := by
  constructor
  · intro promised
    have two := promised.single 2
    exact absurd two (by decide)
  · intro promised
    have off := promised.disabled 1 "alice" rfl ⟨(), rfl⟩
    have on := off _ List.mem_cons_self
    cases on

end Lehen.SingleAdmin
