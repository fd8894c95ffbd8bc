import Lehen.Offering
import Lehen.Keeping
import Lehen.Uniqueness

/-!
`multi_connection_allowed`: on an instance that does not allow it, a user has at
most one active connection. The grants check a mailbox and never read the flag.
-/

namespace Lehen.Cardinality

open Storage OAuth AuditService ConnectionsService IntegrationsService Footprint Keeping Granting
open Uniqueness (activeRows apply_active check_truthful)
open Prog (Leaves keeps_only leaves_only leaves_mono)

variable {N : Type}

/-- The active rows of a user on an instance. -/
def held (rows : List ConnectionRow) (userSub instanceId : String) : List ConnectionRow :=
  rows.filter (ConnectionWhere.ofUserOn userSub instanceId).holds

/-- No user has two active rows on the instance. -/
def Single (rows : List ConnectionRow) (instanceId : String) : Prop :=
  ∀ userSub, (held rows userSub instanceId).length ≤ 1

/-- What the flag promises of a store. -/
def FlagKept (store : Store) : Prop :=
  ∀ place ∈ store.instances, place.multiConnectionAllowed = false →
    Single store.connections place.id

def Restricted (store : Store) (instanceId : String) : Prop :=
  ∃ place ∈ store.instances, place.id = instanceId ∧ place.multiConnectionAllowed = false

/-- Where one connection is allowed, the user has none but to that mailbox. -/
def Fits (store : Store) (userSub instanceId externalSubject : String) : Prop :=
  Restricted store instanceId →
    ∀ row ∈ held store.connections userSub instanceId, row.externalSubject = externalSubject

/-- Grants that pass the gates fit, and an instance is restricted only while no
user has two connections to it. -/
def Respectful (settings : Settings) (outside : Outside N) (world : World N) : Request → Prop
  | .grant user instanceId _ externalSubject _ _ =>
      ∀ place, ((passGates user instanceId).run (exec outside) world).1 = .ok place →
        Fits world.store user.sub instanceId externalSubject
  | .completeGrant user instanceId code state _ =>
      ∀ granted, ((authorize settings user instanceId code state).run (exec outside) world).1 =
          .ok granted →
        Fits world.store user.sub instanceId granted.externalSubject
  | .createInstance _ instanceId _ _ _ multiConnectionAllowed _ _ =>
      multiConnectionAllowed = false → Single world.store.connections instanceId
  | .updateInstance _ instanceId changes _ =>
      changes.multiConnectionAllowed = some false → Single world.store.connections instanceId
  | _ => True

/-! What an operation does to the rows of a user on an instance. -/

theorem apply_held (set : ConnectionSet) (row : ConnectionRow) (userSub instanceId : String)
    (holds : (ConnectionWhere.ofUserOn userSub instanceId).holds (set.apply row) = true) :
    (ConnectionWhere.ofUserOn userSub instanceId).holds row = true := by
  simp only [ConnectionWhere.holds, Bool.and_eq_true, decide_eq_true_eq] at holds ⊢
  have active := apply_active set row holds.2
  cases set <;> exact ⟨holds.1, active⟩

theorem held_update (rows : List ConnectionRow) (id : String) (set : ConnectionSet)
    (userSub instanceId : String) :
    (held (setWhereId id set rows) userSub instanceId).length ≤
      (held rows userSub instanceId).length := by
  simp only [held, setWhereId, ← List.countP_eq_length_filter, List.countP_map]
  apply List.countP_mono_left
  intro row _ counted
  simp only [Function.comp] at counted
  split at counted
  · exact apply_held set row userSub instanceId counted
  · exact counted

theorem single_update {rows : List ConnectionRow} {instanceId : String} (id : String)
    (set : ConnectionSet) (single : Single rows instanceId) :
    Single (setWhereId id set rows) instanceId :=
  fun userSub => (held_update rows id set userSub instanceId).trans (single userSub)

theorem held_insert (rows : List ConnectionRow) (row : ConnectionRow) (userSub instanceId : String) :
    held (rows ++ [row]) userSub instanceId =
      held rows userSub instanceId ++
        if (ConnectionWhere.ofUserOn userSub instanceId).holds row = true then [row] else [] := by
  simp only [held, List.filter_append, List.filter_singleton, Bool.cond_eq_ite]

/-- Fewer rows, on instances there were before. -/
theorem flag_kept_fewer {before after : Store}
    (rows : ∀ instanceId, Single before.connections instanceId → Single after.connections instanceId)
    (places : ∀ place ∈ after.instances, place ∈ before.instances) (kept : FlagKept before) :
    FlagKept after :=
  fun place member restricted => rows place.id (kept place (places place member) restricted)

theorem flag_kept_diminishing (outside : Outside N) (op : Op) (world : World N)
    (diminishing : Diminishing op) (kept : FlagKept world.store) :
    FlagKept (exec outside op world).2.store := by
  have same (unchanged : (exec outside op world).2.store = world.store) :
      FlagKept (exec outside op world).2.store := by
    rw [unchanged]
    exact kept
  cases op with
  | store statement =>
      rcases exec_moves outside statement world with refused | stored
      · exact same refused
      · rw [stored]
        cases statement with
        | insertConnection row => exact diminishing.elim
        | insertInstance doc => exact diminishing.elim
        | updateInstance id doc => exact diminishing.elim
        | updateConnections id set =>
            exact flag_kept_fewer (fun _ => single_update id set) (fun _ member => member) kept
        | deleteInstance id =>
            apply flag_kept_fewer _ _ kept
            · exact fun _ single => single
            · exact fun _ member => (List.mem_filter.mp member).1
        | _ => exact kept
  | _ => exact same (exec_elsewhere outside _ world fun statement different => by cases different)

/-- While a document with its flag is written, the instance has single
connections if the flag asks for them. -/
def Ready (docId : String) (multi : Bool) (store : Store) : Prop :=
  FlagKept store ∧ (multi = false → Single store.connections docId)

theorem ready_flagging (outside : Outside N) {instanceId docId : String} {multi : Bool} (op : Op)
    (world : World N) (flagging : Flagging instanceId docId multi op)
    (ready : Ready docId multi world.store) : Ready docId multi (exec outside op world).2.store := by
  obtain ⟨kept, single⟩ := ready
  have fewer (diminishing : Diminishing op) : Ready docId multi (exec outside op world).2.store := by
    refine ⟨flag_kept_diminishing outside op world diminishing kept, fun flag => ?_⟩
    rcases unlicensed_rows outside op world (unlicensed_of_diminishing op diminishing) with
      same | ⟨id, set, updated⟩
    · rw [same]
      exact single flag
    · rw [updated]
      exact single_update id set (single flag)
  cases op with
  | store statement =>
      cases statement with
      | insertInstance doc =>
          rcases exec_moves outside (.insertInstance doc) world with same | same
          · rw [same]
            exact ⟨kept, single⟩
          · rw [same]
            refine ⟨fun place member restricted => ?_, single⟩
            rcases List.mem_append.mp member with earlier | new
            · exact kept place earlier restricted
            · obtain rfl := List.mem_singleton.mp new
              rw [flagging.1]
              exact single (flagging.2.symm.trans restricted)
      | updateInstance id doc =>
          rcases exec_moves outside (.updateInstance id doc) world with same | same
          · rw [same]
            exact ⟨kept, single⟩
          · rw [same]
            refine ⟨fun place member restricted => ?_, single⟩
            obtain ⟨old, earlier, rfl⟩ := List.mem_map.mp member
            by_cases named : old.id = id
            · simp only [if_pos named] at restricted ⊢
              rw [flagging.2.1]
              exact single (flagging.2.2.symm.trans restricted)
            · simp only [if_neg named] at restricted ⊢
              exact kept old earlier restricted
      | _ => exact fewer flagging
  | _ => exact fewer flagging

/-! Grants: the table is as before, or has one more row for the mailbox. -/

/-- What a grant for a mailbox leaves of a store. -/
structure Granted (box : Mailbox) (before after : Store) : Prop where
  instances : after.instances = before.instances
  rows : after.connections = before.connections ∨
    (activeRows before box = [] ∧ ∃ row, mailbox row = box ∧
      after.connections = before.connections ++ [row])

theorem granted_same {box : Mailbox} {before after : Store} (same : after = before) :
    Granted box before after := by
  rw [same]
  exact ⟨rfl, .inl rfl⟩

/-- The part of a grant behind its uniqueness check. -/
def Inserts (outside : Outside N) (box : Mailbox) {α : Type} (body : Hub α) : Prop :=
  ∀ world : World N, Leaves (exec outside) body world fun _ after =>
    after.store.instances = world.store.instances ∧
      (after.store.connections = world.store.connections ∨
        ∃ row, mailbox row = box ∧ after.store.connections = world.store.connections ++ [row])

theorem insert_then (outside : Outside N) {α : Type} (row : ConnectionRow) {rest : Unit → Hub α}
    (calm : ∀ value, (rest value).Only Calm) :
    Inserts outside (mailbox row) ((command (.insertConnection row)).bind rest) := by
  intro world
  apply leaves_statement_then
  · intro error after moved
    rcases moved with same | same
    · rw [same]
      exact ⟨rfl, .inl rfl⟩
    · rw [same]
      exact ⟨rfl, .inr ⟨row, rfl, rfl⟩⟩
  · intro after same
    have stays : Leaves (exec outside) (rest ()) after fun _ last => SameTables after.store last.store :=
      leaves_only _ (calm ()) (same_tables_refl _) fun op state calm tables =>
        have next := calm_tables outside op state calm
        ⟨next.connections.trans tables.connections, next.instances.trans tables.instances,
          next.siam.trans tables.siam⟩
    apply leaves_mono stays
    intro _ last tables
    rw [tables.instances, tables.connections, same]
    exact ⟨rfl, .inr ⟨row, rfl, rfl⟩⟩

theorem asking_then_inserts (outside : Outside N) {α β : Type} {box : Mailbox} {body : Hub α}
    {rest : α → Hub β} (asking : body.Only Asking)
    (inserts : ∀ value, Inserts outside box (rest value)) :
    Inserts outside box (body.bind rest) := by
  intro world
  apply leaves_asking_then asking
  · intro error after same
    rw [same]
    exact ⟨rfl, .inl rfl⟩
  · intro value after _ same
    rw [← same]
    exact inserts value after

theorem unconnected_then (outside : Outside N) {α : Type} (box : Mailbox) (text : String)
    {rest : Unit → Hub α} (inserts : Inserts outside box (rest ())) (world : World N) :
    Leaves (exec outside)
      ((requireUnconnected box.userSub box.instanceId box.externalSubject text).bind rest) world
      fun _ after => Granted box world.store after.store := by
  rw [requireUnconnected, Prog.bind_eq, Prog.bind_assoc]
  apply leaves_read_then rfl
  · exact fun error after _ same => granted_same same
  · intro after same
    simp only [StoreOp.apply]
    apply Prog.leaves_require_then
    · intro unconnected
      apply leaves_mono (inserts after)
      rintro _ last ⟨instances, rows⟩
      rw [same] at instances rows
      refine ⟨instances, ?_⟩
      rcases rows with kept | added
      · exact .inl kept
      · exact .inr ⟨check_truthful world.store box unconnected, added⟩
    · exact fun _ => granted_same same

theorem grant_granted (settings : Settings) (outside : Outside N) (user : CurrentUser)
    (instanceId privacyClass externalSubject displayLabel : String) (requestId : Option String)
    (world : World N) :
    Leaves (exec outside) (grant settings user instanceId privacyClass externalSubject displayLabel
        requestId) world
      fun _ after => after.store = world.store ∨
        (∃ place, ((passGates user instanceId).run (exec outside) world).1 = .ok place) ∧
          Granted ⟨user.sub, instanceId, externalSubject⟩ world.store after.store := by
  apply leaves_asking_then (asking_gates user instanceId)
  · exact fun error after same => .inl same
  · intro place after passed same
    refine leaves_mono
      (unconnected_then outside ⟨user.sub, instanceId, externalSubject⟩ _ ?_ after) ?_
    · apply asking_then_inserts outside (asking_seq user.sub instanceId)
      intro seq
      apply asking_then_inserts outside (Prog.only_perform (asking_of_quick .clock rfl))
      intro instant
      exact insert_then outside _ fun _ => Prog.only_bind
        (Prog.only_of_straight (logging_record_consent ..) fun op logging =>
          calm_of_quiet op (quiet_of_logging op logging)) fun _ => trivial
    · intro _ last facts
      rw [same] at facts
      exact .inr ⟨⟨place, passed⟩, facts⟩

theorem complete_granted (settings : Settings) (outside : Outside N) (user : CurrentUser)
    (instanceId code state : String) (requestId : Option String) (world : World N) :
    Leaves (exec outside) (completeGrant settings user instanceId code state requestId) world
      fun _ after => after.store = world.store ∨
        ∃ granted, ((authorize settings user instanceId code state).run (exec outside) world).1 =
            .ok granted ∧
          Granted ⟨user.sub, instanceId, granted.externalSubject⟩ world.store after.store := by
  apply leaves_asking_then (asking_authorize settings user instanceId code state)
  · exact fun error after same => .inl same
  · intro granted after authorized same
    refine leaves_mono
      (unconnected_then outside ⟨user.sub, instanceId, granted.externalSubject⟩ _ ?_ after) ?_
    · apply asking_then_inserts outside (asking_seq user.sub instanceId)
      intro seq
      apply asking_then_inserts outside (Prog.only_perform (asking_of_quick .clock rfl))
      intro instant
      apply asking_then_inserts outside (Prog.only_of_straight (quick_encrypt ..) asking_of_quick)
      intro encrypted
      exact insert_then outside _ fun _ => Prog.only_bind
        (Prog.only_of_straight (logging_record_consent ..) fun op logging =>
          calm_of_quiet op (quiet_of_logging op logging)) fun _ => trivial
    · intro _ last facts
      rw [same] at facts
      exact .inr ⟨granted, authorized, facts⟩

/-- A row for a mailbox that fits does not join another one of its user. -/
theorem flag_kept_granted {box : Mailbox} {before after : Store} (kept : FlagKept before)
    (fits : Fits before box.userSub box.instanceId box.externalSubject)
    (granted : Granted box before after) : FlagKept after := by
  intro place member restricted userSub
  rw [granted.instances] at member
  have single := kept place member restricted userSub
  rcases granted.rows with same | ⟨none, row, boxed, added⟩
  · rw [same]
    exact single
  · rw [added, held_insert]
    split
    · rename_i own
      simp only [ConnectionWhere.holds, Bool.and_eq_true, decide_eq_true_eq] at own
      have empty : held before.connections userSub place.id = [] := by
        -- Any row there is for the mailbox, which had no active row.
        have sameUser : box.userSub = userSub := (congrArg Mailbox.userSub boxed).symm.trans own.1.1
        have samePlace : box.instanceId = place.id :=
          (congrArg Mailbox.instanceId boxed).symm.trans own.1.2
        rw [sameUser, samePlace] at fits
        apply List.eq_nil_iff_forall_not_mem.mpr
        intro other present
        have subject := fits ⟨place, member, rfl, restricted⟩ other present
        obtain ⟨known, holds⟩ := List.mem_filter.mp present
        simp only [ConnectionWhere.holds, Bool.and_eq_true, decide_eq_true_eq] at holds
        apply List.not_mem_nil (a := other)
        rw [← none]
        apply List.mem_filter.mpr
        refine ⟨known, ?_⟩
        simp only [Bool.and_eq_true, decide_eq_true_eq]
        refine ⟨holds.2, ?_⟩
        rw [mailbox, holds.1.1, holds.1.2, subject, ← sameUser, ← samePlace]
      rw [empty]
      exact le_refl _
    · rw [List.append_nil]
      exact single

/-! Every request that meets the condition. -/

theorem flag_kept_request (settings : Settings) (outside : Outside N) (world : World N)
    (request : Request) (kept : FlagKept world.store)
    (respectful : Respectful settings outside world request) :
    FlagKept ((serve settings request).run (exec outside) world).2.store := by
  have diminishing {body : Hub Unit} (only : body.Only Diminishing) :
      FlagKept (body.run (exec outside) world).2.store :=
    keeps_only only (flag_kept_diminishing outside) world kept
  have bystander (stands : Bystander request) :
      FlagKept ((serve settings request).run (exec outside) world).2.store :=
    diminishing (Prog.only_mono (updating_bystander settings request stands) diminishing_of_updating)
  have dropped {α : Type} {body : Hub α}
      (leaves : Leaves (exec outside) body world fun _ after => FlagKept after.store) :
      FlagKept (body.drop.run (exec outside) world).2.store :=
    Prog.leaves_drop leaves
  have unchanged {after : World N} (same : after.store = world.store) : FlagKept after.store := by
    rw [same]
    exact kept
  cases request with
  | createInstance actor instanceId typeId displayName config multi enabled requestId =>
      -- A new instance has no rows yet, or those that the request respects.
      have ready := keeps_only (only_drop (flagging_create settings actor instanceId typeId
        displayName config multi enabled requestId)) (ready_flagging outside) world ⟨kept, respectful⟩
      exact ready.1
  | updateInstance actor instanceId changes requestId =>
      obtain ⟨rest, same, flagging⟩ :=
        flagging_update settings actor instanceId changes requestId
      rw [serve, same]
      apply dropped
      apply leaves_raw_get_then
      · intro error after same
        rw [same]
        exact kept
      · intro before after known named same
        -- Where the flag is not sent, the row read already had it.
        have single (flag : changes.multiConnectionAllowed.getD before.multiConnectionAllowed =
            false) : Single world.store.connections before.id := by
          cases sent : changes.multiConnectionAllowed with
          | none =>
              rw [sent] at flag
              exact kept before known flag
          | some multi =>
              rw [sent] at flag
              rw [named]
              exact respectful (sent.trans (congrArg some flag))
        have ready := keeps_only (flagging before) (ready_flagging outside) after
          (by rw [Ready, same]; exact ⟨kept, single⟩)
        exact leaves_mono ready fun _ _ facts => facts.1
  | deleteInstance actor instanceId requestId => exact diminishing (diminishing_delete ..)
  | replaceMapping actor mapping requestId => exact diminishing (only_drop (diminishing_replace ..))
  | grant user instanceId privacyClass externalSubject displayLabel requestId =>
      apply dropped
      apply leaves_mono (grant_granted settings outside user instanceId privacyClass externalSubject
        displayLabel requestId world)
      rintro _ after (same | ⟨⟨place, passed⟩, granted⟩)
      · exact unchanged same
      · exact flag_kept_granted kept (respectful place passed) granted
  | completeGrant user instanceId code state requestId =>
      apply dropped
      apply leaves_mono (complete_granted settings outside user instanceId code state requestId world)
      rintro _ after (same | ⟨granted, authorized, facts⟩)
      · exact unchanged same
      · exact flag_kept_granted kept (respectful granted authorized) facts
  | _ => exact bystander trivial

/-- In every world that respectful requests reach, a user has at most one active
connection on an instance that does not allow more. -/
theorem single_connection (settings : Settings) (outside : Outside N) (world : World N)
    (reached : ReachableUnder settings outside (Respectful settings outside) world) :
    ∀ place ∈ world.store.instances, place.multiConnectionAllowed = false → ∀ userSub,
      (held world.store.connections userSub place.id).length ≤ 1 :=
  reachable_under_kept FlagKept nofun (flag_kept_request settings outside) reached

/-! A user who connects twice to the sample instance, which allows one connection. -/

def stubAndOAuth : List Request :=
  [.grant sampleUser "mail" defaultPrivacyClass "" "" none,
    .initiateGrant sampleUser "mail" "http://127.0.0.1/callback",
    .completeGrant sampleUser "mail" "code" offeredState none]

/-- The connection without a mailbox does not keep the other one away. -/
theorem two_connections :
    Reachable sampleSettings (Outside.still provider) (consented stubAndOAuth) ∧
      ∃ place ∈ (consented stubAndOAuth).store.instances, place.multiConnectionAllowed = false ∧
        (held (consented stubAndOAuth).store.connections "u1" place.id).length = 2 := by
  constructor
  · exact reachable_serve_all _ (.empty ())
  · unfold consented stubAndOAuth setUp
    rw [List.cons_append, List.cons_append, List.nil_append, serve_all_cons, serve_all_cons,
      serve_all_cons, serve_all_cons, serve_all_cons, serve_all_nil, serve_complete]
    unfold completeGrant authorize
    rw [decode_state_offered]
    decide +kernel

def stubTwice : List Request :=
  [.grant sampleUser "mail" defaultPrivacyClass "" "" none,
    .grant sampleUser "mail" defaultPrivacyClass "" "" none]

theorem stub_twice_single :
    (consented stubTwice).store.connections.length = 1 ∧
    ∀ place ∈ (consented stubTwice).store.instances, place.multiConnectionAllowed = false →
      ∀ userSub, (held (consented stubTwice).store.connections userSub place.id).length ≤ 1 := by
  refine ⟨by decide +kernel, ?_⟩
  apply single_connection sampleSettings (Outside.still provider)
  refine .request _ _ (.request _ _ (.request _ _ (.request _ _ (.empty ()) ?_) ?_) ?_) ?_
  · intro _ userSub
    exact Nat.zero_le 1
  · trivial
  · intro _ _ _ row member
    cases member
  · intro _ _ _
    unfold held
    decide +kernel

end Lehen.Cardinality
