import Lehen.Keeping

/-!
Which connections a revocation ends, and what it leaves of the others. A user's own
revocation and the two cascades differ in their predicate and in what they write.
-/

namespace Lehen.Selecting

open Storage OAuth AuditService SiamService ConnectionsService Keeping
open Prog (Leaves leaves_bind leaves_mono leaves_perform)

variable {N : Type} {settings : Settings} {outside : Outside N}

/-- The rows, with a change to those that are selected. -/
def changeWhere (selects : ConnectionRow → Bool) (set : ConnectionSet) (rows : List ConnectionRow) :
    List ConnectionRow :=
  rows.map fun row => if selects row then set.apply row else row

/-- The event of the consent that ends with a row. -/
structure EndOf (action : String) (row : ConnectionRow) (event : ConsentEvent) : Prop where
  action : event.action = action
  userSub : event.userSub = row.userSub
  integrationInstanceId : event.integrationInstanceId = row.integrationInstanceId
  connectionSeq : event.connectionSeq = row.connectionSeq
  externalSubject : event.externalSubject = row.externalSubject

/-- A change after which a row is no longer active. -/
def Ends (set : ConnectionSet) : Prop :=
  ∀ row, (set.apply row).status = .disconnected ∧ (set.apply row).isActive = false

/-- The selected rows are ended, each with an event of its own, and nothing else is touched. -/
def Sweeps (selects : ConnectionRow → Bool) (action : String) (before after : Store) : Prop :=
  ∃ set events, Ends set ∧ List.Forall₂ (EndOf action) (before.connections.filter selects) events ∧
    after = { before with
      connections := changeWhere selects set before.connections
      consents := before.consents ++ events }

/-! Selecting by id. -/

def changeIds (ids : List String) (set : ConnectionSet) (rows : List ConnectionRow) :
    List ConnectionRow :=
  rows.map fun row => if row.id ∈ ids then set.apply row else row

theorem apply_id (set : ConnectionSet) (row : ConnectionRow) : (set.apply row).id = row.id := by
  cases set <;> rfl

theorem apply_twice (set : ConnectionSet) (row : ConnectionRow) :
    set.apply (set.apply row) = set.apply row := by
  cases set <;> rfl

theorem change_ids_nil (set : ConnectionSet) (rows : List ConnectionRow) :
    changeIds [] set rows = rows := by
  simp [changeIds]

/-- One row after the other comes to all at once. -/
theorem change_ids_cons (id : String) (ids : List String) (set : ConnectionSet)
    (rows : List ConnectionRow) :
    changeIds ids set (setWhereId id set rows) = changeIds (id :: ids) set rows := by
  induction rows with
  | nil => rfl
  | cons row rest ih =>
      simp only [changeIds, setWhereId, List.map_cons] at ih ⊢
      rw [ih]
      by_cases own : row.id = id
      · simp [own, apply_id, apply_twice]
      · simp [own]

/-- With distinct ids, the ids of the selected rows select just these. -/
theorem change_ids_filter {rows : List ConnectionRow} (distinct : (rows.map ConnectionRow.id).Nodup)
    (selects : ConnectionRow → Bool) (set : ConnectionSet) :
    changeIds ((rows.filter selects).map ConnectionRow.id) set rows = changeWhere selects set rows := by
  apply List.map_congr_left
  intro row member
  have listed : row.id ∈ (rows.filter selects).map ConnectionRow.id ↔ selects row = true := by
    rw [List.mem_map]
    constructor
    · rintro ⟨other, found, same⟩
      have ⟨known, selected⟩ := List.mem_filter.mp found
      rw [← List.inj_on_of_nodup_map distinct known member same]
      exact selected
    · exact fun selected => ⟨row, List.mem_filter.mpr ⟨member, selected⟩, rfl⟩
  simp only [listed]

/-! The loop. -/

/-- A program that does nothing but add the event of a row. -/
def Tells (outside : Outside N) (action : String) (row : ConnectionRow) (record : Hub Unit) : Prop :=
  ∀ world, Leaves (exec outside) record world fun outcome after => outcome = .ok () ∧
    ∃ event, EndOf action row event ∧
      after.store = { world.store with consents := world.store.consents ++ [event] }

theorem loop_leaves (reliable : outside.Reliable) {action : String} (set : ConnectionSet)
    (record : ConnectionRow → Hub Unit) (rows : List ConnectionRow)
    (tells : ∀ row ∈ rows, Tells outside action row (record row)) (world : World N) :
    Leaves (exec outside)
      (Prog.forEach rows fun row => (command (.updateConnections row.id set)).bind fun _ => record row)
      world fun outcome after => outcome = .ok () ∧ ∃ events,
        List.Forall₂ (EndOf action) rows events ∧
          after.store = { world.store with
            connections := changeIds (rows.map ConnectionRow.id) set world.store.connections
            consents := world.store.consents ++ events } := by
  induction rows generalizing world with
  | nil =>
      refine ⟨rfl, [], .nil, ?_⟩
      rw [List.map_nil, change_ids_nil, List.append_nil]
      rfl
  | cons row rest ih =>
      rw [Prog.forEach, Prog.bind_assoc]
      apply leaves_reliable_then reliable
      intro first stored
      rw [leaves_bind]
      apply leaves_mono (tells row List.mem_cons_self first)
      rintro outcome second ⟨rfl, event, told, logged⟩
      apply leaves_mono (ih (fun row member => tells row (List.mem_cons_of_mem _ member)) second)
      rintro outcome last ⟨rfl, events, all, after⟩
      refine ⟨rfl, event :: events, .cons told all, ?_⟩
      rw [after, logged, stored]
      simp [StoreOp.apply, change_ids_cons]

/-- In front of another program, a part that only reads clocks and random numbers. -/
theorem leaves_quick_then {α β : Type} {body : Hub α} {rest : α → Hub β} {world : World N}
    {post : Except PyError β → World N → Prop} (quick : body.Straight Footprint.Quick False)
    (done : ∀ value (after : World N), after.store = world.store →
      Leaves (exec outside) (rest value) after post) :
    Leaves (exec outside) (body.bind rest) world post := by
  have yields : body.Yields Footprint.Quick fun _ => True :=
    Prog.yields_of_only (Prog.only_of_straight quick fun _ own => own)
  apply Prog.leaves_straight_then (fun after => after.store = world.store) quick yields rfl
  · intro op state own
    cases op with
    | store statement => cases own
    | http request => cases own
    | _ => exact ⟨_, rfl⟩
  · intro op state own same
    rw [exec_elsewhere outside op state fun statement equal => by cases equal; cases own]
    exact same
  · exact fun value after _ same => done value after same

theorem consent_tells (reliable : outside.Reliable) {action : String} {row : ConnectionRow}
    {event : String → String → ConsentEvent} (requestId : Option String)
    (own : ∀ id text, EndOf action row (event id text)) :
    Tells outside action row (uuid4.bind fun id => (requestIdOr requestId).bind fun text =>
      command (.insertConsent (event id text))) := by
  intro world
  apply leaves_quick_then (Footprint.quick_perform rfl)
  intro id first same
  apply leaves_quick_then (Footprint.quick_request_id requestId)
  intro text second same'
  have carried := exec_reliable reliable (.insertConsent (event id text)) second
  rw [command, leaves_perform, carried.1, carried.2]
  refine ⟨rfl, event id text, own id text, ?_⟩
  rw [same', same]
  rfl

theorem record_tells (reliable : outside.Reliable) {user : CurrentUser} {instanceId : String}
    {row : ConnectionRow} (own : row.userSub = user.sub) (place : row.integrationInstanceId = instanceId)
    (requestId : Option String) (ts : Time) :
    Tells outside "revoked" row (recordConsent settings user "revoked" instanceId row.connectionSeq
      row.privacyClass row.externalSubject requestId ts) :=
  consent_tells reliable requestId fun _ _ => ⟨rfl, own.symm, place.symm, rfl, rfl⟩

theorem withdrawal_tells (reliable : outside.Reliable) (row : ConnectionRow) (reason : String)
    (requestId : Option String) (ts : Time) :
    Tells outside reason row (recordWithdrawal settings row reason requestId ts) :=
  consent_tells reliable requestId fun _ _ => ⟨rfl, rfl, rfl, rfl, rfl⟩

/-! The operations. -/

def revokable (user : CurrentUser) (instanceId : String) (externalSubject : Option String)
    (row : ConnectionRow) : Bool :=
  row.isActive && row.userSub = user.sub && row.integrationInstanceId = instanceId &&
    externalSubject.all fun subject => row.externalSubject = subject

def openOn (instanceId : String) (row : ConnectionRow) : Bool :=
  row.isActive && row.integrationInstanceId = instanceId

def orphanedBy (previousMapping newMapping : Mapping) (row : ConnectionRow) : Bool :=
  row.isActive && !newMapping.lists row.integrationInstanceId &&
    previousMapping.lists row.integrationInstanceId

/-- The rows that are selected have been swept, once the loop is through. -/
theorem sweeps_of_loop {selects : ConnectionRow → Bool} {set : ConnectionSet} {action : String}
    {before after : Store} {events : List ConsentEvent} (ends : Ends set)
    (distinct : (before.connections.map ConnectionRow.id).Nodup)
    (told : List.Forall₂ (EndOf action) (before.connections.filter selects) events)
    (stored : after = { before with
      connections := changeIds ((before.connections.filter selects).map ConnectionRow.id) set
        before.connections
      consents := before.consents ++ events }) :
    Sweeps selects action before after := by
  rw [change_ids_filter distinct] at stored
  exact ⟨set, events, ends, told, stored⟩

/-- What a revocation of rows that were read comes to. -/
def Revoked (user : CurrentUser) (instanceId : String) (externalSubject : Option String)
    (before : Store) (outcome : Except PyError Unit) (after : Store) : Prop :=
  if before.connections.filter (revokable user instanceId externalSubject) = [] then
    outcome = .error ⟨.connectionNotFoundError,
      s!"no active connection for ({user.sub}, {instanceId})"⟩ ∧ after = before
  else outcome = .ok () ∧
    Sweeps (revokable user instanceId externalSubject) "revoked" before after

theorem revoke_rows_leaves (reliable : outside.Reliable) {user : CurrentUser} {instanceId : String}
    {externalSubject : Option String} (requestId : Option String) {before : Store} {world : World N}
    (distinct : (before.connections.map ConnectionRow.id).Nodup) (same : world.store = before)
    {active : List ConnectionRow}
    (read : active = before.connections.filter (revokable user instanceId externalSubject)) :
    Leaves (exec outside) (do
      Prog.require (active ≠ [])
        ⟨.connectionNotFoundError, s!"no active connection for ({user.sub}, {instanceId})"⟩
      let instant ← now
      Prog.forEach active fun row => do
        command (.updateConnections row.id (.disconnect instant))
        recordConsent settings user "revoked" instanceId row.connectionSeq row.privacyClass
          row.externalSubject requestId instant) world
      fun outcome after => Revoked user instanceId externalSubject before outcome after.store := by
  by_cases nothing : before.connections.filter (revokable user instanceId externalSubject) = []
  · simp only [Revoked, if_pos nothing]
    apply Prog.leaves_require_then
    · exact fun found => absurd (read.trans nothing) found
    · exact fun _ => ⟨rfl, same⟩
  · simp only [Revoked, if_neg nothing]
    apply Prog.leaves_require_then
    · intro _
      apply leaves_quick_then (Footprint.quick_perform rfl)
      intro instant after kept
      have tells : ∀ row ∈ active, Tells outside "revoked" row (recordConsent settings user "revoked"
          instanceId row.connectionSeq row.privacyClass row.externalSubject requestId instant) := by
        intro row member
        rw [read] at member
        -- Each selected row is of this user and this instance, as its event says.
        have own := (List.mem_filter.mp member).2
        simp only [revokable, Bool.and_eq_true, decide_eq_true_eq] at own
        exact record_tells reliable own.1.1.2 own.1.2 requestId instant
      apply leaves_mono (loop_leaves reliable (.disconnect instant) _ active tells after)
      rintro outcome last ⟨done, events, told, stored⟩
      rw [kept, same] at stored
      rw [read] at told stored
      exact ⟨done, sweeps_of_loop (fun _ => ⟨rfl, rfl⟩) distinct told stored⟩
    · intro empty
      exact absurd (read.symm.trans (not_not.mp empty)) nothing

theorem revoke_leaves (reliable : outside.Reliable) (user : CurrentUser) (instanceId : String)
    (externalSubject requestId : Option String) (world : World N)
    (distinct : (world.store.connections.map ConnectionRow.id).Nodup) :
    Leaves (exec outside) (revoke settings user instanceId externalSubject requestId) world
      fun outcome after => Revoked user instanceId externalSubject world.store outcome after.store := by
  apply leaves_reliable_then reliable
  intro after same
  apply revoke_rows_leaves reliable requestId distinct same
  apply List.filter_congr
  intro row _
  cases externalSubject <;> simp [ConnectionWhere.holds, revokable] <;> grind

/-- What a cascade over rows that were read comes to. -/
def Cascaded (selects : ConnectionRow → Bool) (reason : String) (before : Store)
    (outcome : Except PyError Nat) (after : Store) : Prop :=
  outcome = .ok (before.connections.filter selects).length ∧
    Sweeps selects reason before after

theorem change_nothing {selects : ConnectionRow → Bool} (set : ConnectionSet) {rows : List ConnectionRow}
    (nothing : rows.filter selects = []) : changeWhere selects set rows = rows := by
  induction rows with
  | nil => rfl
  | cons row rest ih =>
      by_cases selected : selects row = true
      · simp [selected] at nothing
      · simp only [List.filter_cons_of_neg selected] at nothing
        have kept := ih nothing
        simp only [changeWhere, List.map_cons] at kept ⊢
        rw [kept, if_neg selected]

theorem swept_nothing {selects : ConnectionRow → Bool} {action : String} {before after : Store}
    (nothing : before.connections.filter selects = []) :
    Sweeps selects action before after ↔ after = before := by
  constructor
  · rintro ⟨set, events, _, told, stored⟩
    rw [nothing] at told
    cases told
    rw [stored, change_nothing set nothing, List.append_nil]
  · rintro rfl
    refine ⟨.disconnect 0, [], fun _ => ⟨rfl, rfl⟩, ?_, ?_⟩
    · rw [nothing]
      exact .nil
    · rw [change_nothing _ nothing, List.append_nil]

/-- Only active rows are selected, so that none is selected again. -/
theorem swept_once {selects : ConnectionRow → Bool} {action : String} {before after : Store}
    (active : ∀ row, selects row = true → row.isActive = true)
    (sweeps : Sweeps selects action before after) : after.connections.filter selects = [] := by
  obtain ⟨set, events, ends, _, rfl⟩ := sweeps
  apply List.filter_eq_nil_iff.mpr
  intro row member selected
  obtain ⟨old, _, rfl⟩ := List.mem_map.mp member
  by_cases hit : selects old = true
  · rw [if_pos hit] at selected
    have still := active _ selected
    rw [(ends old).2] at still
    cases still
  · rw [if_neg hit] at selected
    exact hit selected

theorem swept_ids {selects : ConnectionRow → Bool} {action : String} {before after : Store}
    (sweeps : Sweeps selects action before after) :
    after.connections.map ConnectionRow.id = before.connections.map ConnectionRow.id := by
  obtain ⟨set, events, _, _, rfl⟩ := sweeps
  rw [changeWhere, List.map_map]
  apply List.map_congr_left
  intro row _
  simp only [Function.comp_apply]
  split
  · exact apply_id set row
  · rfl

theorem withdraw_rows_leaves (reliable : outside.Reliable) {selects : ConnectionRow → Bool}
    (reason : String) (requestId : Option String) {before : Store} {world : World N}
    (distinct : (before.connections.map ConnectionRow.id).Nodup) (same : world.store = before)
    {rows : List ConnectionRow} (read : rows = before.connections.filter selects) :
    Leaves (exec outside) (do
      let instant ← now
      Prog.forEach rows (withdraw settings reason requestId instant)
      return rows.length) world
      fun outcome after => Cascaded selects reason before outcome after.store := by
  apply leaves_quick_then (Footprint.quick_perform rfl)
  intro instant after kept
  have tells : ∀ row ∈ rows, Tells outside reason row
      (recordWithdrawal settings row reason requestId instant) := by
    intro row _
    exact withdrawal_tells reliable row reason requestId instant
  rw [Prog.bind_eq, leaves_bind]
  apply leaves_mono (loop_leaves reliable (.withdraw instant reason) _ rows tells after)
  rintro outcome last ⟨rfl, events, told, stored⟩
  rw [kept, same] at stored
  rw [read] at told stored ⊢
  exact ⟨rfl, sweeps_of_loop (fun _ => ⟨rfl, rfl⟩) distinct told stored⟩

theorem revoke_all_leaves (reliable : outside.Reliable) (instanceId reason : String)
    (requestId : Option String) (world : World N)
    (distinct : (world.store.connections.map ConnectionRow.id).Nodup) :
    Leaves (exec outside) (revokeAllForInstance settings instanceId reason requestId) world
      fun outcome after => Cascaded (openOn instanceId) reason world.store outcome after.store := by
  apply leaves_reliable_then reliable
  intro after same
  have read : (ConnectionWhere.onInstance instanceId).holds = openOn instanceId := by
    funext row
    simp [ConnectionWhere.holds, openOn, Bool.and_comm]
  simp only [StoreOp.apply, read]
  split
  · next nothing =>
      refine ⟨by rw [nothing]; rfl, ?_⟩
      exact (swept_nothing nothing).mpr same
  · exact withdraw_rows_leaves reliable reason requestId distinct same rfl

theorem revoke_unauthorized_leaves (reliable : outside.Reliable) (previousMapping newMapping : Mapping)
    (requestId : Option String) (world : World N)
    (distinct : (world.store.connections.map ConnectionRow.id).Nodup) :
    Leaves (exec outside)
      (revokeForUsersNoLongerAuthorized settings previousMapping newMapping requestId) world
      fun outcome after => Cascaded (orphanedBy previousMapping newMapping) "revoked-by-siam-change"
        world.store outcome after.store := by
  apply leaves_reliable_then reliable
  intro after same
  have read : (world.store.connections.filter ConnectionWhere.anyActive.holds).filter
        (isOrphaned previousMapping newMapping) =
      world.store.connections.filter (orphanedBy previousMapping newMapping) := by
    rw [List.filter_filter]
    apply List.filter_congr
    intro row _
    simp [ConnectionWhere.holds, isOrphaned, orphanedBy, Bool.and_comm, Bool.and_assoc]
  split
  · next nothing =>
      change world.store.connections.filter ConnectionWhere.anyActive.holds = [] at nothing
      rw [nothing] at read
      refine ⟨by rw [← read]; rfl, ?_⟩
      exact (swept_nothing read.symm).mpr same
  · exact withdraw_rows_leaves reliable _ requestId distinct same read

/-- A cascade does what it should, and made again it does nothing. -/
def Settles (outside : Outside N) (selects : ConnectionRow → Bool) (reason : String) (cascade : Hub Nat)
    (world : World N) : Prop :=
  Leaves (exec outside) cascade world fun outcome after =>
    Cascaded selects reason world.store outcome after.store ∧
      ∀ later : World N, later.store = after.store →
        Leaves (exec outside) cascade later fun again last => again = .ok 0 ∧ last.store = later.store

theorem settles_of_cascaded {selects : ConnectionRow → Bool} {reason : String} {cascade : Hub Nat}
    (active : ∀ row, selects row = true → row.isActive = true)
    (cascades : ∀ world : World N, (world.store.connections.map ConnectionRow.id).Nodup →
      Leaves (exec outside) cascade world fun outcome after =>
        Cascaded selects reason world.store outcome after.store)
    (world : World N) (distinct : (world.store.connections.map ConnectionRow.id).Nodup) :
    Settles outside selects reason cascade world := by
  apply leaves_mono (cascades world distinct)
  rintro outcome after ⟨count, sweeps⟩
  refine ⟨⟨count, sweeps⟩, fun later same => ?_⟩
  have nothing := swept_once active sweeps
  rw [← same] at nothing
  apply leaves_mono (cascades later (by rw [same, swept_ids sweeps]; exact distinct))
  rintro again last ⟨counted, swept⟩
  rw [nothing] at counted
  exact ⟨counted, (swept_nothing nothing).mp swept⟩

/-- Each revocation ends exactly the rows its predicate selects, where ids are distinct
and the store executes every statement. -/
theorem revocations_exact (settings : Settings) (reliable : outside.Reliable) (world : World N)
    (distinct : (world.store.connections.map ConnectionRow.id).Nodup) :
    (∀ user instanceId externalSubject requestId,
      Leaves (exec outside) (revoke settings user instanceId externalSubject requestId) world
        fun outcome after => Revoked user instanceId externalSubject world.store outcome after.store) ∧
    (∀ instanceId reason requestId, Settles outside (openOn instanceId) reason
      (revokeAllForInstance settings instanceId reason requestId) world) ∧
    (∀ previousMapping newMapping requestId,
      Settles outside (orphanedBy previousMapping newMapping) "revoked-by-siam-change"
        (revokeForUsersNoLongerAuthorized settings previousMapping newMapping requestId) world) := by
  refine ⟨?_, ?_, ?_⟩
  · intro user instanceId externalSubject requestId
    exact revoke_leaves reliable user instanceId externalSubject requestId world distinct
  · intro instanceId reason requestId
    apply settles_of_cascaded _ (revoke_all_leaves reliable instanceId reason requestId) world distinct
    intro row selected
    exact (Bool.and_eq_true_iff.mp selected).1
  · intro previousMapping newMapping requestId
    apply settles_of_cascaded _
      (revoke_unauthorized_leaves reliable previousMapping newMapping requestId) world distinct
    intro row selected
    simp only [orphanedBy, Bool.and_eq_true] at selected
    exact selected.1.1

/-! Two connections, one of which is on the instance. -/

def openRow (instanceId : String) : ConnectionRow :=
  { id := connectionId "u1" instanceId 0, userSub := "u1", username := "ann"
    integrationInstanceId := instanceId, connectionSeq := 0, externalSubject := "", displayLabel := ""
    privacyClass := defaultPrivacyClass, encryptedCredentials := none, status := .stubConnected
    connectedAt := 0, disconnectedAt := none, lastHealthStatus := none, lastHealthCheckAt := none }

def twoOpen : World Unit := ⟨{ Store.empty with connections := [openRow "mail", openRow "chat"] }, ()⟩

theorem one_of_two_ended :
    Settles (Outside.still unreachable) (openOn "mail") "revoked-by-admin-disable"
        (revokeAllForInstance sampleSettings "mail" "revoked-by-admin-disable" none) twoOpen ∧
      twoOpen.store.connections.filter (openOn "mail") = [openRow "mail"] := by
  have exact_ := revocations_exact sampleSettings (still_reliable unreachable) twoOpen (by decide)
  exact ⟨exact_.2.1 "mail" "revoked-by-admin-disable" none, by decide⟩

end Lehen.Selecting
