import Lehen.Administration
import Lehen.Granting

/-!
Active connections stay on enabled, mapped instances: what the gates and the
cascades of the three services establish together, over every sequence of
completed requests on a store that executes every statement.
-/

namespace Lehen.Consistency

open Storage OAuth AuditService SiamService ConnectionsService Footprint Granting Administration

variable {N : Type}

/-- The mapping `SIAMService.get` answers with. -/
def currentMapping (store : Store) : Mapping :=
  mappingOf (store.siam.filter fun row => row.id = siamId)

def InstanceEnabled (store : Store) (instanceId : String) : Prop :=
  ∃ row ∈ store.instances, row.id = instanceId ∧ row.enabled = true

def Backed (store : Store) (row : ConnectionRow) : Prop :=
  InstanceEnabled store row.integrationInstanceId ∧
    (currentMapping store).lists row.integrationInstanceId

/-- Every active row is on an instance that exists, is enabled, and is in the
list of some role. -/
def ActiveBacked (store : Store) : Prop :=
  ∀ row ∈ store.connections, row.isActive = true → Backed store row

def DistinctInstances (store : Store) : Prop := (store.instances.map InstanceRow.id).Nodup

structure Consistent (store : Store) : Prop where
  distinct : DistinctInstances store
  backed : ActiveBacked store

/-! Updates of connection rows only take activity away. -/

theorem active_before (rows : List ConnectionRow) (id : String) (set : ConnectionSet)
    (row : ConnectionRow) (member : row ∈ setWhereId id set rows) (active : row.isActive = true) :
    ∃ old ∈ rows, old.isActive = true ∧ old.id = row.id ∧
      old.integrationInstanceId = row.integrationInstanceId := by
  obtain ⟨old, earlier, same⟩ := List.mem_map.mp member
  refine ⟨old, earlier, ?_⟩
  split at same
  · subst same
    cases set with
    | disconnect ts => cases active
    | withdraw ts reason => cases active
    | credentials envelope => exact ⟨active, rfl, rfl⟩
    | stale => exact ⟨active, rfl, rfl⟩
  · subst same
    exact ⟨active, rfl, rfl⟩

/-- A withdrawn id has no active row. -/
theorem active_after_withdraw (rows : List ConnectionRow) (id : String) (ts : Time)
    (reason : String) (row : ConnectionRow) (member : row ∈ setWhereId id (.withdraw ts reason) rows)
    (active : row.isActive = true) : row ∈ rows ∧ row.id ≠ id := by
  obtain ⟨old, earlier, same⟩ := List.mem_map.mp member
  by_cases named : old.id = id
  · rw [if_pos named] at same
    subst same
    cases active
  · rw [if_neg named] at same
    subst same
    exact ⟨earlier, named⟩

theorem consistent_update (store : Store) (id : String) (set : ConnectionSet)
    (consistent : Consistent store) :
    Consistent { store with connections := setWhereId id set store.connections } := by
  constructor
  · exact consistent.distinct
  · intro row member active
    obtain ⟨old, earlier, wasActive, _, place⟩ := active_before _ id set row member active
    have backed := consistent.backed old earlier wasActive
    unfold Backed at backed ⊢
    rw [place] at backed
    exact backed

theorem consistent_same {store stored : Store} (same : SameTables store stored)
    (consistent : Consistent store) : Consistent stored := by
  obtain ⟨connections, instances, siam⟩ := same
  obtain ⟨distinct, backed⟩ := consistent
  constructor
  · rw [DistinctInstances, instances]
    exact distinct
  · intro row member active
    rw [connections] at member
    have known := backed row member active
    simp only [Backed, InstanceEnabled, currentMapping, instances, siam] at known ⊢
    exact known

/-! The stages of the admin actions. -/

def actionPlace : Action → Option String
  | .create instanceId | .update instanceId _ | .delete instanceId => some instanceId
  | .replace _ => none

/-- Active rows are backed and off the place of the action, or still to be swept. -/
def Swept (place : Option String) (rows : List ConnectionRow) (store : Store) : Prop :=
  ∀ row ∈ store.connections, row.isActive = true →
    (Backed store row ∧ some row.integrationInstanceId ≠ place) ∨ row.id ∈ rows.map ConnectionRow.id

/-- Active rows are on enabled instances that a mapping lists. -/
def BackedBy (mapping : Mapping) (store : Store) : Prop :=
  ∀ row ∈ store.connections, row.isActive = true →
    InstanceEnabled store row.integrationInstanceId ∧ mapping.lists row.integrationInstanceId

/-- What holds of the store while an action is at a stage. -/
def Holds (place : Option String) : Stage → Store → Prop
  | .idle, store | .kept _ _, store | .gone, store => Consistent store
  | .absent, store => Consistent store ∧ ∀ row ∈ store.instances, some row.id ≠ place
  | .found row, store => Consistent store ∧ row ∈ store.instances ∧ some row.id = place
  | .owes, store => DistinctInstances store ∧
      ∀ row ∈ store.connections, row.isActive = true →
        some row.integrationInstanceId ≠ place → Backed store row
  | .mapped before _, store => Consistent store ∧ before = currentMapping store
  | .replaced before, store => DistinctInstances store ∧ BackedBy before store
  | .reread before after, store =>
      DistinctInstances store ∧ BackedBy before store ∧ after = currentMapping store
  | .sweeping rows, store => DistinctInstances store ∧ Swept place rows store
  | .failed, _ => False

theorem holds_same {place : Option String} {stage : Stage} {store stored : Store}
    (same : SameTables store stored) (holds : Holds place stage store) :
    Holds place stage stored := by
  have consistent := consistent_same same
  obtain ⟨connections, instances, siam⟩ := same
  cases stage <;>
    simp only [Holds, Swept, BackedBy, Backed, InstanceEnabled, DistinctInstances, currentMapping,
      connections, instances, siam] at holds ⊢ <;>
    grind

/-! One lemma for each statement an action sends. -/

theorem holds_select_instance (store : Store) (instanceId : String)
    (holds : Holds (some instanceId) .idle store) :
    Holds (some instanceId)
      (Stage.next .idle (.store (.selectInstance instanceId))
        (.ok (store.instances.filter fun row => row.id = instanceId))) store := by
  dsimp only [Stage.next]
  cases found : (store.instances.filter fun row => row.id = instanceId).head? with
  | none =>
      refine ⟨holds, fun row member same => ?_⟩
      have missing := List.filter_eq_nil_iff.mp (List.head?_eq_none_iff.mp found) row member
      exact missing (decide_eq_true (Option.some.inj same))
  | some row =>
      have member := List.mem_filter.mp (List.mem_of_head? found)
      exact ⟨holds, member.1, congrArg some (of_decide_eq_true member.2)⟩

theorem holds_insert_instance (store : Store) (instanceId : String) (doc : InstanceRow)
    (fresh : doc.id = instanceId) (holds : Holds (some instanceId) .absent store) :
    Holds (some instanceId) .gone { store with instances := store.instances ++ [doc] } := by
  obtain ⟨⟨distinct, backed⟩, absent⟩ := holds
  constructor
  · rw [DistinctInstances, List.map_append]
    apply List.nodup_append.mpr
    refine ⟨distinct, List.nodup_singleton _, ?_⟩
    intro id known other new same
    obtain ⟨row, member, rfl⟩ := List.mem_map.mp known
    apply absent row member
    rw [same, List.mem_singleton.mp new, fresh]
  · intro row member active
    obtain ⟨⟨place, known, facts⟩, listed⟩ := backed row member active
    exact ⟨⟨place, List.mem_append_left _ known, facts⟩, listed⟩

theorem ids_after_update (rows : List InstanceRow) (instanceId : String) (doc : InstanceRow)
    (same : doc.id = instanceId) :
    (rows.map fun row => if row.id = instanceId then doc else row).map InstanceRow.id =
      rows.map InstanceRow.id := by
  rw [List.map_map]
  apply List.map_congr_left
  intro row _
  simp only [Function.comp]
  split
  · rename_i named
    rw [same, named]
  · rfl

theorem holds_update_instance (store : Store) (instanceId : String) (row doc : InstanceRow)
    (same : doc.id = row.id) (holds : Holds (some instanceId) (.found row) store) :
    Holds (some instanceId)
      (Stage.next (.found row) (.store (.updateInstance instanceId doc)) (.ok ()))
      { store with
        instances := store.instances.map fun old => if old.id = instanceId then doc else old } := by
  obtain ⟨⟨distinct, backed⟩, member, named⟩ := holds
  have place : row.id = instanceId := Option.some.inj named
  have distinct' := distinct
  rw [DistinctInstances, ← ids_after_update store.instances instanceId doc (same.trans place)]
    at distinct'
  have elsewhere (other : String) (different : other ≠ instanceId)
      (enabled : InstanceEnabled store other) :
      ∃ old ∈ store.instances.map (fun old => if old.id = instanceId then doc else old),
        old.id = other ∧ old.enabled = true := by
    obtain ⟨old, known, rfl, on⟩ := enabled
    exact ⟨old, List.mem_map.mpr ⟨old, known, if_neg different⟩, rfl, on⟩
  by_cases disabled : row.enabled = true ∧ doc.enabled = false
  · rw [Stage.next, if_pos disabled]
    refine ⟨distinct', fun connection known active off => ?_⟩
    obtain ⟨enabled, listed⟩ := backed connection known active
    exact ⟨elsewhere _ (fun same => off (congrArg some same)) enabled, listed⟩
  · rw [Stage.next, if_neg disabled]
    refine ⟨distinct', fun connection known active => ?_⟩
    obtain ⟨enabled, listed⟩ := backed connection known active
    refine ⟨?_, listed⟩
    by_cases off : connection.integrationInstanceId = instanceId
    · obtain ⟨old, present, oldId, on⟩ := enabled
      have one : old = row := List.inj_on_of_nodup_map distinct present member
        (oldId.trans (off.trans place.symm))
      subst one
      refine ⟨doc, List.mem_map.mpr ⟨old, present, if_pos place⟩, ?_, ?_⟩
      · rw [same, oldId]
      · cases flag : doc.enabled with
        | true => rfl
        | false => exact absurd ⟨on, flag⟩ disabled
    · exact elsewhere _ off enabled

theorem in_selection {store : Store} {row : ConnectionRow} {rows : ConnectionWhere}
    (member : row ∈ store.connections) (matching : rows.holds row = true) :
    row.id ∈ (store.connections.filter rows.holds).map ConnectionRow.id :=
  List.mem_map_of_mem (List.mem_filter.mpr ⟨member, matching⟩)

theorem holds_select_place (store : Store) (instanceId : String)
    (distinct : DistinctInstances store)
    (others : ∀ row ∈ store.connections, row.isActive = true →
      some row.integrationInstanceId ≠ some instanceId → Backed store row) :
    Holds (some instanceId)
      (.sweeping (store.connections.filter (ConnectionWhere.onInstance instanceId).holds)) store := by
  refine ⟨distinct, fun row member active => ?_⟩
  by_cases here : row.integrationInstanceId = instanceId
  · right
    apply in_selection member
    simp only [ConnectionWhere.holds, here, active, decide_true, Bool.and_self]
  · left
    have off : some row.integrationInstanceId ≠ some instanceId :=
      fun same => here (Option.some.inj same)
    exact ⟨others row member active off, off⟩

theorem holds_select_active (store : Store) (before after : Mapping)
    (holds : Holds none (.reread before after) store) :
    Holds none
      (.sweeping ((store.connections.filter ConnectionWhere.anyActive.holds).filter
        (isOrphaned before after))) store := by
  obtain ⟨distinct, backed, current⟩ := holds
  refine ⟨distinct, fun row member active => ?_⟩
  obtain ⟨enabled, listed⟩ := backed row member active
  cases still : after.lists row.integrationInstanceId with
  | true =>
      left
      rw [current] at still
      exact ⟨⟨enabled, still⟩, fun impossible => by cases impossible⟩
  | false =>
      right
      apply List.mem_map_of_mem
      apply List.mem_filter.mpr
      refine ⟨List.mem_filter.mpr ⟨member, active⟩, ?_⟩
      rw [isOrphaned, still, listed]
      rfl

theorem holds_withdraw (store : Store) (place : Option String) (row : ConnectionRow)
    (rest : List ConnectionRow) (ts : Time) (reason : String)
    (holds : Holds place (.sweeping (row :: rest)) store) :
    Holds place (.sweeping rest)
      { store with connections := setWhereId row.id (.withdraw ts reason) store.connections } := by
  obtain ⟨distinct, swept⟩ := holds
  refine ⟨distinct, fun other member active => ?_⟩
  obtain ⟨earlier, different⟩ := active_after_withdraw _ row.id ts reason other member active
  rcases swept other earlier active with backed | pending
  · exact .inl backed
  · rcases List.mem_cons.mp pending with same | later
    · exact absurd same different
    · exact .inr later

theorem holds_delete (store : Store) (instanceId : String)
    (holds : Holds (some instanceId) (.sweeping []) store) :
    Holds (some instanceId) .gone
      { store with instances := store.instances.filter fun row => row.id ≠ instanceId } := by
  obtain ⟨distinct, swept⟩ := holds
  constructor
  · exact distinct.sublist (List.filter_sublist.map _)
  · intro row member active
    rcases swept row member active with ⟨⟨⟨place, known, same, on⟩, listed⟩, off⟩ | pending
    · refine ⟨⟨place, List.mem_filter.mpr ⟨known, ?_⟩, same, on⟩, listed⟩
      apply decide_eq_true
      intro here
      exact off (congrArg some (same.symm.trans here))
    · cases pending

theorem consistent_of_swept {place : Option String} {store : Store}
    (holds : Holds place (.sweeping []) store) : Consistent store := by
  refine ⟨holds.1, fun row member active => ?_⟩
  rcases holds.2 row member active with ⟨backed, _⟩ | pending
  · exact backed
  · cases pending

theorem holds_logging {outside : Outside N} (reliable : outside.Reliable) {place : Option String}
    {stage : Stage} (op : Op) (world : World N) (holds : Holds place stage world.store)
    (logging : Logging op) :
    Holds place (stage.next op (exec outside op world).1) (exec outside op world).2.store := by
  obtain ⟨value, answer⟩ := logging_succeeds reliable op world logging
  rw [answer, next_logging stage op value logging]
  exact holds_same (calm_tables outside op world (calm_of_quiet op (quiet_of_logging op logging)))
    holds

theorem action_kept {outside : Outside N} (reliable : outside.Reliable) (action : Action)
    (stage : Stage) (op : Op) (world : World N) (holds : Holds (actionPlace action) stage world.store)
    (allowed : (adminMonitor action).allowed stage op) :
    Holds (actionPlace action) ((adminMonitor action).next stage op (exec outside op world).1)
      (exec outside op world).2.store := by
  have done (statement : StoreOp) := exec_reliable reliable statement world
  simp only [adminMonitor] at allowed ⊢
  unfold Action.Allows at allowed
  split at allowed
  · rw [(done _).1, (done _).2, allowed]
    exact holds_select_instance world.store _ holds
  · rw [(done _).1, (done _).2]
    exact holds_insert_instance world.store _ _ allowed holds
  · rw [(done _).1, (done _).2, allowed]
    exact holds_select_instance world.store _ holds
  · obtain ⟨rfl, same, _⟩ := allowed
    rw [(done _).1, (done _).2]
    exact holds_update_instance world.store _ _ _ same holds
  · rw [(done _).1, (done _).2, allowed]
    exact holds_select_place world.store _ holds.1 holds.2
  · rw [(done _).1, (done _).2, allowed]
    exact holds_select_instance world.store _ holds
  · rw [(done _).1, (done _).2, allowed]
    exact holds_select_place world.store _ holds.1.distinct
      fun row member active _ => holds.1.backed row member active
  · rw [(done _).1, (done _).2, allowed]
    exact holds_delete world.store _ holds
  · rw [(done _).1, (done _).2, allowed]
    exact ⟨holds, rfl⟩
  · rw [(done _).1, (done _).2]
    exact holds
  · rw [(done _).1, (done _).2]
    obtain ⟨⟨distinct, backed⟩, rfl⟩ := holds
    exact ⟨distinct, backed⟩
  · rw [(done _).1, (done _).2]
    obtain ⟨⟨distinct, backed⟩, rfl⟩ := holds
    exact ⟨distinct, backed⟩
  · rw [(done _).1, (done _).2, allowed]
    exact ⟨holds.1, holds.2, rfl⟩
  · rw [(done _).1, (done _).2]
    exact holds_select_active world.store _ _ holds
  · rw [(done _).1, (done _).2, allowed]
    exact holds_withdraw world.store _ _ _ _ _ holds
  · exact holds_logging reliable op world holds allowed

theorem consistent_at_end (action : Action) (outcome : Except PyError Unit) (stage : Stage)
    (store : Store) (holds : Holds (actionPlace action) stage store)
    (ends : action.Ends outcome stage) : Consistent store := by
  have reread (mapping : Mapping) (holds : Holds none (.reread mapping mapping) store) :
      Consistent store := by
    obtain ⟨distinct, backed, current⟩ := holds
    refine ⟨distinct, fun row member active => ?_⟩
    obtain ⟨enabled, listed⟩ := backed row member active
    rw [current] at listed
    exact ⟨enabled, listed⟩
  cases outcome with
  | ok value =>
      cases action with
      | create instanceId =>
          obtain rfl : stage = .gone := ends
          exact holds
      | update instanceId enabled =>
          rcases ends with rfl | ⟨row, doc, rfl⟩
          · exact consistent_of_swept holds
          · exact holds
      | delete instanceId =>
          obtain rfl : stage = .gone := ends
          exact holds
      | replace mapping =>
          rcases ends with rfl | ⟨mapping, rfl⟩
          · exact consistent_of_swept holds
          · exact reread mapping holds
  | error error =>
      rcases ends with rfl | rfl | rfl | rfl | ⟨row, rfl⟩
      · exact holds.elim
      · exact holds
      · exact holds.1
      · exact holds
      · exact holds.1

theorem action_consistent {outside : Outside N} (reliable : outside.Reliable) (action : Action)
    (body : Hub Unit) (world : World N)
    (follows : body.Follows (adminMonitor action) action.Ends .idle)
    (consistent : Consistent world.store) :
    Consistent (body.run (exec outside) world).2.store := by
  obtain ⟨holds, ends⟩ := Prog.leaves_follows
    (fun stage world => Holds (actionPlace action) stage (World.store world)) follows consistent
    (fun stage op world => action_kept reliable action stage op world)
  exact consistent_at_end action _ _ _ holds ends

/-! Grants: the gates they saw open are those of the store. -/

def GatesTrue (instanceId : String) (view : GrantView) (store : Store) : Prop :=
  Consistent store ∧
    (∀ row, view.gate = some row → row ∈ store.instances ∧ row.id = instanceId) ∧
    ∀ mapping, view.mapping = some mapping → mapping = currentMapping store

theorem gates_kept {outside : Outside N} (reliable : outside.Reliable)
    (userSub instanceId : String) (view : GrantView) (op : Op) (world : World N)
    (gates : GatesTrue instanceId view world.store)
    (allowed : (grantMonitor userSub instanceId).allowed view op) :
    GatesTrue instanceId
      ((grantMonitor userSub instanceId).next view op (exec outside op world).1)
      (exec outside op world).2.store := by
  obtain ⟨consistent, gate, mapping⟩ := gates
  rcases allowed_cases allowed with ⟨row, rfl, licensed⟩ | calm
  · obtain ⟨answer, stored⟩ := exec_reliable reliable (.insertConnection row) world
    rw [answer, stored]
    refine ⟨⟨consistent.distinct, fun other member active => ?_⟩, gate, mapping⟩
    rcases List.mem_append.mp member with earlier | new
    · exact consistent.backed other earlier active
    · -- The new row is backed by what its gates have seen.
      obtain ⟨⟨place, seen, enabled⟩, current, read, listed⟩ := licensed.gates
      obtain ⟨known, named⟩ := gate place seen
      rw [mapping current read] at listed
      rw [List.mem_singleton.mp new, Backed, licensed.place]
      exact ⟨⟨place, known, named, enabled⟩, listed⟩
  · have same := calm_tables outside op world calm
    have consistent' := consistent_same same consistent
    -- Of the reads only those of the gates change what the grant has seen.
    rcases gates_noticed view op (exec outside op world).1 with ⟨id, rfl⟩ | ⟨id, rfl⟩ | ⟨kept, kept'⟩
    · obtain rfl : id = instanceId := allowed
      obtain ⟨answer, stored⟩ := exec_reliable reliable (.selectInstance id) world
      rw [answer, stored]
      refine ⟨consistent, fun row found => ?_, mapping⟩
      have member := List.mem_filter.mp (List.mem_of_head? found)
      exact ⟨member.1, of_decide_eq_true member.2⟩
    · obtain rfl : id = siamId := allowed
      obtain ⟨answer, stored⟩ := exec_reliable reliable (.selectSiam siamId) world
      rw [answer, stored]
      exact ⟨consistent, gate, fun current read => (Option.some.inj read).symm⟩
    · refine ⟨consistent', fun row seen => ?_, fun current read => ?_⟩
      · rw [same.instances]
        exact gate row (kept.symm.trans seen)
      · rw [currentMapping, same.siam]
        exact mapping current (kept'.symm.trans read)

/-! Requests that update rows at most. -/

theorem updating_kept (outside : Outside N) (body : Hub Unit) (world : World N)
    (updating : body.Only Updating) (consistent : Consistent world.store) :
    Consistent (body.run (exec outside) world).2.store := by
  have step (op : Op) (world : World N) (fits : Updating op) (consistent : Consistent world.store) :
      Consistent (exec outside op world).2.store := by
    cases op with
    | store statement =>
        cases statement with
        | updateConnections id set =>
            rcases exec_moves outside (.updateConnections id set) world with same | same
            · rw [same]
              exact consistent
            · rw [same]
              exact consistent_update world.store id set consistent
        | _ => exact consistent_same (calm_tables outside _ world fits) consistent
    | _ => exact consistent_same (calm_tables outside _ world fits) consistent
  exact Prog.leaves_only (fun world => Consistent (World.store world)) updating consistent step

theorem grant_kept {outside : Outside N} (reliable : outside.Reliable)
    (userSub instanceId : String) (body : Hub Unit) (world : World N)
    (follows : body.Follows (grantMonitor userSub instanceId) (fun _ _ => True) {})
    (consistent : Consistent world.store) :
    Consistent (body.run (exec outside) world).2.store := by
  obtain ⟨gates, _⟩ := Prog.leaves_follows
    (fun view world => GatesTrue instanceId view (World.store world)) follows
    ⟨consistent, fun row seen => (by cases seen), fun mapping read => (by cases read)⟩
    (fun view op world => gates_kept reliable userSub instanceId view op world)
  exact gates.1

theorem consistent_kept {outside : Outside N} (reliable : outside.Reliable) (settings : Settings)
    (request : Request) (world : World N) (consistent : Consistent world.store) :
    Consistent ((serve settings request).run (exec outside) world).2.store := by
  have admin (action : Action) (carries : actionOf request = some action) :
      Consistent ((serve settings request).run (exec outside) world).2.store :=
    action_consistent reliable action _ world (action_served settings request action carries)
      consistent
  cases request with
  | createInstance actor instanceId typeId displayName config multi enabled requestId =>
      exact admin _ rfl
  | updateInstance actor instanceId changes requestId => exact admin _ rfl
  | deleteInstance actor instanceId requestId => exact admin _ rfl
  | replaceMapping actor mapping requestId => exact admin _ rfl
  | grant user instanceId privacyClass externalSubject displayLabel requestId =>
      exact grant_kept reliable user.sub instanceId _ world (follows_drop (grant_follows ..)) consistent
  | completeGrant user instanceId code state requestId =>
      exact grant_kept reliable user.sub instanceId _ world (follows_drop (complete_follows ..))
        consistent
  | _ => exact updating_kept outside _ world (updating_bystander settings _ trivial) consistent

theorem reachable_consistent {settings : Settings} {outside : Outside N}
    (reliable : outside.Reliable) {world : World N} (reached : Reachable settings outside world) :
    Consistent world.store := by
  apply reachable_kept Consistent _ _ reached
  · exact ⟨List.nodup_nil, fun row none => (List.not_mem_nil none).elim⟩
  · intro world request consistent
    exact consistent_kept reliable settings request world consistent

/-- After any sequence of completed requests, every active connection is on an
instance that exists, is enabled, and is listed for some role. -/
theorem active_connections_backed (settings : Settings) (outside : Outside N)
    (reliable : outside.Reliable) (world : World N) (reached : Reachable settings outside world) :
    ActiveBacked world.store :=
  (reachable_consistent reliable reached).backed

def grantedWorld : World Unit :=
  serveAll sampleSettings (Outside.still unreachable) ⟨Store.empty, ()⟩
    [.createInstance sampleUser "mail" "outlook-edge-com" "Mail" ∅ false true none,
      .replaceMapping sampleUser (.obj [("staff", .arr [.str "mail"])]) none,
      .grant sampleUser "mail" defaultPrivacyClass "" "" none]

theorem granted_connection_backed :
    grantedWorld.store.connections.length = 1 ∧ ActiveBacked grantedWorld.store :=
  ⟨by decide +kernel,
    active_connections_backed sampleSettings (Outside.still unreachable) (still_reliable unreachable)
      grantedWorld (reachable_serve_all _ (.empty ()))⟩

end Lehen.Consistency
