import Lehen.Consistency
import Lehen.Keeping
import Lehen.MeService

/-!
What a user sees in GET /me, and what the gates of a grant let through: the read
side filters instances by the roles that match, the write side asks for one
instance at a time.
-/

namespace Lehen.Visibility

open Storage OAuth AuditService SiamService ConnectionsService MeService Footprint Keeping
open Consistency (currentMapping DistinctInstances InstanceEnabled)
open Prog (Leaves leaves_mono)

variable {N : Type} {outside : Outside N}

/-! The gates. -/

/-- Some role of the user lists the instance. -/
def Authorized (store : Store) (user : CurrentUser) (instanceId : String) : Prop :=
  ∃ role ∈ user.realmRoles, instanceId ∈ (currentMapping store).allowed role

/-- The first row with the id is enabled, and some role of the user lists it. -/
def GatesOpen (store : Store) (user : CurrentUser) (instanceId : String) : Prop :=
  (∃ row, (store.instances.filter fun row => row.id = instanceId).head? = some row ∧
    row.enabled = true) ∧ Authorized store user instanceId

theorem mapping_then {α : Type} (reliable : outside.Reliable) {rest : Mapping → Hub α}
    {world : World N} {post : Except PyError α → World N → Prop}
    (done : ∀ after : World N, after.store = world.store →
      Leaves (exec outside) (rest (currentMapping world.store)) after post) :
    Leaves (exec outside) (SiamService.get.bind rest) world post := by
  rw [SiamService.get, Prog.bind_eq, Prog.bind_assoc]
  exact leaves_reliable_then reliable done

theorem authorized_iff (mapping : Mapping) (user : CurrentUser) (instanceId : String) :
    (user.realmRoles.any fun role => decide (instanceId ∈ mapping.allowed role)) = true ↔
      ∃ role ∈ user.realmRoles, instanceId ∈ mapping.allowed role := by
  simp

theorem gates_iff (reliable : outside.Reliable) (user : CurrentUser) (instanceId : String)
    (world : World N) :
    Leaves (exec outside) (passGates user instanceId) world fun outcome _ =>
      (∃ row, outcome = .ok row) ↔ GatesOpen world.store user instanceId := by
  rw [passGates, Prog.bind_eq, fetchInstance, Prog.bind_eq, Prog.bind_assoc]
  apply leaves_reliable_then reliable
  intro found same
  simp only [StoreOp.apply, Prog.pure_eq, Prog.bind_ret] at same ⊢
  cases first : (world.store.instances.filter fun row => row.id = instanceId).head? with
  | none =>
      constructor
      · rintro ⟨row, impossible⟩
        cases impossible
      · rintro ⟨⟨row, present, _⟩, _⟩
        rw [first] at present
        cases present
  | some row =>
      dsimp only
      apply Prog.leaves_require_then
      · intro enabled
        rw [isSiamAuthorized, Prog.bind_eq, Prog.bind_eq, Prog.bind_assoc]
        apply mapping_then reliable
        intro after _
        rw [same]
        apply Prog.leaves_require_then
        · intro listed
          constructor
          · exact fun _ => ⟨⟨row, first, enabled⟩, (authorized_iff ..).mp listed⟩
          · exact fun _ => ⟨row, rfl⟩
        · intro refused
          constructor
          · rintro ⟨place, impossible⟩
            cases impossible
          · exact fun gates => absurd ((authorized_iff ..).mpr gates.2) refused
      · intro disabled
        constructor
        · rintro ⟨place, impossible⟩
          cases impossible
        · rintro ⟨⟨place, present, enabled⟩, _⟩
          obtain rfl := Option.some.inj (first.symm.trans present)
          exact absurd enabled disabled

/-! The list of GET /me. -/

/-- Any role of the user that the mapping names counts, and others list nothing. -/
theorem mem_allowed_ids (mapping : Mapping) (user : CurrentUser) (instanceId : String) :
    instanceId ∈ allowedInstanceIds mapping (matchingRoles mapping user) ↔
      ∃ role ∈ user.realmRoles, instanceId ∈ mapping.allowed role := by
  simp only [allowedInstanceIds, matchingRoles, List.mem_insertionSort, List.mem_dedup,
    List.mem_flatMap, List.mem_filter, decide_eq_true_eq]
  constructor
  · rintro ⟨role, ⟨member, _⟩, listed⟩
    exact ⟨role, member, listed⟩
  · rintro ⟨role, member, listed⟩
    refine ⟨role, ⟨member, ?_⟩, listed⟩
    cases found : mapping.lookup role with
    | none => simp [Mapping.allowed, found] at listed
    | some ids =>
        obtain ⟨before, after, same, _⟩ := List.lookup_eq_some_iff.mp found
        rw [same]
        simp

theorem allowed_ids_ascend (mapping : Mapping) (roles : List String) :
    (allowedInstanceIds mapping roles).Pairwise (· < ·) := by
  have sorted : (allowedInstanceIds mapping roles).Pairwise (· ≤ ·) := List.pairwise_insertionSort ..
  have distinct : (allowedInstanceIds mapping roles).Nodup :=
    (List.perm_insertionSort ..).nodup_iff.mpr (List.nodup_dedup _)
  exact (sorted.and distinct).imp fun both => lt_of_le_of_ne both.1 both.2

/-- The last row with the id, as the dictionary of GET /me keeps it, is enabled. -/
def ShownEnabled (instances : List IntegrationsService.InstanceView) (instanceId : String) : Prop :=
  ∃ place, lastWith IntegrationsService.InstanceView.id instanceId instances = some place ∧
    place.enabled = true

theorem entry_cases (instances : List IntegrationsService.InstanceView)
    (connections : List ConnectionRow) (instanceId : String) :
    (integrationEntry instances connections instanceId = none ∧ ¬ ShownEnabled instances instanceId) ∨
      ∃ entry, integrationEntry instances connections instanceId = some entry ∧
        entry.instanceId = instanceId ∧ ShownEnabled instances instanceId := by
  unfold integrationEntry ShownEnabled
  cases lastWith IntegrationsService.InstanceView.id instanceId instances with
  | none => simp
  | some place => by_cases enabled : place.enabled = true <;> simp [enabled]

theorem listed_ids (instances : List IntegrationsService.InstanceView)
    (connections : List ConnectionRow) (ids : List String) :
    ((ids.filterMap (integrationEntry instances connections)).map IntegrationEntry.instanceId).Sublist
        ids ∧
      ∀ instanceId, instanceId ∈
          (ids.filterMap (integrationEntry instances connections)).map IntegrationEntry.instanceId ↔
        instanceId ∈ ids ∧ ShownEnabled instances instanceId := by
  induction ids with
  | nil => simp
  | cons id rest ih =>
      rcases entry_cases instances connections id with ⟨none, hidden⟩ | ⟨entry, some, named, shown⟩
      · rw [List.filterMap_cons_none none]
        constructor
        · exact ih.1.cons id
        · intro instanceId
          rw [ih.2, List.mem_cons]
          constructor
          · rintro ⟨member, shown⟩
            exact ⟨.inr member, shown⟩
          · rintro ⟨rfl | member, shown⟩
            · exact absurd shown hidden
            · exact ⟨member, shown⟩
      · rw [List.filterMap_cons_some some, List.map_cons, named]
        constructor
        · exact ih.1.cons_cons id
        · intro instanceId
          rw [List.mem_cons, ih.2, List.mem_cons]
          constructor
          · rintro (rfl | ⟨member, seen⟩)
            · exact ⟨.inl rfl, shown⟩
            · exact ⟨.inr member, seen⟩
          · rintro ⟨rfl | member, seen⟩
            · exact .inl rfl
            · exact .inr ⟨member, seen⟩

/-! The payload of GET /me on a store that does not fail. -/

def payloadOf (store : Store) (user : CurrentUser) : MePayload :=
  let roles := matchingRoles (currentMapping store) user
  { user, roles
    integrations := integrationsPayload (currentMapping store) roles
      ((store.instances.insertionSort fun left right => left.id ≤ right.id).map
        IntegrationsService.renderForRead)
      (store.connections.filter (ConnectionWhere.ofUser user.sub).holds) }

/-- Anything but a call over the network. -/
def Near : Op → Prop
  | .http _ => False
  | _ => True

theorem near_succeeds (reliable : outside.Reliable) (op : Op) (world : World N) (near : Near op) :
    ∃ value, (exec outside op world).1 = .ok value := by
  cases op with
  | store statement => exact ⟨_, (exec_reliable reliable statement world).1⟩
  | http request => exact near.elim
  | _ => exact ⟨_, rfl⟩

theorem near_of_logging (op : Op) (logging : Logging op) : Near op := by
  cases op with
  | http request => exact logging.elim
  | _ => trivial

theorem near_login (days : Nat) (user : CurrentUser) (roles integrationIds : List String)
    (requestId : Option String) :
    (recordLoginEvent days user roles integrationIds requestId).Straight Near False := by
  apply Prog.straight_bind (Prog.straight_perform trivial)
  intro ts
  apply Prog.straight_bind (Prog.straight_perform trivial)
  intro id
  apply Prog.straight_bind (Prog.straight_mono (logging_request_id requestId) near_of_logging
    fun raises => raises)
  intro requestId
  exact Prog.straight_perform trivial

theorem me_payload (reliable : outside.Reliable) (days : Nat) (user : CurrentUser)
    (requestId : Option String) (world : World N) :
    Leaves (exec outside) (me days user requestId) world fun outcome _ =>
      outcome = .ok (payloadOf world.store user) := by
  rw [me, Prog.bind_eq]
  apply mapping_then reliable
  intro mapped same
  rw [Prog.bind_eq, IntegrationsService.list, Prog.bind_eq, Prog.bind_assoc]
  apply leaves_reliable_then reliable
  intro listed sameListed
  simp only [StoreOp.apply, same, Prog.pure_eq, Prog.bind_ret] at sameListed ⊢
  rw [Prog.bind_eq, listForUser]
  apply leaves_reliable_then reliable
  intro connected _
  simp only [StoreOp.apply, sameListed]
  have recorded : Leaves (exec outside) (recordLoginEvent days user (payloadOf world.store user).roles
      ((payloadOf world.store user).integrations.map IntegrationEntry.instanceId) requestId)
      connected fun outcome _ => ∃ value, outcome = .ok value :=
    Prog.straight_succeeds (near_login ..) (near_succeeds reliable)
  rw [Prog.bind_eq, Prog.leaves_bind]
  apply leaves_mono recorded
  rintro outcome after ⟨value, rfl⟩
  rfl

/-! With unique ids both sides ask whether the instance exists and is enabled. -/

theorem first_enabled_iff {store : Store} (distinct : DistinctInstances store) (instanceId : String) :
    (∃ row, (store.instances.filter fun row => row.id = instanceId).head? = some row ∧
      row.enabled = true) ↔ InstanceEnabled store instanceId := by
  constructor
  · rintro ⟨row, first, enabled⟩
    obtain ⟨member, named⟩ := List.mem_filter.mp (List.mem_of_head? first)
    exact ⟨row, member, of_decide_eq_true named, enabled⟩
  · rintro ⟨row, member, named, enabled⟩
    have present : row ∈ store.instances.filter fun row => row.id = instanceId :=
      List.mem_filter.mpr ⟨member, decide_eq_true named⟩
    cases first : (store.instances.filter fun row => row.id = instanceId).head? with
    | none =>
        rw [List.head?_eq_none_iff.mp first] at present
        cases present
    | some other =>
        obtain ⟨known, sameName⟩ := List.mem_filter.mp (List.mem_of_head? first)
        have same : other = row := List.inj_on_of_nodup_map distinct known member
          ((of_decide_eq_true sameName).trans named.symm)
        exact ⟨other, rfl, same ▸ enabled⟩

theorem shown_enabled_iff {store : Store} (distinct : DistinctInstances store) (instanceId : String) :
    ShownEnabled ((store.instances.insertionSort fun left right => left.id ≤ right.id).map
      IntegrationsService.renderForRead) instanceId ↔ InstanceEnabled store instanceId := by
  have rendered (place : IntegrationsService.InstanceView) :
      place ∈ ((store.instances.insertionSort fun left right => left.id ≤ right.id).map
        IntegrationsService.renderForRead).reverse ↔
      ∃ row ∈ store.instances, IntegrationsService.renderForRead row = place := by
    simp
  constructor
  · rintro ⟨place, last, enabled⟩
    obtain ⟨row, member, rfl⟩ := (rendered place).mp (List.mem_of_find?_eq_some last)
    have named := List.find?_some last
    exact ⟨row, member, of_decide_eq_true named, enabled⟩
  · rintro ⟨row, member, named, enabled⟩
    unfold ShownEnabled lastWith
    cases last : (((store.instances.insertionSort fun left right => left.id ≤ right.id).map
        IntegrationsService.renderForRead).reverse).find? fun entry => entry.id = instanceId with
    | none =>
        have absent := List.find?_eq_none.mp last (IntegrationsService.renderForRead row)
          ((rendered _).mpr ⟨row, member, rfl⟩)
        exact absurd (decide_eq_true named) absent
    | some place =>
        obtain ⟨other, known, rfl⟩ := (rendered place).mp (List.mem_of_find?_eq_some last)
        have sameName := List.find?_some last
        have same : other = row := List.inj_on_of_nodup_map distinct known member
          ((of_decide_eq_true sameName).trans named.symm)
        exact ⟨_, rfl, same ▸ enabled⟩

/-- GET /me lists, once each and in ascending order, exactly the instances whose
gates a grant of the user passes. -/
theorem listed_iff_gates (reliable : outside.Reliable) (days : Nat) (user : CurrentUser)
    (requestId : Option String) (world : World N) (distinct : DistinctInstances world.store) :
    ∃ payload, ((me days user requestId).run (exec outside) world).1 = .ok payload ∧
      (payload.integrations.map IntegrationEntry.instanceId).Pairwise (· < ·) ∧
      ∀ instanceId, instanceId ∈ payload.integrations.map IntegrationEntry.instanceId ↔
        ∃ row, ((passGates user instanceId).run (exec outside) world).1 = .ok row := by
  refine ⟨payloadOf world.store user, me_payload reliable days user requestId world, ?_, ?_⟩
  · exact (allowed_ids_ascend ..).sublist (listed_ids ..).1
  · intro instanceId
    have gates : (∃ row, ((passGates user instanceId).run (exec outside) world).1 = .ok row) ↔
        GatesOpen world.store user instanceId := gates_iff reliable user instanceId world
    rw [gates]
    have listed := (listed_ids ((world.store.instances.insertionSort fun left right =>
        left.id ≤ right.id).map IntegrationsService.renderForRead)
      (world.store.connections.filter (ConnectionWhere.ofUser user.sub).holds)
      (allowedInstanceIds (currentMapping world.store)
        (matchingRoles (currentMapping world.store) user))).2 instanceId
    apply listed.trans
    rw [mem_allowed_ids, shown_enabled_iff distinct, GatesOpen, first_enabled_iff distinct]
    exact and_comm

theorem mapped_listed_iff_gates :
    ∃ payload, ((me 90 sampleUser none).run (exec (Outside.still unreachable))
        ⟨mappedStore, ()⟩).1 = .ok payload ∧
      (payload.integrations.map IntegrationEntry.instanceId).Pairwise (· < ·) ∧
      ∀ instanceId, instanceId ∈ payload.integrations.map IntegrationEntry.instanceId ↔
        ∃ row, ((passGates sampleUser instanceId).run (exec (Outside.still unreachable))
          ⟨mappedStore, ()⟩).1 = .ok row :=
  listed_iff_gates (still_reliable unreachable) 90 sampleUser none ⟨mappedStore, ()⟩
    (List.nodup_singleton _)

end Lehen.Visibility
