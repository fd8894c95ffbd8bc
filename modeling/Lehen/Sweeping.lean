import Lehen.Balance

/-!
Calls of an administrator that are made again: which writes of a call were
carried out, and which connections its cascade leaves active.
-/

namespace Lehen.Sweeping

open Storage OAuth AuditService ConnectionsService Footprint
open Balance (Entries updatedId updatedIds)

variable {N : Type}

/-- A call by an administrator, and the outside it meets. -/
structure Attempt (N : Type) where
  actor : CurrentUser
  requestId : Option String
  outside : N

/-- One of the writes was executed. -/
def Written (writes : StoreOp → Prop) (past : Entries) : Prop :=
  ∃ entry ∈ past, writes entry.1 ∧ entry.2 ≠ .refused

theorem written_append {writes : StoreOp → Prop} (past noted : Entries) :
    Written writes (past ++ noted) ↔ Written writes past ∨ Written writes noted := by
  simp only [Written, List.mem_append, or_and_right, exists_or]

theorem written_more {writes : StoreOp → Prop} {past : Entries} {statement : StoreOp} {fate : Fate}
    (other : ¬ writes statement) :
    Written writes (past ++ [(statement, fate)]) ↔ Written writes past := by
  rw [written_append]
  apply or_iff_left
  rintro ⟨entry, member, wrote, _⟩
  rw [List.mem_singleton.mp member] at wrote
  exact other wrote

theorem written_refused {writes : StoreOp → Prop} {past : Entries} {statement : StoreOp} :
    Written writes (past ++ [(statement, .refused)]) ↔ Written writes past := by
  rw [written_append]
  apply or_iff_left
  rintro ⟨entry, member, _, executed⟩
  rw [List.mem_singleton.mp member] at executed
  exact executed rfl

theorem written_now {writes : StoreOp → Prop} {past : Entries} {statement : StoreOp} {fate : Fate}
    (wrote : writes statement) (executed : fate ≠ .refused) :
    Written writes (past ++ [(statement, fate)]) :=
  ⟨_, List.mem_append_right _ List.mem_cons_self, wrote, executed⟩

/-! The ids of the updates that were executed. -/

theorem updated_ids_more {past : Entries} {statement : StoreOp} {fate : Fate}
    (other : ∀ id set, statement ≠ .updateConnections id set) :
    updatedIds (past ++ [(statement, fate)]) = updatedIds past := by
  have nothing : updatedId (statement, fate) = none := by
    cases statement with
    | updateConnections id set => exact absurd rfl (other id set)
    | _ => rfl
  simp [updatedIds, List.filterMap_append, nothing]

theorem updated_ids_done (past : Entries) (id : String) (set : ConnectionSet) {fate : Fate}
    (executed : fate ≠ .refused) :
    updatedIds (past ++ [(.updateConnections id set, fate)]) = updatedIds past ++ [id] := by
  cases fate with
  | refused => exact absurd rfl executed
  | _ => simp [updatedIds, List.filterMap_append, updatedId]

theorem updated_ids_refused (past : Entries) (statement : StoreOp) :
    updatedIds (past ++ [(statement, .refused)]) = updatedIds past := by
  have nothing : updatedId (statement, .refused) = none := by cases statement <;> rfl
  simp [updatedIds, List.filterMap_append, nothing]

/-- The operation leaves the past of a call and the tables as they are. -/
structure Unnoticed (writes : StoreOp → Prop) (past later : Entries) (store stored : Store) : Prop where
  wrote : Written writes later ↔ Written writes past
  ids : updatedIds later = updatedIds past
  rows : stored.connections = store.connections
  places : stored.instances = store.instances
  siam : stored.siam = store.siam

theorem unnoticed_refused {writes : StoreOp → Prop} {past : Entries} {statement : StoreOp}
    {store stored : Store} (same : stored = store) :
    Unnoticed writes past (past ++ [(statement, .refused)]) store stored := by
  subst same
  exact ⟨written_refused, updated_ids_refused past statement, rfl, rfl, rfl⟩

theorem unnoticed_calm (outside : Outside N) (writes : StoreOp → Prop) (past : Entries) (op : Op)
    (world : World N) (calm : Calm op) (other : ∀ statement, op = .store statement → ¬ writes statement) :
    Unnoticed writes past (past ++ statements outside op world) world.store
      (exec outside op world).2.store := by
  have same := calm_tables outside op world calm
  cases op with
  | store statement =>
      refine ⟨written_more (other statement rfl), updated_ids_more ?_, same.connections,
        same.instances, same.siam⟩
      rintro id set rfl
      exact calm
  | _ =>
      rw [statements, List.append_nil]
      · exact ⟨Iff.rfl, rfl, same.connections, same.instances, same.siam⟩
      · exact fun _ same => by cases same

/-! The rows that updates by id leave active. -/

/-- The table after the rows with one of the ids were ended. -/
def Endured (ids : List String) (before after : List ConnectionRow) : Prop :=
  ∃ change : ConnectionRow → ConnectionRow, after = before.map change ∧ ∀ row,
    (change row).id = row.id ∧
      (change row).integrationInstanceId = row.integrationInstanceId ∧
        ((change row).isActive = true ↔ row.isActive = true ∧ row.id ∉ ids)

theorem endured_start (rows : List ConnectionRow) : Endured [] rows rows :=
  ⟨id, (List.map_id rows).symm, fun row => ⟨rfl, rfl, by simp⟩⟩

theorem endured_withdraw {ids : List String} {before after : List ConnectionRow} (id : String)
    (ts : Time) (reason : String) (endured : Endured ids before after) :
    Endured (ids ++ [id]) before (setWhereId id (.withdraw ts reason) after) := by
  obtain ⟨change, rfl, kept⟩ := endured
  refine ⟨fun row => if (change row).id = id then (ConnectionSet.withdraw ts reason).apply (change row)
    else change row, by rw [setWhereId, List.map_map]; rfl, fun row => ?_⟩
  obtain ⟨sameId, place, active⟩ := kept row
  dsimp only
  by_cases named : (change row).id = id
  · rw [if_pos named]
    refine ⟨sameId, place, ?_⟩
    rw [sameId] at named
    simp [ConnectionSet.apply, ConnectionRow.isActive, named]
  · rw [if_neg named]
    refine ⟨sameId, place, ?_⟩
    rw [sameId] at named
    simp [active, named]

theorem endured_member {ids : List String} {before after : List ConnectionRow}
    (endured : Endured ids before after) {row : ConnectionRow} (member : row ∈ before)
    (active : row.isActive = true) (spared : row.id ∉ ids) :
    ∃ later ∈ after, later.isActive = true ∧
      later.integrationInstanceId = row.integrationInstanceId := by
  obtain ⟨change, rfl, kept⟩ := endured
  exact ⟨change row, List.mem_map_of_mem member, (kept row).2.2.mpr ⟨active, spared⟩, (kept row).2.1⟩

theorem endured_source {ids : List String} {before after : List ConnectionRow}
    (endured : Endured ids before after) {row : ConnectionRow} (member : row ∈ after)
    (active : row.isActive = true) :
    ∃ old ∈ before, old.isActive = true ∧ old.id ∉ ids ∧
      old.integrationInstanceId = row.integrationInstanceId := by
  obtain ⟨change, rfl, kept⟩ := endured
  obtain ⟨old, earlier, rfl⟩ := List.mem_map.mp member
  obtain ⟨wasActive, spared⟩ := (kept old).2.2.mp active
  exact ⟨old, earlier, wasActive, spared, (kept old).2.1.symm⟩

/-! A call that cannot write its audit event or does not learn that its write was
executed, and one that is made again. -/

/-- A store that refuses the first audit event. -/
def auditFailsOnce : Outside Bool :=
  { Outside.still (fun _ fails => (.error "connection refused", fails)) with
    storeFails := fun statement fails =>
      match statement, fails with
      | .insertAudit _, true => (some "ArcadeDB command 503: ", false)
      | _, _ => (none, fails) }

/-- A store that loses the answer to the first write of an instance or of the mapping. -/
def writeLostOnce : Outside Bool :=
  { Outside.still (fun _ fails => (.error "connection refused", fails)) with
    storeFails := fun statement fails =>
      match statement, fails with
      | .updateInstance _ _, true => (some "ArcadeDB command failed: ", false)
      | .updateSiam _ _, true => (some "ArcadeDB command failed: ", false)
      | _, _ => (none, fails)
    executed := fun _ _ => true }

def connectedStore : Store :=
  ((serve sampleSettings Balance.sampleGrant).run (exec (Outside.still unreachable))
    ⟨mappedStore, ()⟩).2.store

def refusedAttempt : Attempt Bool := ⟨sampleUser, none, true⟩

def laterAttempt : Attempt Bool := ⟨sampleUser, none, false⟩

end Lehen.Sweeping
