import Lehen.History
import Lehen.Selecting

/-!
The deletion of an instance. The registry is asked for the type of the row once the row
is gone.
-/

namespace Lehen.Deleting

open Storage OAuth AuditService Registry IntegrationsService ConnectionsService Keeping Selecting
open Prog (Leaves leaves_bind leaves_mono)

variable {N : Type} {settings : Settings} {outside : Outside N}

/-- The row is gone, its connections are ended, and one event says so. -/
structure Deleted (instanceId : String) (before after : Store) : Prop where
  instances : after.instances = before.instances.filter fun row => row.id ≠ instanceId
  ended : ∃ ts, after.connections =
    changeIds ((before.connections.filter (openOn instanceId)).map ConnectionRow.id)
      (.withdraw ts "revoked-by-admin-delete") before.connections
  closed : ∀ row ∈ after.connections, openOn instanceId row = false
  logged : ∃ event, after.audits = before.audits ++ [event] ∧ event.action = "integration.delete" ∧
    event.targetId = some instanceId

/-- What a failed call leaves as it was. -/
structure Unchanged (before after : Store) : Prop where
  instances : after.instances = before.instances
  connections : after.connections = before.connections
  consents : after.consents = before.consents
  audits : after.audits = before.audits

/-- A deletion is carried out, or it raises and has done nothing. -/
def Lawful (instanceId : String) (before : Store) (outcome : Except PyError Unit) (after : Store) :
    Prop :=
  (outcome = .ok () ∧ Deleted instanceId before after) ∨
    ((∃ error, outcome = .error error) ∧ Unchanged before after)

/-- The type of the instance, if there is one, is in the registry. -/
def Registered (instanceId : String) (store : Store) : Prop :=
  ∀ row, (store.instances.find? fun row => row.id = instanceId) = some row →
    ∃ spec, getType row.type = .ok spec

/-- What the cascade of a deletion leaves. -/
structure Closed (instanceId : String) (before : Store) (outcome : Except PyError Nat) (after : Store) :
    Prop where
  returned : ∃ count, outcome = .ok count
  ended : ∃ ts, after.connections =
    changeIds ((before.connections.filter (openOn instanceId)).map ConnectionRow.id)
      (.withdraw ts "revoked-by-admin-delete") before.connections
  instances : after.instances = before.instances
  audits : after.audits = before.audits

theorem none_open (instanceId reason : String) (ts : Time) (rows : List ConnectionRow) :
    ∀ row ∈ changeIds ((rows.filter (openOn instanceId)).map ConnectionRow.id) (.withdraw ts reason) rows,
      openOn instanceId row = false := by
  intro row member
  obtain ⟨old, there, rfl⟩ := List.mem_map.mp member
  split
  · rfl
  · next spared =>
      by_contra open_
      apply spared
      exact List.mem_map_of_mem (List.mem_filter.mpr ⟨there, by simpa using open_⟩)

theorem closed_nothing {instanceId : String} {before after : Store} (same : after = before)
    (nothing : before.connections.filter (openOn instanceId) = []) :
    Closed instanceId before (.ok 0) after := by
  subst same
  refine ⟨⟨0, rfl⟩, ⟨0, ?_⟩, rfl, rfl⟩
  rw [nothing, List.map_nil, change_ids_nil]

theorem cascade_closes (reliable : outside.Reliable) (instanceId : String) (requestId : Option String)
    (world : World N) :
    Leaves (exec outside) (revokeAllForInstance settings instanceId "revoked-by-admin-delete" requestId)
      world fun outcome after => Closed instanceId world.store outcome after.store := by
  have read : world.store.connections.filter (ConnectionWhere.onInstance instanceId).holds =
      world.store.connections.filter (openOn instanceId) := by
    apply List.filter_congr
    intro row _
    simp [ConnectionWhere.holds, openOn, Bool.and_comm]
  apply leaves_reliable_then reliable
  intro first same
  split
  · next nothing => exact closed_nothing same (read.symm.trans nothing)
  · apply leaves_quick_then (Footprint.quick_perform rfl)
    intro instant second kept
    rw [Prog.bind_eq, leaves_bind]
    apply leaves_mono (loop_leaves reliable (.withdraw instant "revoked-by-admin-delete") _ _
      (fun row _ => withdrawal_tells reliable row _ requestId instant) second)
    rintro outcome last ⟨rfl, events, _, stored⟩
    rw [kept, same] at stored
    change Closed instanceId world.store (.ok _) last.store
    refine ⟨⟨_, rfl⟩, ⟨instant, ?_⟩, ?_, ?_⟩
    · rw [stored, ← read]
      rfl
    · rw [stored]
      rfl
    · rw [stored]
      rfl

/-- A deletion that was carried out. -/
theorem deleted_of_closed {instanceId : String} {store swept after : Store}
    {outcome : Except PyError Nat} {entry : AdminAuditEvent} (closed : Closed instanceId store outcome swept)
    (stored : after = { swept with
      instances := swept.instances.filter fun row => row.id ≠ instanceId
      audits := swept.audits ++ [entry] })
    (action : entry.action = "integration.delete") (target : entry.targetId = some instanceId) :
    Deleted instanceId store after := by
  subst stored
  obtain ⟨ts, ended⟩ := closed.ended
  refine ⟨?_, ⟨ts, ended⟩, ?_, entry, ?_, action, target⟩
  · simp only [closed.instances]
  · simp only [ended]
    exact none_open instanceId _ ts _
  · simp only [closed.audits]

/-- A row that was there is missed. -/
theorem removed_changed {instanceId : String} {row : InstanceRow} {before after : Store}
    (found : (before.instances.find? fun row => row.id = instanceId) = some row)
    (removed : after.instances = before.instances.filter fun row => row.id ≠ instanceId) :
    ¬ Unchanged before after := by
  intro unchanged
  have member := List.mem_of_find?_eq_some found
  have named : row.id = instanceId := by simpa using List.find?_some found
  rw [← unchanged.instances, removed] at member
  simpa [named] using (List.mem_filter.mp member).2

/-- A deletion is all or nothing exactly if the registry knows the type of the instance. -/
theorem deletion_lawful_iff (settings : Settings) (reliable : outside.Reliable) (actor : CurrentUser) (instanceId : String)
    (requestId : Option String) (world : World N) :
    Leaves (exec outside) (delete settings (revokeAllForInstance settings · · ·) actor instanceId
      requestId) world fun outcome after =>
        Lawful instanceId world.store outcome after.store ↔ Registered instanceId world.store := by
  unfold delete rawGet
  simp only [Prog.bind_eq, Prog.bind_assoc]
  apply leaves_reliable_then reliable
  intro first same
  simp only [StoreOp.apply, List.head?_filter] at same ⊢
  cases found : world.store.instances.find? fun row => row.id = instanceId with
  | none =>
      constructor
      · intro _ row there
        rw [found] at there
        cases there
      · intro _
        refine .inr ⟨⟨_, rfl⟩, ?_⟩
        change Unchanged world.store first.store
        rw [same]
        exact ⟨rfl, rfl, rfl, rfl⟩
  | some before =>
      change Leaves (exec outside) (Prog.bind (revokeAllForInstance settings instanceId
        "revoked-by-admin-delete" requestId) _) first _
      rw [leaves_bind]
      apply leaves_mono (cascade_closes reliable instanceId requestId first)
      rintro outcome second closed
      rw [same] at closed
      obtain ⟨count, rfl⟩ := closed.returned
      dsimp only
      apply leaves_reliable_then reliable
      intro third deleted
      have removed : third.store.instances = world.store.instances.filter fun row => row.id ≠ instanceId := by
        rw [deleted]
        simp only [StoreOp.apply, closed.instances]
      -- The fallible lookup comes after what cannot be taken back.
      apply Prog.leaves_lift_then
      · intro spec registered
        apply Trail.leaves_record settings reliable
          (History.known_secrets (registered_of_type registered))
        intro entry last logged appended
        constructor
        · intro _ row there
          rw [found] at there
          cases there
          exact ⟨spec, registered⟩
        · intro _
          refine .inl ⟨rfl, deleted_of_closed closed ?_ logged.action logged.targetId⟩
          rw [appended, deleted]
          rfl
      · intro error unregistered
        constructor
        · rintro (⟨returned, _⟩ | ⟨_, unchanged⟩)
          · cases returned
          · exact absurd unchanged (removed_changed found removed)
        · intro registered
          obtain ⟨spec, known⟩ := registered before found
          rw [known] at unregistered
          cases unregistered

/-! A mailbox of today, and one of a type that was renamed. -/

def mailbox (type : String) : InstanceRow :=
  { id := "mail", type, displayName := "Mail", configPublic := ∅, configSecretsEncrypted := ∅
    enabled := true, multiConnectionAllowed := false, createdBy := "ann", createdAt := 0
    updatedBy := "ann", updatedAt := 0 }

def mailboxWorld (type : String) : World Unit :=
  ⟨{ Store.empty with instances := [mailbox type], connections := [openRow "mail"] }, ()⟩

def deletion : Hub Unit :=
  delete sampleSettings (revokeAllForInstance sampleSettings · · ·) sampleUser "mail"

def deleted (type : String) : Except PyError Unit × World Unit :=
  deletion.run (exec (Outside.still unreachable)) (mailboxWorld type)

theorem known_mailbox_deleted :
    Lawful "mail" (mailboxWorld "outlook-edge-com").store (deleted "outlook-edge-com").1
      (deleted "outlook-edge-com").2.store := by
  have lawful := deletion_lawful_iff sampleSettings (still_reliable unreachable) sampleUser "mail" none
    (mailboxWorld "outlook-edge-com")
  apply lawful.mpr
  intro row found
  cases found
  exact ⟨outlookEdgeCom, rfl⟩

/-- The row is gone and its connection ended, but the call fails and no event is written. -/
theorem renamed_mailbox_lost :
    (deleted "outlook-com").1 = .error ⟨.unknownIntegrationTypeError,
        "unknown integration type: outlook-com"⟩ ∧
      (deleted "outlook-com").2.store.instances.length = 0 ∧
        (deleted "outlook-com").2.store.audits.length = 0 ∧
          ¬ Lawful "mail" (mailboxWorld "outlook-com").store (deleted "outlook-com").1
            (deleted "outlook-com").2.store := by
  refine ⟨rfl, rfl, rfl, ?_⟩
  rintro (⟨returned, _⟩ | ⟨_, unchanged⟩)
  · cases returned
  · have lengths := congrArg List.length unchanged.instances
    cases lengths

end Lehen.Deleting
