import Lehen.Footprint

/-!
Invariants of the requests, put together from those of their parts: an admin
action keeps what its own statements and its cascade keep.
-/

namespace Lehen.Keeping

open Storage OAuth AuditService SiamService ConnectionsService IntegrationsService Footprint
open Prog (Keeps keeps_bind keeps_only keeps_ret keeps_drop keeps_when only_bind only_perform
  only_require only_lift only_of_straight)

variable {N : Type} {outside : Outside N} {inside : World N → Prop} {settings : Settings}

/-- A program that begins with a statement: the client fails, with the statement
executed or not, or the statement is answered. -/
theorem leaves_store_then {α : Type} {statement : StoreOp} {rest : statement.Res → Hub α}
    {world : World N} {post : Except PyError α → World N → Prop}
    (failed : ∀ error after, error.kind = .arcadeError →
      after.store = world.store ∨ after.store = (statement.apply world.store).2 →
      post (.error error) after)
    (done : ∀ after : World N, after.store = (statement.apply world.store).2 →
      Prog.Leaves (exec outside) (rest (statement.apply world.store).1) after post) :
    Prog.Leaves (exec outside) ((Prog.perform (Op.store statement) : Hub statement.Res).bind rest)
      world post := by
  rw [Prog.leaves_bind, Prog.leaves_perform]
  rcases exec_store outside statement world with ⟨error, answer, same⟩ | ⟨answer, same⟩
  · have kind := exec_store_error answer
    rw [answer]
    exact failed error _ kind same
  · rw [answer]
    exact done _ same

/-- The same whatever the client raises. -/
theorem leaves_statement_then {α : Type} {statement : StoreOp} {rest : statement.Res → Hub α}
    {world : World N} {post : Except PyError α → World N → Prop}
    (failed : ∀ error after,
      after.store = world.store ∨ after.store = (statement.apply world.store).2 →
      post (.error error) after)
    (done : ∀ after : World N, after.store = (statement.apply world.store).2 →
      Prog.Leaves (exec outside) (rest (statement.apply world.store).1) after post) :
    Prog.Leaves (exec outside) ((Prog.perform (Op.store statement) : Hub statement.Res).bind rest)
      world post :=
  leaves_store_then (fun error after _ => failed error after) done

/-- A program that begins with a statement that only reads. -/
theorem leaves_read_then {α : Type} {statement : StoreOp} {rest : statement.Res → Hub α}
    {world : World N} {post : Except PyError α → World N → Prop}
    (reads : (statement.apply world.store).2 = world.store)
    (failed : ∀ error after, error.kind = .arcadeError → after.store = world.store →
      post (.error error) after)
    (done : ∀ after : World N, after.store = world.store →
      Prog.Leaves (exec outside) (rest (statement.apply world.store).1) after post) :
    Prog.Leaves (exec outside) ((Prog.perform (Op.store statement) : Hub statement.Res).bind rest)
      world post :=
  leaves_store_then
    (fun error after kind moved => failed error after kind (moved.elim id fun same => same.trans reads))
    fun after same => done after (same.trans reads)

/-- What holds of the store whether the statement is executed or not. -/
theorem leaves_kept_then {α : Type} {statement : StoreOp} {rest : statement.Res → Hub α}
    {world : World N} (holds : Store → Prop) (unchanged : holds world.store)
    (written : holds (statement.apply world.store).2)
    (done : ∀ after : World N, holds after.store →
      Prog.Leaves (exec outside) (rest (statement.apply world.store).1) after
        fun _ last => holds last.store) :
    Prog.Leaves (exec outside) ((Prog.perform (Op.store statement) : Hub statement.Res).bind rest)
      world fun _ last => holds last.store := by
  apply leaves_statement_then
  · intro error after moved
    rcases moved with same | same
    · rw [same]
      exact unchanged
    · rw [same]
      exact written
  · intro after same
    apply done after
    rw [same]
    exact written

/-- The same where no statement fails. -/
theorem leaves_reliable_then {α : Type} (reliable : outside.Reliable) {statement : StoreOp}
    {rest : statement.Res → Hub α} {world : World N} {post : Except PyError α → World N → Prop}
    (done : ∀ after : World N, after.store = (statement.apply world.store).2 →
      Prog.Leaves (exec outside) (rest (statement.apply world.store).1) after post) :
    Prog.Leaves (exec outside) ((Prog.perform (Op.store statement) : Hub statement.Res).bind rest)
      world post := by
  have carried := exec_reliable reliable statement world
  rw [Prog.leaves_bind, Prog.leaves_perform, carried.1]
  exact done _ carried.2

/-- A statement fails only in a store that may fail. -/
theorem leaves_faulty_then {α : Type} {statement : StoreOp} {rest : statement.Res → Hub α}
    {world : World N} {post : Except PyError α → World N → Prop}
    (failed : ¬ outside.Reliable → ∀ error after,
      after.store = world.store ∨ after.store = (statement.apply world.store).2 →
        post (.error error) after)
    (done : ∀ after : World N, after.store = (statement.apply world.store).2 →
      Prog.Leaves (exec outside) (rest (statement.apply world.store).1) after post) :
    Prog.Leaves (exec outside) ((Prog.perform (Op.store statement) : Hub statement.Res).bind rest)
      world post := by
  by_cases reliable : outside.Reliable
  · exact leaves_reliable_then reliable done
  · exact leaves_statement_then (failed reliable) done

/-- The same of a statement that only reads. -/
theorem leaves_faulty_read_then {α : Type} {statement : StoreOp} {rest : statement.Res → Hub α}
    {world : World N} {post : Except PyError α → World N → Prop}
    (reads : (statement.apply world.store).2 = world.store)
    (failed : ¬ outside.Reliable → ∀ error after, after.store = world.store → post (.error error) after)
    (done : ∀ after : World N, after.store = world.store →
      Prog.Leaves (exec outside) (rest (statement.apply world.store).1) after post) :
    Prog.Leaves (exec outside) ((Prog.perform (Op.store statement) : Hub statement.Res).bind rest)
      world post :=
  leaves_faulty_then
    (fun faulty error after moved =>
      failed faulty error after (moved.elim id fun same => same.trans reads))
    fun after same => done after (same.trans reads)

/-- A program that begins by reading an instance. -/
theorem leaves_raw_get_then {α : Type} {instanceId : String} {rest : InstanceRow → Hub α}
    {world : World N} {post : Except PyError α → World N → Prop}
    (failed : ∀ error after, after.store = world.store → post (.error error) after)
    (done : ∀ row (after : World N), row ∈ world.store.instances → row.id = instanceId →
      after.store = world.store → Prog.Leaves (exec outside) (rest row) after post) :
    Prog.Leaves (exec outside) ((rawGet instanceId).bind rest) world post := by
  rw [rawGet, Prog.bind_eq, Prog.bind_assoc]
  apply leaves_read_then rfl fun error after _ => failed error after
  intro after same
  simp only [StoreOp.apply]
  cases first : (world.store.instances.filter fun row => row.id = instanceId).head? with
  | none => exact failed _ after same
  | some row =>
      have found := List.mem_filter.mp (List.mem_of_head? first)
      exact done row after found.1 (of_decide_eq_true found.2) same

variable (outside) in
theorem leaves_asked {α : Type} {body : Hub α} (asking : body.Only Asking) (world : World N) :
    Prog.Leaves (exec outside) body world fun _ after => after.store = world.store :=
  Prog.leaves_only _ asking rfl fun op state asks same =>
    (asking_store outside op state asks).trans same

/-- A program that begins with a part that only asks. -/
theorem leaves_asking_then {α β : Type} {body : Hub α} {rest : α → Hub β} {world : World N}
    {post : Except PyError β → World N → Prop} (asking : body.Only Asking)
    (failed : ∀ error after, after.store = world.store → post (.error error) after)
    (done : ∀ value (after : World N), (body.run (exec outside) world).1 = .ok value →
      after.store = world.store → Prog.Leaves (exec outside) (rest value) after post) :
    Prog.Leaves (exec outside) (body.bind rest) world post := by
  have unchanged := leaves_asked outside asking world
  have both : Prog.Leaves (exec outside) body world fun outcome after =>
      outcome = (body.run (exec outside) world).1 ∧ after.store = world.store := ⟨rfl, unchanged⟩
  rw [Prog.leaves_bind]
  apply Prog.leaves_mono both
  rintro outcome after ⟨same, store⟩
  cases outcome with
  | ok value => exact done value after same.symm store
  | error error => exact failed error after store

/-- The reasons the admin actions give their cascades. -/
def adminReasons : List String := ["revoked-by-admin-disable", "revoked-by-admin-delete"]

section Admin

variable (administers : ∀ op world, Administering op → inside world → inside (exec outside op world).2)

include administers

theorem keeps_administering {α : Type} {body : Hub α} (only : body.Only Administering) :
    Keeps (exec outside) inside body :=
  keeps_only only administers

theorem keeps_record (event : AuditEvent) : Keeps (exec outside) inside (record settings event) :=
  keeps_administering administers
    (only_of_straight (auditing_record settings event) administering_of_auditing)

theorem keeps_quick {α : Type} {body : Hub α} (quick : body.Straight Quick True) :
    Keeps (exec outside) inside body :=
  keeps_administering administers (only_of_straight quick administering_of_quick)

theorem keeps_statement (statement : StoreOp) (administering : Administering (.store statement)) :
    Keeps (exec outside) inside (Prog.perform (Op.store statement) : Hub statement.Res) :=
  keeps_administering administers (only_perform administering)

theorem keeps_require (condition : Prop) [Decidable condition] (error : PyError) :
    Keeps (exec outside) inside (Prog.require condition error : Hub Unit) :=
  keeps_administering administers (only_require condition error)

theorem keeps_lift {α : Type} (outcome : Except PyError α) :
    Keeps (exec outside) inside (Prog.lift outcome : Hub α) :=
  keeps_administering administers (only_lift outcome)

theorem keeps_now : Keeps (exec outside) inside now :=
  keeps_administering administers (only_perform rfl)

theorem keeps_raw_get (instanceId : String) : Keeps (exec outside) inside (rawGet instanceId) := by
  apply keeps_administering administers
  apply only_bind (only_perform trivial)
  intro rows
  split <;> trivial

theorem keeps_create (actor : CurrentUser) (instanceId typeId displayName : String)
    (config : Dict Json) (multiConnectionAllowed enabled : Bool) (requestId : Option String) :
    Keeps (exec outside) inside (create settings actor instanceId typeId displayName config
      multiConnectionAllowed enabled requestId) := by
  apply keeps_bind (keeps_lift administers _)
  intro spec
  apply keeps_bind (keeps_require administers _ _)
  intro _
  apply keeps_bind (keeps_statement administers (.selectInstance _) trivial)
  intro existing
  apply keeps_bind (keeps_require administers _ _)
  intro _
  apply keeps_bind (keeps_quick administers (quick_split_config settings spec config))
  intro split
  apply keeps_bind (keeps_now administers)
  intro instant
  apply keeps_bind (keeps_statement administers (.insertInstance _) trivial)
  intro _
  exact keeps_bind (keeps_record administers _) fun _ => keeps_ret _

theorem keeps_update (revokeCascade : String → String → Option String → Hub Nat)
    (actor : CurrentUser) (instanceId : String) (changes : Changes) (requestId : Option String)
    (cascade : Keeps (exec outside) inside
      (revokeCascade instanceId "revoked-by-admin-disable" requestId)) :
    Keeps (exec outside) inside
      (update settings revokeCascade actor instanceId changes requestId) := by
  apply keeps_bind (keeps_raw_get administers instanceId)
  intro before
  apply keeps_bind (keeps_lift administers _)
  intro spec
  apply keeps_bind (keeps_require administers _ _)
  intro _
  apply keeps_bind (keeps_quick administers (quick_split_changes settings spec changes))
  intro split
  apply keeps_bind (keeps_now administers)
  intro instant
  apply keeps_bind (keeps_statement administers (.updateInstance _ _) trivial)
  intro _
  apply keeps_bind (keeps_record administers _)
  intro _
  exact keeps_bind (keeps_when cascade) fun _ => keeps_ret _

theorem keeps_delete (revokeCascade : String → String → Option String → Hub Nat)
    (actor : CurrentUser) (instanceId : String) (requestId : Option String)
    (cascade : Keeps (exec outside) inside
      (revokeCascade instanceId "revoked-by-admin-delete" requestId)) :
    Keeps (exec outside) inside (delete settings revokeCascade actor instanceId requestId) := by
  apply keeps_bind (keeps_raw_get administers instanceId)
  intro before
  apply keeps_bind cascade
  intro _
  apply keeps_bind (keeps_statement administers (.deleteInstance _) trivial)
  intro _
  exact keeps_bind (keeps_lift administers _) fun spec => keeps_record administers _

theorem keeps_replace (cascade : Mapping → Mapping → Option String → Hub Nat)
    (actor : CurrentUser) (mapping : Json) (requestId : Option String)
    (hook : ∀ before after, Keeps (exec outside) inside (cascade before after requestId)) :
    Keeps (exec outside) inside (replace settings cascade actor mapping requestId) := by
  have get : Keeps (exec outside) inside SiamService.get :=
    keeps_bind (keeps_statement administers (.selectSiam _) trivial) fun _ => keeps_ret _
  apply keeps_bind get
  intro before
  apply keeps_bind (keeps_now administers)
  intro updatedAt
  apply keeps_bind (keeps_statement administers (.selectSiam _) trivial)
  intro existing
  apply keeps_bind
  · unfold save
    split
    · exact keeps_statement administers (.updateSiam _ _) trivial
    · exact keeps_statement administers (.insertSiam _) trivial
  · intro _
    apply keeps_bind get
    intro after
    apply keeps_bind (keeps_record administers _)
    intro _
    exact keeps_bind (keeps_when (hook before after)) fun _ => keeps_ret _

/-- An invariant of every request, from that of the operations on connections. -/
theorem keeps_serve (request : Request)
    (asks : ∀ op world, Asking op → inside world → inside (exec outside op world).2)
    (grants : ∀ user instanceId privacyClass externalSubject displayLabel requestId,
      request = .grant user instanceId privacyClass externalSubject displayLabel requestId →
        Keeps (exec outside) inside
          (grant settings user instanceId privacyClass externalSubject displayLabel requestId))
    (completes : ∀ user instanceId code state requestId,
      request = .completeGrant user instanceId code state requestId →
        Keeps (exec outside) inside (completeGrant settings user instanceId code state requestId))
    (revokes : ∀ user instanceId externalSubject requestId,
      request = .revoke user instanceId externalSubject requestId →
        Keeps (exec outside) inside (revoke settings user instanceId externalSubject requestId))
    (sweeps : ∀ instanceId reason requestId, reason ∈ adminReasons ∨
        request = .revokeAllForInstance instanceId reason requestId →
      Keeps (exec outside) inside (revokeAllForInstance settings instanceId reason requestId))
    (cascades : ∀ previousMapping newMapping requestId, Keeps (exec outside) inside
      (revokeForUsersNoLongerAuthorized settings previousMapping newMapping requestId))
    (renews : ∀ id clockSkewSeconds nowTs,
      request = .getValidAccessToken id clockSkewSeconds nowTs →
        Keeps (exec outside) inside (getValidAccessToken settings id clockSkewSeconds nowTs)) :
    Keeps (exec outside) inside (serve settings request) := by
  -- Each request is the operations on connections below it, and reads and logs around them.
  cases request with
  | createInstance actor instanceId typeId displayName config multi enabled requestId =>
      exact keeps_drop (keeps_create administers _ _ _ _ _ _ _ _)
  | updateInstance actor instanceId changes requestId =>
      exact keeps_drop (keeps_update administers _ _ _ _ _ (sweeps _ _ _ (.inl (by decide))))
  | deleteInstance actor instanceId requestId =>
      exact keeps_delete administers _ _ _ _ (sweeps _ _ _ (.inl (by decide)))
  | replaceMapping actor mapping requestId =>
      exact keeps_drop (keeps_replace administers _ _ _ _ fun _ _ => cascades _ _ _)
  | grant user instanceId privacyClass externalSubject displayLabel requestId =>
      exact keeps_drop (grants _ _ _ _ _ _ rfl)
  | initiateGrant user instanceId redirectUri =>
      exact keeps_drop (keeps_only (asking_initiate ..) asks)
  | completeGrant user instanceId code state requestId =>
      exact keeps_drop (completes _ _ _ _ _ rfl)
  | revoke user instanceId externalSubject requestId => exact revokes _ _ _ _ rfl
  | revokeAllForInstance instanceId reason requestId =>
      exact keeps_drop (sweeps _ _ _ (.inr rfl))
  | revokeForUsersNoLongerAuthorized previousMapping newMapping requestId =>
      exact keeps_drop (cascades _ _ _)
  | getValidAccessToken id clockSkewSeconds nowTs => exact keeps_drop (renews _ _ _ rfl)

end Admin

end Lehen.Keeping
