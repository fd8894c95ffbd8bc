import Lehen.AdminCalls
import Lehen.Configuring
import Lehen.Verification

/-!
The documents that the services send with `UPDATE ... CONTENT`, as the client writes
them. ArcadeDB accepts none that has one of its own keys.
-/

namespace Lehen.Contents

open Storage OAuth AuditService LlmService Configuring Footprint
open IntegrationsService (Changes)
open AuthState (AuthOp AuthOutside AuthWorld authExec LocalAdminRow)
open Prog (only_bind only_perform only_require only_lift only_mono only_of_straight only_when
  yields_mono)

variable {N : Type} {settings : Settings}

def objectOf (dict : Dict Json) : Json := .obj (dict.entries.map fun entry => (entry.1, entry.2))

/-- `dict(before)` keeps the keys of the database, too. -/
def instanceContent (row : InstanceRow) : Dict Json :=
  Dict.merge
    (Dict.ofList
      [("id", .str row.id), ("type", .str row.type), ("display_name", .str row.displayName),
        ("config_public", objectOf row.configPublic),
        ("config_secrets_encrypted",
          .obj (row.configSecretsEncrypted.entries.map fun entry => (entry.1, .str entry.2))),
        ("enabled", .bool row.enabled), ("multi_connection_allowed", .bool row.multiConnectionAllowed),
        ("created_by", .str row.createdBy), ("created_at", .str (isoformat row.createdAt)),
        ("updated_by", .str row.updatedBy), ("updated_at", .str (isoformat row.updatedAt))])
    row.internals

def siamContent (row : SiamRow) : Dict Json :=
  Dict.ofList
    [("id", .str row.id), ("mapping", row.mapping), ("updated_by", .str row.updatedBy),
      ("updated_at", .str (isoformat row.updatedAt))]

def timeOrNull : Option Time → Json
  | some instant => .str (isoformat instant)
  | none => .null

def localAdminContent (row : LocalAdminRow) : Dict Json :=
  Dict.ofList
    [("username", .str row.username), ("password_hash", .str row.passwordHash),
      ("enabled", .bool row.enabled), ("failed_attempts", .int row.failedAttempts),
      ("locked_until", timeOrNull row.lockedUntil), ("last_login_at", timeOrNull row.lastLoginAt),
      ("created_at", .str (isoformat row.createdAt)),
      ("password_rotated_at", .str (isoformat row.passwordRotatedAt)),
      ("disabled_at", timeOrNull row.disabledAt),
      ("disabled_by_siam_username", .ofOption row.disabledBySiamUsername)]

/-- The document of an `UPDATE ... CONTENT`. -/
def content : Op → Option (Dict Json)
  | .store (.updateInstance _ row) => some (instanceContent row)
  | .store (.updateSiam _ row) => some (siamContent row)
  | .store (.updateLlm _ doc) => some doc
  | _ => none

def authContent : AuthOp → Option (Dict Json)
  | .store (.replaceLocalAdmin _ row) => some (localAdminContent row)
  | _ => none

/-- No key is one of the database's. -/
def Clean (doc : Dict Json) : Prop := ∀ key ∈ doc, isInternal key = false

theorem clean_of_list {entries : List (String × Json)}
    (clean : ∀ entry ∈ entries, isInternal entry.1 = false) : Clean (Dict.ofList entries) := by
  intro key member
  have onto (entries : List (String × Json)) (dict : Dict Json)
      (member : key ∈ entries.foldl (fun dict entry => AList.insert entry.1 entry.2 dict) dict) :
      key ∈ dict ∨ ∃ entry ∈ entries, entry.1 = key := by
    induction entries generalizing dict with
    | nil => exact .inl member
    | cons entry rest ih =>
        rcases ih _ member with earlier | ⟨later, there, same⟩
        · rcases (AList.mem_insert _).mp earlier with rfl | before
          · exact .inr ⟨entry, List.mem_cons_self, rfl⟩
          · exact .inl before
        · exact .inr ⟨later, List.mem_cons_of_mem _ there, same⟩
  rcases onto entries ∅ member with empty | ⟨entry, there, same⟩
  · exact absurd empty (AList.notMem_empty key)
  · rw [← same]
    exact clean entry there

theorem clean_siam (row : SiamRow) : Clean (siamContent row) :=
  clean_of_list (by simp [isInternal])

theorem clean_local_admin (row : LocalAdminRow) : Clean (localAdminContent row) :=
  clean_of_list (by simp [isInternal])

/-- An instance is sent with the keys of the database that it was read with. -/
theorem clean_instance_iff (row : InstanceRow) :
    Clean (instanceContent row) ↔ Clean row.internals := by
  constructor
  · exact fun clean key member => clean key (AList.mem_union.mpr (.inl member))
  · intro clean key member
    rcases AList.mem_union.mp member with internal | own
    · exact clean key internal
    · exact clean_of_list (by simp [isInternal]) key own

theorem clean_strip (raw : Dict Json) : Clean (stripInternals raw) := by
  intro key member
  obtain ⟨entry, there, same⟩ := List.mem_map.mp member
  have kept := (List.mem_filter.mp there).2
  rw [← same]
  simpa using kept

theorem clean_insert {doc : Dict Json} {key : String} (value : Json) (own : isInternal key = false)
    (clean : Clean doc) : Clean (doc.insert key value) := by
  intro other member
  rcases (AList.mem_insert _).mp member with rfl | before
  · exact own
  · exact clean other before

/-! What is sent in a run. -/

def Sent (entries : List ((op : Op) × Except PyError op.Res)) (doc : Dict Json) : Prop :=
  ∃ entry ∈ entries, content entry.1 = some doc

/-- Operations whose documents, if they have one, meet a condition. -/
def Sending (condition : Dict Json → Prop) (op : Op) : Prop :=
  ∀ doc, content op = some doc → condition doc

variable {condition : Dict Json → Prop}

theorem sending_none {op : Op} (silent : content op = none) : Sending condition op := by
  intro doc sent
  rw [silent] at sent
  cases sent

theorem sending_of_logging (op : Op) (logging : Logging op) : Sending condition op := by
  apply sending_none
  cases op with
  | store statement => cases statement <;> first | rfl | cases logging
  | _ => rfl

theorem sending_of_cascading (op : Op) (cascading : Cascading op) : Sending condition op := by
  apply sending_none
  cases op with
  | store statement => cases statement <;> first | rfl | cases cascading
  | _ => rfl

theorem sending_of_quick (op : Op) (quick : Quick op) : Sending condition op :=
  sending_of_logging op (logging_of_quick op quick)

theorem replace_sends_clean (actor : AuditService.CurrentUser) (mapping : Json)
    (requestId : Option String) :
    (SiamService.replace settings (ConnectionsService.revokeForUsersNoLongerAuthorized settings · · ·)
      actor mapping requestId).Only (Sending Clean) := by
  have get : SiamService.get.Only (Sending Clean) :=
    only_bind (only_perform (sending_none rfl)) fun _ => trivial
  apply only_bind get
  intro before
  apply only_bind (only_perform (sending_none rfl))
  intro updatedAt
  apply only_bind (only_perform (sending_none rfl))
  intro existing
  apply only_bind
  · unfold SiamService.save
    split
    · apply only_perform
      intro doc sent
      cases sent
      exact clean_siam _
    · exact only_perform (sending_none rfl)
  · intro _
    apply only_bind get
    intro after
    apply only_bind (only_of_straight (logging_record ..) sending_of_logging)
    intro _
    apply only_bind (only_when (only_mono (cascading_revoke_unauthorized ..) sending_of_cascading))
    exact fun _ => trivial

/-- A side that is laid over a clean document adds keys of its own only. -/
theorem clean_given (side : Side) (payload : Option (Dict Json)) {draft : Draft}
    (clean : Clean draft.merged) :
    (applyGiven settings side payload draft).Yields (Sending Clean) fun after =>
      Clean after.merged := by
  apply yields_mono (Prog.yields_weaken (yields_given settings side payload draft) sending_of_quick)
  rintro after ⟨_, frame⟩ key member
  by_cases laid : ∃ name, key = side.key name
  · obtain ⟨name, rfl⟩ := laid
    exact key_not_internal side name
  · apply clean key
    have same := frame key (.inr fun name equal => laid ⟨name, equal⟩)
    rw [← AList.lookup_isSome, ← same, AList.lookup_isSome]
    exact member

theorem llm_sends_clean (actor : AuditService.CurrentUser) (inference embedding : Option (Dict Json))
    (requestId : Option String) :
    (LlmService.update settings actor inference embedding requestId).Only (Sending Clean) := by
  have rawGet : LlmService.rawGet.Only (Sending Clean) := by
    apply only_bind (only_perform (sending_none rfl))
    intro rows
    split <;> trivial
  apply only_bind (only_require _ _)
  intro _
  apply only_bind rawGet
  intro before
  have clean : Clean ((stripInternals before).insert "id" (.str llmConfigId)) :=
    clean_insert _ (by decide) (clean_strip before)
  apply Prog.only_yields_then (clean_given .inference inference clean)
  intro first clean
  apply Prog.only_yields_then (clean_given .embedding embedding clean)
  intro second clean
  apply only_bind (only_perform (sending_none rfl))
  intro instant
  apply only_bind
  · apply only_perform
    intro doc sent
    cases sent
    exact clean_insert _ (by decide) (clean_insert _ (by decide) clean)
  · intro _
    apply only_bind (only_of_straight (logging_record ..) sending_of_logging)
    intro _
    exact only_bind rawGet fun _ => trivial

variable (settings) in
/-- What `update` does once it has read the row. -/
theorem update_sends (actor : AuditService.CurrentUser) (instanceId : String) (changes : Changes)
    (requestId : Option String) :
    ∃ rest : InstanceRow → Hub IntegrationsService.InstanceView,
      IntegrationsService.update settings (ConnectionsService.revokeAllForInstance settings · · ·) actor
          instanceId changes requestId = (IntegrationsService.rawGet instanceId).bind rest ∧
        ∀ before, (rest before).Only
          (Sending fun doc => Clean doc ↔ Clean before.internals) := by
  refine ⟨_, rfl, fun before => ?_⟩
  apply only_bind (only_lift _)
  intro spec
  apply only_bind (only_require _ _)
  intro _
  apply only_bind (only_of_straight (quick_split_changes settings spec changes) sending_of_quick)
  intro split
  apply only_bind (only_perform (sending_none rfl))
  intro instant
  apply only_bind
  · apply only_perform
    intro doc sent
    cases sent
    exact clean_instance_iff _
  · intro _
    apply only_bind (only_of_straight (logging_record ..) sending_of_logging)
    intro _
    apply only_bind (only_when (only_mono (cascading_revoke_all ..) sending_of_cascading))
    exact fun _ => trivial

/-- The documents a run sends, by the row it has read. -/
theorem sent_of_read {outside : Outside N} {world : World N} {instanceId : String} {α : Type}
    {rest : InstanceRow → Hub α} {doc : Dict Json}
    (sends : ∀ before, (rest before).Only (Sending fun doc => Clean doc ↔ Clean before.internals))
    (sent : Sent (((IntegrationsService.rawGet instanceId).bind rest).trace (exec outside) world) doc) :
    ∃ row, (world.store.instances.find? fun row => row.id = instanceId) = some row ∧
      (Clean doc ↔ Clean row.internals) := by
  obtain ⟨entry, member, given⟩ := sent
  rw [IntegrationsService.rawGet, Prog.bind_eq, Prog.bind_assoc] at member
  rcases List.mem_cons.mp member with rfl | later
  · cases given
  · change entry ∈ Prog.trace (exec outside) (Prog.bind _ _) _ at later
    rcases exec_read outside (.selectInstance instanceId) world rfl with ⟨error, answer, _⟩ | ⟨answer, _⟩
    · rw [answer] at later
      cases later
    · rw [answer] at later
      simp only [StoreOp.apply, Prog.bind_ret] at later
      cases first : (world.store.instances.filter fun row => row.id = instanceId).head? with
      | none =>
          rw [first] at later
          cases later
      | some row =>
          rw [first] at later
          rw [List.head?_filter] at first
          exact ⟨row, first, Prog.only_trace (sends row) later doc given⟩

/-- The password of the break-glass account. -/
theorem bootstrap_sends_clean (username password : String) :
    (LocalAdminService.bootstrapSetPassword username password).Only
      fun op => ∀ doc, authContent op = some doc → Clean doc := by
  have silent {op : AuthOp} (none : authContent op = none) :
      ∀ doc, authContent op = some doc → Clean doc := by
    intro doc sent
    rw [none] at sent
    cases sent
  apply only_bind (only_perform (silent rfl))
  intro passwordHash
  apply only_bind (only_perform (silent rfl))
  intro now
  apply only_bind
  · exact only_bind (only_perform (silent rfl)) fun _ => trivial
  · intro existing
    apply only_bind
    · unfold LocalAdminService.saveRow
      split
      · apply only_perform
        intro doc sent
        cases sent
        exact clean_local_admin _
      · exact only_perform (silent rfl)
    · intro _
      apply only_bind (only_perform (silent rfl))
      intro id
      exact only_perform (silent rfl)

def updateTrace (settings : Settings) (outside : Outside N) (world : World N)
    (actor : AuditService.CurrentUser) (instanceId : String) (changes : Changes)
    (requestId : Option String) : List ((op : Op) × Except PyError op.Res) :=
  (IntegrationsService.update settings (ConnectionsService.revokeAllForInstance settings · · ·) actor
    instanceId changes requestId).trace (exec outside) world

/-- A rewritten instance is sent clean exactly if it was read clean; the other documents
are always sent clean. -/
theorem contents_clean_iff (settings : Settings) (outside : Outside N) (world : World N)
    (authOutside : AuthOutside N) (authWorld : AuthWorld N) :
    (∀ actor instanceId changes requestId doc,
      Sent (updateTrace settings outside world actor instanceId changes requestId) doc →
        (Clean doc ↔ ∀ row, (world.store.instances.find? fun row => row.id = instanceId) = some row →
          Clean row.internals)) ∧
    (∀ actor inference embedding requestId doc,
      Sent ((LlmService.update settings actor inference embedding requestId).trace (exec outside) world)
        doc → Clean doc) ∧
    (∀ actor mapping requestId doc,
      Sent ((SiamService.replace settings
        (ConnectionsService.revokeForUsersNoLongerAuthorized settings · · ·) actor mapping
          requestId).trace (exec outside) world) doc → Clean doc) ∧
    (∀ username password, ∀ entry ∈ (LocalAdminService.bootstrapSetPassword username password).trace
      (authExec authOutside) authWorld, ∀ doc, authContent entry.1 = some doc → Clean doc) := by
  refine ⟨?_, ?_, ?_, ?_⟩
  · intro actor instanceId changes requestId doc sent
    obtain ⟨rest, same, sends⟩ := update_sends settings actor instanceId changes requestId
    rw [updateTrace, same] at sent
    obtain ⟨row, found, clean⟩ := sent_of_read sends sent
    rw [clean]
    constructor
    · intro internals other same
      rw [found] at same
      obtain rfl := Option.some.inj same
      exact internals
    · exact fun all => all row found
  · rintro actor inference embedding requestId doc ⟨entry, member, given⟩
    exact Prog.only_trace (llm_sends_clean actor inference embedding requestId) member doc given
  · rintro actor mapping requestId doc ⟨entry, member, given⟩
    exact Prog.only_trace (replace_sends_clean actor mapping requestId) member doc given
  · intro username password entry member
    exact Prog.only_trace (bootstrap_sends_clean username password) member

/-! A row as the database returns it. -/

def storedRow (internals : Dict Json) : InstanceRow :=
  { id := "mail", type := "outlook-edge-com", displayName := "Mail", configPublic := ∅
    configSecretsEncrypted := ∅, enabled := true, multiConnectionAllowed := false
    createdBy := "ann", createdAt := 0, updatedBy := "ann", updatedAt := 0, internals }

def storedWorld (internals : Dict Json) : World Unit :=
  ⟨{ Store.empty with instances := [storedRow internals] }, ()⟩

def renameTrace (internals : Dict Json) : List ((op : Op) × Except PyError op.Res) :=
  updateTrace sampleSettings (Outside.still unreachable) (storedWorld internals) AuditService.sampleUser
    "mail" { displayName := some "Post" } none

/-- The record id goes back to the database with the rest. -/
theorem record_id_sent : ∃ doc, Sent (renameTrace (Dict.ofList [("@rid", .str "#12:0")])) doc ∧
    ¬ Clean doc := by
  refine ⟨_, ⟨_, @List.mem_of_getElem? _ _ 2 _ rfl, rfl⟩, fun clean => ?_⟩
  have internal := clean "@rid" (by decide)
  cases internal

theorem bare_row_sent_clean : ∃ doc, Sent (renameTrace ∅) doc ∧ Clean doc := by
  have sent : ∃ doc, Sent (renameTrace ∅) doc := ⟨_, _, @List.mem_of_getElem? _ _ 2 _ rfl, rfl⟩
  obtain ⟨doc, sent⟩ := sent
  refine ⟨doc, sent, ?_⟩
  have all := contents_clean_iff sampleSettings (Outside.still unreachable) (storedWorld ∅)
    Verification.stillAuth Verification.warmWorld
  apply (all.1 _ _ _ _ doc sent).mpr
  intro row found key member
  cases found
  exact absurd member (AList.notMem_empty key)

end Lehen.Contents
