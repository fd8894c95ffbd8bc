import Lehen.Blindness
import Lehen.Keeping
import Lehen.MeService

/-!
The answers of the user surface, as the documents that leave the Hub, and what
they tell of the stored credentials.
-/

namespace Lehen.Responding

open Storage OAuth AuditService SiamService ConnectionsService MeService Footprint Blindness
open Prog (only_bind only_mono only_of_straight only_perform only_require)

/-! Documents. -/

mutual

/-- Some object inside has an entry of that name. -/
def holdsEntry (key : String) : Json → Bool
  | .arr items => itemsHold key items
  | .obj fields => fieldsHold key fields
  | _ => false

def itemsHold (key : String) : List Json → Bool
  | [] => false
  | item :: rest => holdsEntry key item || itemsHold key rest

def fieldsHold (key : String) : List (String × Json) → Bool
  | [] => false
  | (name, value) :: rest => name == key || holdsEntry key value || fieldsHold key rest

end

def statusText : ConnectionStatus → String
  | .stubConnected => "stub-connected"
  | .connected => "connected"
  | .stale => "stale"
  | .disconnected => "disconnected"

/-- The row as the Hub writes it. The last two keys come with a cascade. -/
def asDocument (row : ConnectionRow) : List (String × Json) :=
  [("id", .str row.id), ("user_sub", .str row.userSub), ("username", .str row.username),
    ("integration_instance_id", .str row.integrationInstanceId),
    ("connection_seq", .int row.connectionSeq), ("external_subject", .str row.externalSubject),
    ("display_label", .str row.displayLabel), ("privacy_class", .str row.privacyClass),
    ("encrypted_credentials", .ofOption row.encryptedCredentials),
    ("status", .str (statusText row.status)), ("connected_at", .str (isoformat row.connectedAt)),
    ("disconnected_at", .ofOption (row.disconnectedAt.map isoformat)),
    ("last_health_status", .ofOption row.lastHealthStatus),
    ("last_health_check_at", .ofOption (row.lastHealthCheckAt.map isoformat))] ++
    (row.revokedBy.map fun reason => ("revoked_by", Json.str reason)).toList ++
    (row.revokedAt.map fun ts => ("revoked_at", Json.str (isoformat ts))).toList

/-- What the database adds to a row it returns. -/
structure Internals where
  fields : ConnectionRow → List (String × Json)
  internal : ∀ row, ∀ field ∈ fields row, isInternal field.1 = true

def stripInternals (doc : List (String × Json)) : List (String × Json) :=
  doc.filter fun field => !isInternal field.1

/-- `doc.pop(key, None)`. -/
def pop (key : String) (doc : List (String × Json)) : List (String × Json) :=
  doc.filter fun field => field.1 ≠ key

def IntegrationEntry.document (entry : IntegrationEntry) : Json :=
  .obj
    [("instance_id", .str entry.instanceId), ("type", .str entry.type),
      ("display_name", .str entry.displayName), ("status", .str entry.status),
      ("connection_id", .ofOption entry.connectionId)]

def MePayload.document (payload : MePayload) : Json :=
  .obj
    [("identity", .obj [("sub", .str payload.user.sub), ("username", .str payload.user.username)]),
      ("roles", .arr (payload.roles.map Json.str)),
      ("integrations", .arr (payload.integrations.map IntegrationEntry.document))]

/-! The four builders. -/

inductive SurfaceRequest where
  | listForUser (user : CurrentUser)
  | grant (user : CurrentUser) (instanceId privacyClass externalSubject displayLabel : String)
      (requestId : Option String)
  | completeGrant (user : CurrentUser) (instanceId code state : String) (requestId : Option String)
  | me (user : CurrentUser) (requestId : Option String)

/-- GET /me/connections: the rows of the user, sorted by instance. -/
def listMyConnections (internals : Internals) (rows : List ConnectionRow) : Json :=
  .arr ((rows.insertionSort fun left right =>
    left.integrationInstanceId ≤ right.integrationInstanceId).map fun row =>
      .obj (stripInternals (internals.fields row ++ asDocument row)))

def respond (settings : Settings) (loginRetentionDays : Nat) (internals : Internals) :
    SurfaceRequest → Hub Json
  | .listForUser user => do
      let rows ← listForUser user.sub
      return listMyConnections internals rows
  | .grant user instanceId privacyClass externalSubject displayLabel requestId => do
      let row ← grant settings user instanceId privacyClass externalSubject displayLabel requestId
      return .obj (stripInternals (asDocument row))
  | .completeGrant user instanceId code state requestId => do
      let row ← completeGrant settings user instanceId code state requestId
      return .obj (pop "encrypted_credentials" (stripInternals (asDocument row)))
  | .me user requestId => do
      let payload ← me loginRetentionDays user requestId
      return MePayload.document payload

theorem strip_own (row : ConnectionRow) : stripInternals (asDocument row) = asDocument row := by
  unfold stripInternals asDocument
  cases row.revokedBy <;> cases row.revokedAt <;> simp [isInternal]

theorem strip_stored (internals : Internals) (row : ConnectionRow) :
    stripInternals (internals.fields row ++ asDocument row) = asDocument row := by
  have added : stripInternals (internals.fields row) = [] := by
    apply List.filter_eq_nil_iff.mpr
    intro field member
    simp [internals.internal row field member]
  have parts : stripInternals (internals.fields row ++ asDocument row) =
      stripInternals (internals.fields row) ++ stripInternals (asDocument row) :=
    List.filter_append ..
  rw [parts, added, strip_own]
  rfl

/-! Which of the documents have an entry of the name. -/

theorem fields_hold_member {key : String} {fields : List (String × Json)} {value : Json}
    (member : (key, value) ∈ fields) : fieldsHold key fields = true := by
  induction fields with
  | nil => cases member
  | cons field rest ih =>
      rcases List.mem_cons.mp member with rfl | later
      · simp [fieldsHold]
      · simp [fieldsHold, ih later]

theorem fields_hold_none {key : String} {fields : List (String × Json)}
    (none : ∀ field ∈ fields, field.1 ≠ key ∧ holdsEntry key field.2 = false) :
    fieldsHold key fields = false := by
  induction fields with
  | nil => rfl
  | cons field rest ih =>
      have head := none field List.mem_cons_self
      have tail := ih fun other later => none other (List.mem_cons_of_mem _ later)
      simp [fieldsHold, head.1, head.2, tail]

theorem items_hold_member {key : String} {items : List Json} {fields : List (String × Json)}
    (member : Json.obj fields ∈ items) (holds : fieldsHold key fields = true) :
    itemsHold key items = true := by
  induction items with
  | nil => cases member
  | cons item rest ih =>
      rcases List.mem_cons.mp member with rfl | later
      · simp [itemsHold, holdsEntry, holds]
      · simp [itemsHold, ih later]

theorem items_hold_none {key : String} {items : List Json}
    (none : ∀ item ∈ items, holdsEntry key item = false) : itemsHold key items = false := by
  induction items with
  | nil => rfl
  | cons item rest ih =>
      have head := none item List.mem_cons_self
      have tail := ih fun other later => none other (List.mem_cons_of_mem _ later)
      simp [itemsHold, head, tail]

theorem option_holds_none (key : String) (value : Option String) :
    holdsEntry key (.ofOption value) = false := by
  cases value <;> rfl

theorem document_values (key : String) (row : ConnectionRow) :
    ∀ field ∈ asDocument row, holdsEntry key field.2 = false := by
  have scalars (reason : Option String) (ts : Option Time) :
      ∀ field ∈ (reason.map fun reason => ("revoked_by", Json.str reason)).toList ++
        (ts.map fun ts => ("revoked_at", Json.str (isoformat ts))).toList,
      holdsEntry key field.2 = false := by
    cases reason <;> cases ts <;> simp [holdsEntry]
  intro field member
  rw [asDocument, List.append_assoc, List.mem_append] at member
  rcases member with own | revoked
  · simp only [List.mem_cons, List.not_mem_nil, or_false] at own
    rcases own with rfl | rfl | rfl | rfl | rfl | rfl | rfl | rfl | rfl | rfl | rfl | rfl | rfl | rfl <;>
      first | rfl | exact option_holds_none key _
  · exact scalars _ _ field revoked

theorem document_holds (row : ConnectionRow) :
    fieldsHold "encrypted_credentials" (asDocument row) = true := by
  have member : ("encrypted_credentials", Json.ofOption row.encryptedCredentials) ∈
      asDocument row := by
    simp [asDocument]
  exact fields_hold_member member

theorem popped_holds_none (row : ConnectionRow) :
    fieldsHold "encrypted_credentials" (pop "encrypted_credentials" (asDocument row)) = false := by
  apply fields_hold_none
  intro field member
  obtain ⟨present, other⟩ := List.mem_filter.mp member
  exact ⟨of_decide_eq_true other, document_values _ row field present⟩

theorem payload_holds_none (payload : MePayload) :
    holdsEntry "encrypted_credentials" (MePayload.document payload) = false := by
  have roles : itemsHold "encrypted_credentials" (payload.roles.map Json.str) = false := by
    apply items_hold_none
    intro item member
    obtain ⟨role, _, rfl⟩ := List.mem_map.mp member
    rfl
  have integrations : itemsHold "encrypted_credentials"
      (payload.integrations.map IntegrationEntry.document) = false := by
    apply items_hold_none
    intro item member
    obtain ⟨entry, _, rfl⟩ := List.mem_map.mp member
    simp [IntegrationEntry.document, holdsEntry, fieldsHold, option_holds_none]
  simp [MePayload.document, holdsEntry, fieldsHold, roles, integrations]

/-! Stores that differ in the envelopes of their connection rows only. -/

def conceal (row : ConnectionRow) : ConnectionRow :=
  { row with encryptedCredentials := row.encryptedCredentials.map fun _ => "" }

def concealed (store : Store) : Store :=
  { store with connections := store.connections.map conceal }

def SameButEnvelopes (first second : Store) : Prop := concealed first = concealed second

def AlikeWorlds {N : Type} (first second : World N) : Prop :=
  first.outside = second.outside ∧ SameButEnvelopes first.store second.store

def Similar : (op : Op) → op.Res → op.Res → Prop
  | .store (.selectConnections _) => fun rows others => rows.map conceal = others.map conceal
  | _ => fun value other => value = other

/-- Not a read of connection rows. -/
def Clear : Op → Prop
  | .store (.selectConnections _) => False
  | _ => True

theorem clear_similar (op : Op) (clear : Clear op) (value other : op.Res)
    (similar : Similar op value other) : value = other := by
  cases op with
  | store statement =>
      cases statement <;> first | exact (clear : False).elim | exact similar
  | _ => exact similar

theorem where_concealed (rows : ConnectionWhere) (row : ConnectionRow) :
    rows.holds (conceal row) = rows.holds row := by
  cases rows <;> rfl

theorem set_concealed (set : ConnectionSet) (row : ConnectionRow) :
    conceal (set.apply (conceal row)) = conceal (set.apply row) := by
  cases set <;> simp [ConnectionSet.apply, conceal, Function.comp_def]

theorem filter_concealed (rows : ConnectionWhere) (found : List ConnectionRow) :
    (found.filter rows.holds).map conceal = (found.map conceal).filter rows.holds := by
  rw [List.filter_map]
  congr 1
  apply List.filter_congr
  intro row _
  exact (where_concealed rows row).symm

theorem seq_concealed (rows : List ConnectionRow) (userSub instanceId : String) :
    (rows.filter fun row =>
      row.userSub = userSub && row.integrationInstanceId = instanceId).map
        ConnectionRow.connectionSeq =
      ((rows.map conceal).filter fun row =>
        row.userSub = userSub && row.integrationInstanceId = instanceId).map
          ConnectionRow.connectionSeq := by
  simp only [List.filter_map, Function.comp_def, conceal, List.map_map]
  rfl

theorem update_concealed (rows : List ConnectionRow) (id : String) (set : ConnectionSet) :
    (setWhereId id set rows).map conceal =
      (rows.map conceal).map fun row => if row.id = id then conceal (set.apply row) else row := by
  induction rows with
  | nil => rfl
  | cons row rest ih =>
      have same : (conceal row).id = row.id := rfl
      simp only [setWhereId, List.map_cons] at ih ⊢
      rw [ih, same, set_concealed]
      split <;> rfl

/-- Each statement answers alike and leaves alike what were alike. -/
theorem apply_alike (statement : StoreOp) {first second : Store}
    (same : SameButEnvelopes first second) :
    Similar (.store statement) (statement.apply first).1 (statement.apply second).1 ∧
      SameButEnvelopes (statement.apply first).2 (statement.apply second).2 := by
  have rows : first.connections.map conceal = second.connections.map conceal :=
    congrArg Store.connections same
  obtain ⟨connections, instances, siam, consents, audits, logins, llm⟩ := first
  obtain ⟨others, instances', siam', consents', audits', logins', llm'⟩ := second
  simp only [SameButEnvelopes, concealed, Store.mk.injEq] at same
  obtain ⟨_, rfl, rfl, rfl, rfl, rfl, rfl⟩ := same
  cases statement with
  | selectConnections which =>
      refine ⟨?_, by simp [SameButEnvelopes, concealed, StoreOp.apply, rows]⟩
      show (connections.filter which.holds).map conceal = (others.filter which.holds).map conceal
      rw [filter_concealed, filter_concealed, rows]
  | selectMaxSeq userSub instanceId =>
      refine ⟨?_, by simp [SameButEnvelopes, concealed, StoreOp.apply, rows]⟩
      simp only [Similar, StoreOp.apply, Store.maxSeq]
      rw [seq_concealed connections, seq_concealed others, rows]
  | insertConnection row =>
      exact ⟨rfl, by simp [SameButEnvelopes, concealed, StoreOp.apply, rows]⟩
  | updateConnections id set =>
      refine ⟨rfl, ?_⟩
      simp only [SameButEnvelopes, concealed, StoreOp.apply, update_concealed, rows]
  | _ => exact ⟨rfl, by simp [SameButEnvelopes, concealed, StoreOp.apply, rows]⟩

theorem exec_alike {N : Type} (outside : Outside N) (op : Op) (first second : World N)
    (same : AlikeWorlds first second) :
    Alike (Similar op) (exec outside op first).1 (exec outside op second).1 ∧
      AlikeWorlds (exec outside op first).2 (exec outside op second).2 := by
  obtain ⟨store, state⟩ := first
  obtain ⟨other, state'⟩ := second
  obtain ⟨rfl, rows⟩ := same
  cases op with
  | store statement =>
      obtain ⟨answers, stores⟩ := apply_alike statement rows
      rcases answered : outside.storeFails statement state with ⟨_ | text, next⟩
      · simp only [exec, answered]
        exact ⟨answers, rfl, stores⟩
      · simp only [exec, answered]
        refine ⟨rfl, rfl, ?_⟩
        split
        · exact stores
        · exact rows
  | http request =>
      rcases answered : outside.http request state with ⟨_ | response, next⟩
      · simp only [exec, answered]
        exact ⟨rfl, rfl, rows⟩
      · simp only [exec, answered]
        exact ⟨rfl, rfl, rows⟩
  | _ => exact ⟨rfl, rfl, rows⟩

/-! Programs that do not look at envelopes. -/

theorem clear_of_quick (op : Op) (quick : Quick op) : Clear op := by
  cases op with
  | store statement => cases quick
  | _ => trivial

theorem clear_of_gating (op : Op) (gating : Gating op) : Clear op := by
  cases op with
  | store statement => cases statement <;> trivial
  | _ => trivial

theorem clear_of_logging (op : Op) (logging : Logging op) : Clear op := by
  cases op with
  | store statement => cases statement <;> trivial
  | _ => trivial

theorem blind_clear {α : Type} {body : Hub α} (only : body.Only Clear) : Blind Similar body :=
  blind_only only clear_similar

theorem blind_quick {α : Type} {body : Hub α} {raises : Prop} (quick : body.Straight Quick raises) :
    Blind Similar body :=
  blind_clear (only_of_straight quick clear_of_quick)

theorem blind_consent (settings : Settings) (user : CurrentUser) (action instanceId : String)
    (seq : Nat) (privacyClass externalSubject : String) (requestId : Option String) (ts : Time) :
    Blind Similar (recordConsent settings user action instanceId seq privacyClass externalSubject
      requestId ts) :=
  blind_clear (only_of_straight (logging_record_consent ..) clear_of_logging)

theorem blind_unconnected (userSub instanceId externalSubject text : String) :
    Blind Similar (requireUnconnected userSub instanceId externalSubject text) := by
  apply blind_perform_then
  · intro rows others similar
    have empty : rows = [] ↔ others = [] := by
      rw [← List.map_eq_nil_iff, show rows.map conceal = others.map conceal from similar,
        List.map_eq_nil_iff]
    simp only [empty]
  · intro rows
    exact blind_clear (only_require _ _)

theorem blind_now : Blind Similar now := blind_clear (only_perform trivial)

theorem blind_seq (userSub instanceId : String) : Blind Similar (nextSeq userSub instanceId) :=
  blind_clear (only_bind (only_perform trivial) fun _ => trivial)

theorem blind_insert (row : ConnectionRow) : Blind Similar (command (.insertConnection row)) :=
  blind_clear (only_perform trivial)

theorem blind_get : Blind Similar SiamService.get :=
  blind_clear (only_bind (only_perform trivial) fun _ => trivial)

theorem blind_list : Blind Similar IntegrationsService.list :=
  blind_clear (only_bind (only_perform trivial) fun _ => trivial)

theorem blind_grant (settings : Settings) (user : CurrentUser)
    (instanceId privacyClass externalSubject displayLabel : String) (requestId : Option String) :
    Blind Similar (grant settings user instanceId privacyClass externalSubject displayLabel
      requestId) := by
  apply blind_bind (blind_clear (only_mono (gating_gates user instanceId) clear_of_gating))
  intro place
  apply blind_bind (blind_unconnected ..)
  intro _
  apply blind_bind (blind_seq ..)
  intro seq
  apply blind_bind blind_now
  intro instant
  apply blind_bind (blind_insert _)
  intro _
  exact blind_bind (blind_consent ..) fun _ => trivial

theorem blind_complete (settings : Settings) (user : CurrentUser)
    (instanceId code state : String) (requestId : Option String) :
    Blind Similar (completeGrant settings user instanceId code state requestId) := by
  apply blind_bind (blind_clear
    (only_mono (gating_authorize settings user instanceId code state) clear_of_gating))
  intro granted
  apply blind_bind (blind_unconnected ..)
  intro _
  apply blind_bind (blind_seq ..)
  intro seq
  apply blind_bind blind_now
  intro instant
  apply blind_bind (blind_quick (quick_encrypt ..))
  intro encrypted
  apply blind_bind (blind_insert _)
  intro _
  exact blind_bind (blind_consent ..) fun _ => trivial

/-- What the payload takes from a connection is not its credentials. -/
theorem entry_concealed (instances : List IntegrationsService.InstanceView)
    (connections : List ConnectionRow) (instanceId : String) :
    integrationEntry instances connections instanceId =
      integrationEntry instances (connections.map conceal) instanceId := by
  have found : lastWith ConnectionRow.integrationInstanceId instanceId (connections.map conceal) =
      (lastWith ConnectionRow.integrationInstanceId instanceId connections).map conceal := by
    simp only [lastWith, ← List.map_reverse, List.find?_map, Function.comp_def, conceal]
    rfl
  unfold integrationEntry
  rw [found]
  cases lastWith ConnectionRow.integrationInstanceId instanceId connections <;> rfl

theorem blind_me (loginRetentionDays : Nat) (user : CurrentUser) (requestId : Option String) :
    Blind Similar (me loginRetentionDays user requestId) := by
  apply blind_bind blind_get
  intro mapping
  apply blind_bind blind_list
  intro instances
  apply blind_perform_then
  · intro rows others similar
    have same : integrationsPayload mapping (matchingRoles mapping user) instances rows =
        integrationsPayload mapping (matchingRoles mapping user) instances others := by
      unfold integrationsPayload
      congr 1
      funext instanceId
      rw [entry_concealed, show rows.map conceal = others.map conceal from similar,
        ← entry_concealed]
    simp only [same]
  · intro rows
    have quick : (requestIdOr requestId).Only Clear :=
      only_of_straight (quick_request_id requestId) clear_of_quick
    apply blind_bind
    · apply blind_clear
      apply only_bind (only_perform trivial)
      intro ts
      apply only_bind (only_perform trivial)
      intro id
      exact only_bind quick fun _ => only_perform trivial
    · exact fun _ => trivial

end Lehen.Responding
