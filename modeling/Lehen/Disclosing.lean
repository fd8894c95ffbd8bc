import Lehen.Offering
import Lehen.Responding

/-!
When an answer of the user surface discloses stored credentials.
-/

namespace Lehen.Disclosing

open Storage OAuth AuditService SiamService ConnectionsService Footprint Responding Keeping
open Prog (Leaves leaves_bind leaves_mono straight_bind straight_perform straight_mono
  straight_succeeds)

variable {N : Type}

/-- The instance is there, enabled and mapped to a role of the user. -/
def Passes (store : Store) (user : CurrentUser) (instanceId : String) : Prop :=
  ∃ place, (store.instances.filter fun row => row.id = instanceId).head? = some place ∧
    place.enabled = true ∧
    (user.realmRoles.any fun role => decide (instanceId ∈
      (mappingOf (store.siam.filter fun row => row.id = siamId)).allowed role)) = true

/-- The gates are open and the user has no connection for the mailbox. -/
def Grants (store : Store) (user : CurrentUser) (instanceId externalSubject : String) : Prop :=
  Passes store user instanceId ∧
    store.connections.filter
      (ConnectionWhere.ofMailbox user.sub instanceId externalSubject).holds = []

section Returning

variable {outside : Outside N} {α : Type} {world : World N}

/-- An outcome is a return just when a condition holds, as far as the store is
reliable. -/
def ReturnsWhen (outside : Outside N) (condition : Prop) (outcome : Except PyError α) : Prop :=
  (∀ value, outcome = .ok value → condition) ∧
    (outside.Reliable → condition → ∃ value, outcome = .ok value)

theorem refused_when {condition : Prop} {error : PyError}
    (never : outside.Reliable → ¬ condition) :
    ReturnsWhen outside condition (.error error : Except PyError α) :=
  ⟨nofun, fun reliable holds => absurd holds (never reliable)⟩

theorem gates_return (user : CurrentUser) (instanceId : String) :
    Leaves (exec outside) (passGates user instanceId) world fun outcome after =>
      after.store = world.store ∧ ReturnsWhen outside (Passes world.store user instanceId) outcome := by
  unfold passGates fetchInstance isSiamAuthorized SiamService.get
  simp only [Prog.bind_eq, query, Prog.bind_assoc, Prog.pure_eq, Prog.bind_ret]
  apply leaves_faulty_read_then rfl
  · intro faulty error after same
    exact ⟨same, refused_when fun reliable => absurd reliable faulty⟩
  · intro after same
    simp only [StoreOp.apply]
    -- The gates are the instance, its flag and the mapping, in this order.
    cases found : (world.store.instances.filter fun row => row.id = instanceId).head? with
    | none =>
        refine ⟨same, refused_when fun _ => ?_⟩
        rintro ⟨place, present, _⟩
        rw [found] at present
        cases present
    | some place =>
        apply Prog.leaves_require_then
        · intro enabled
          apply leaves_faulty_read_then rfl
          · intro faulty error last kept
            exact ⟨kept.trans same, refused_when fun reliable => absurd reliable faulty⟩
          · intro last kept
            rw [same] at kept ⊢
            apply Prog.leaves_require_then
            · intro authorized
              exact ⟨kept, fun _ _ => ⟨place, found, enabled, authorized⟩, fun _ _ => ⟨place, rfl⟩⟩
            · intro refused
              refine ⟨kept, refused_when fun _ => ?_⟩
              rintro ⟨other, _, _, authorized⟩
              exact refused authorized
        · intro disabled
          refine ⟨same, refused_when fun _ => ?_⟩
          rintro ⟨other, present, enabled, _⟩
          rw [found] at present
          obtain rfl := Option.some.inj present
          exact disabled enabled

/-- Anything but a call to a provider. -/
def Local : Op → Prop
  | .http _ => False
  | _ => True

theorem local_of_logging (op : Op) (logging : Logging op) : Local op := by
  cases op with
  | http request => cases logging
  | _ => trivial

theorem local_succeeds (reliable : outside.Reliable) (op : Op) (world : World N) (near : Local op) :
    ∃ value, (exec outside op world).1 = .ok value := by
  cases op with
  | store statement => exact ⟨_, (exec_reliable reliable statement world).1⟩
  | http request => cases near
  | _ => exact ⟨_, rfl⟩

theorem straight_seq (userSub instanceId : String) :
    (nextSeq userSub instanceId).Straight Local False := by
  have read : (query (.selectMaxSeq userSub instanceId)).Straight Local False :=
    straight_perform trivial
  exact straight_bind read fun _ => trivial

/-- What `grant` does once it may: nothing of its own goes wrong. -/
theorem straight_write (settings : Settings) (user : CurrentUser) (row : ConnectionRow)
    (requestId : Option String) (instant : Time) :
    ((command (.insertConnection row)).bind fun _ =>
      (recordConsent settings user "granted" row.integrationInstanceId row.connectionSeq
        row.privacyClass row.externalSubject requestId instant).bind fun _ =>
          (.ret row : Hub ConnectionRow)).Straight Local False := by
  have insert : (command (.insertConnection row)).Straight Local False := straight_perform trivial
  apply straight_bind insert
  intro _
  apply straight_bind (straight_mono (logging_record_consent ..) local_of_logging fun raises => raises)
  exact fun _ => trivial

variable (outside world) in
theorem grant_returns (settings : Settings) (user : CurrentUser)
    (instanceId privacyClass externalSubject displayLabel : String) (requestId : Option String) :
    Leaves (exec outside) (grant settings user instanceId privacyClass externalSubject displayLabel
        requestId) world
      fun outcome _ => ReturnsWhen outside (Grants world.store user instanceId externalSubject)
        outcome := by
  unfold grant
  simp only [Prog.bind_eq]
  rw [leaves_bind]
  apply leaves_mono (gates_return user instanceId)
  rintro outcome after ⟨same, passed⟩
  cases outcome with
  | error error =>
      apply refused_when
      rintro reliable ⟨passes, _⟩
      obtain ⟨_, returned⟩ := passed.2 reliable passes
      cases returned
  | ok place =>
      have passes := passed.1 place rfl
      unfold requireUnconnected
      simp only [query, Prog.bind_eq, Prog.bind_assoc]
      apply leaves_faulty_read_then rfl
      · intro faulty error last kept
        exact refused_when fun reliable => absurd reliable faulty
      · intro last kept
        rw [same] at kept ⊢
        apply Prog.leaves_require_then
        · intro unconnected
          have grants : Grants world.store user instanceId externalSubject := ⟨passes, unconnected⟩
          refine ⟨fun _ _ => grants, fun reliable _ => ?_⟩
          have clock : now.Straight Local False := straight_perform trivial
          -- What is left raises nothing of its own.
          apply straight_succeeds _ (local_succeeds reliable)
          apply straight_bind (straight_seq _ _)
          intro seq
          apply straight_bind clock
          intro instant
          exact straight_write ..
        · intro connected
          exact refused_when fun _ grants => connected grants.2

end Returning

/-! Whether an answer discloses anything. -/

section Answering

variable (settings : Settings) (loginRetentionDays : Nat) (internals : Internals)

def answer (outside : Outside N) (request : SurfaceRequest) (world : World N) : Except PyError Json :=
  ((respond settings loginRetentionDays internals request).run (exec outside) world).1

/-- The answer has no credentials entry, and is the same whatever the stored
envelopes are. -/
structure Discreet (outside : Outside N) (request : SurfaceRequest) (world : World N) : Prop where
  entry : ∀ response, answer settings loginRetentionDays internals outside request world =
    .ok response → holdsEntry "encrypted_credentials" response = false
  same : ∀ store, SameButEnvelopes world.store store →
    answer settings loginRetentionDays internals outside request ⟨store, world.outside⟩ =
      answer settings loginRetentionDays internals outside request world

/-- The list has no row to show, or the grant is refused. -/
def Unexposed (store : Store) : SurfaceRequest → Prop
  | .listForUser user => store.connections.filter (ConnectionWhere.ofUser user.sub).holds = []
  | .grant user instanceId _ externalSubject _ _ => ¬ Grants store user instanceId externalSubject
  | .completeGrant .. | .me .. => True

theorem blind_respond (request : SurfaceRequest) (other : ∀ user, request ≠ .listForUser user) :
    Blindness.Blind Similar (respond settings loginRetentionDays internals request) := by
  cases request with
  | listForUser user => exact absurd rfl (other user)
  | grant user instanceId privacyClass externalSubject displayLabel requestId =>
      exact Blindness.blind_bind (blind_grant ..) fun _ => trivial
  | completeGrant user instanceId code state requestId =>
      exact Blindness.blind_bind (blind_complete ..) fun _ => trivial
  | me user requestId => exact Blindness.blind_bind (blind_me ..) fun _ => trivial

/-- Only the list depends on the envelopes. -/
theorem answer_same (outside : Outside N) (request : SurfaceRequest) (world : World N)
    (other : ∀ user, request ≠ .listForUser user) (store : Store)
    (same : SameButEnvelopes world.store store) :
    answer settings loginRetentionDays internals outside request ⟨store, world.outside⟩ =
      answer settings loginRetentionDays internals outside request world := by
  have alike : AlikeWorlds world ⟨store, world.outside⟩ := ⟨rfl, same⟩
  exact (Blindness.run_blind (exec_alike outside)
    (blind_respond settings loginRetentionDays internals request other) alike).1.symm

/-- The answer of a builder that lays out what a program returns. -/
theorem answer_built {α : Type} {body : Hub α} {build : α → Json} {outside : Outside N}
    {world : World N} {response : Json}
    (answered : ((body.bind fun value => (.ret (build value) : Hub Json)).run (exec outside)
      world).1 = .ok response) :
    ∃ value, (body.run (exec outside) world).1 = .ok value ∧ response = build value := by
  rw [Prog.run_bind] at answered
  rcases ran : body.run (exec outside) world with ⟨_ | value, after⟩
  · rw [ran] at answered
    cases answered
  · rw [ran] at answered
    exact ⟨value, rfl, (Except.ok.inj answered).symm⟩

theorem answer_list (outside : Outside N) (user : CurrentUser) (world : World N) :
    answer settings loginRetentionDays internals outside (.listForUser user) world =
      match (outside.storeFails (.selectConnections (.ofUser user.sub)) world.outside).1 with
      | some text => .error ⟨.arcadeError, text⟩
      | none => .ok (listMyConnections internals
          (world.store.connections.filter (ConnectionWhere.ofUser user.sub).holds)) := by
  unfold answer respond listForUser query
  simp only [Prog.bind_eq, Prog.run_bind, Prog.perform, Prog.run_await, exec]
  rcases outside.storeFails (.selectConnections (.ofUser user.sub)) world.outside with
    ⟨_ | text, next⟩
  · rfl
  · rfl

theorem list_holds {rows : List ConnectionRow} {row : ConnectionRow} (member : row ∈ rows) :
    holdsEntry "encrypted_credentials" (listMyConnections internals rows) = true := by
  have present : Json.obj (asDocument row) ∈ (rows.insertionSort fun left right =>
      left.integrationInstanceId ≤ right.integrationInstanceId).map fun row =>
        Json.obj (stripInternals (internals.fields row ++ asDocument row)) := by
    apply List.mem_map.mpr
    refine ⟨row, (List.mem_insertionSort _).mpr member, ?_⟩
    rw [strip_stored]
  exact items_hold_member present (document_holds row)

theorem discreet_unexposed (outside : Outside N) (request : SurfaceRequest) (world : World N)
    (unexposed : Unexposed world.store request) :
    Discreet settings loginRetentionDays internals outside request world := by
  cases request with
  | listForUser user =>
      -- The user has no rows, so no label is listed in either world.
      have empty : world.store.connections.filter (ConnectionWhere.ofUser user.sub).holds = [] :=
        unexposed
      constructor
      · intro response answered
        rw [answer_list, empty] at answered
        split at answered
        · cases answered
        · obtain rfl := Except.ok.inj answered
          rfl
      · intro store same
        have rows : world.store.connections.map conceal = store.connections.map conceal :=
          congrArg Store.connections same
        have also : store.connections.filter (ConnectionWhere.ofUser user.sub).holds = [] := by
          rw [← List.map_eq_nil_iff, filter_concealed, ← rows, ← filter_concealed, empty]
          rfl
        rw [answer_list, answer_list, empty, also]
  | grant user instanceId privacyClass externalSubject displayLabel requestId =>
      constructor
      · intro response answered
        obtain ⟨row, returned, _⟩ := answer_built answered
        have returns := grant_returns outside world settings user instanceId
          privacyClass externalSubject displayLabel requestId
        exact absurd (returns.1 row returned) unexposed
      · exact answer_same settings loginRetentionDays internals outside _ world nofun
  | completeGrant user instanceId code state requestId =>
      constructor
      · intro response answered
        obtain ⟨row, _, rfl⟩ := answer_built answered
        rw [strip_own]
        exact popped_holds_none row
      · exact answer_same settings loginRetentionDays internals outside _ world nofun
  | me user requestId =>
      constructor
      · intro response answered
        obtain ⟨payload, _, rfl⟩ := answer_built answered
        exact payload_holds_none payload
      · exact answer_same settings loginRetentionDays internals outside _ world nofun

theorem unexposed_discreet (outside : Outside N) (reliable : outside.Reliable)
    (request : SurfaceRequest) (world : World N)
    (discreet : Discreet settings loginRetentionDays internals outside request world) :
    Unexposed world.store request := by
  cases request with
  | listForUser user =>
      have answered := answer_list settings loginRetentionDays internals outside user world
      rw [reliable] at answered
      apply List.eq_nil_iff_forall_not_mem.mpr
      intro row member
      have none := discreet.entry _ answered
      rw [list_holds internals member] at none
      cases none
  | grant user instanceId privacyClass externalSubject displayLabel requestId =>
      intro grants
      have returns := grant_returns outside world settings user instanceId
        privacyClass externalSubject displayLabel requestId
      obtain ⟨row, returned⟩ := returns.2 reliable grants
      have answered : answer settings loginRetentionDays internals outside
          (.grant user instanceId privacyClass externalSubject displayLabel requestId) world =
            .ok (.obj (stripInternals (asDocument row))) := by
        dsimp only [answer, respond]
        rw [Prog.bind_eq, Prog.run_bind]
        rcases ran : (grant settings user instanceId privacyClass externalSubject displayLabel
          requestId).run (exec outside) world with ⟨outcome, after⟩
        rw [ran] at returned
        cases returned
        rfl
      have none := discreet.entry _ answered
      rw [strip_own, holdsEntry, document_holds] at none
      cases none
  | completeGrant user instanceId code state requestId => trivial
  | me user requestId => trivial

/-- With a store that executes its statements an answer of the user surface is
discreet just when the list has no row to show, or the grant is refused; with any
store it is then. The answers of `complete_grant` and of GET /me always are. -/
theorem discreet_iff (outside : Outside N) (request : SurfaceRequest) (world : World N) :
    (outside.Reliable → (Discreet settings loginRetentionDays internals outside request world ↔
      Unexposed world.store request)) ∧
    (Unexposed world.store request →
      Discreet settings loginRetentionDays internals outside request world) := by
  have enough := discreet_unexposed settings loginRetentionDays internals outside request world
  constructor
  · intro reliable
    constructor
    · exact unexposed_discreet settings loginRetentionDays internals outside reliable request world
    · exact enough
  · exact enough

end Answering

/-! A user who connects a mailbox and lists the connections. -/

def noInternals : Internals := ⟨fun _ => [], nofun⟩

def connectByOAuth : List Request :=
  [.initiateGrant sampleUser "mail" "http://127.0.0.1/callback",
    .completeGrant sampleUser "mail" "code" offeredState none]

/-- The one row of the user, with an envelope. -/
theorem connected_row : ∃ row envelope,
    (consented connectByOAuth).store.connections.filter (ConnectionWhere.ofUser "u1").holds = [row] ∧
      row.encryptedCredentials = some envelope := by
  have shape : ((consented connectByOAuth).store.connections.filter
      (ConnectionWhere.ofUser "u1").holds).map (fun row => row.encryptedCredentials.isSome) =
        [true] := by
    unfold consented connectByOAuth setUp
    rw [List.cons_append, List.cons_append, List.nil_append, serve_all_cons, serve_all_cons,
      serve_all_cons, serve_all_cons, serve_all_nil, serve_complete]
    unfold completeGrant authorize
    rw [decode_state_offered]
    decide +kernel
  obtain ⟨row, single, filled⟩ := List.map_eq_singleton_iff.mp shape
  obtain ⟨envelope, same⟩ := Option.isSome_iff_exists.mp filled
  exact ⟨row, envelope, single, same⟩

def withOtherEnvelopes (store : Store) : Store :=
  { store with
    connections := store.connections.map fun row =>
      { row with encryptedCredentials := row.encryptedCredentials.map (· ++ "A") } }

theorem same_but_envelopes (store : Store) : SameButEnvelopes store (withOtherEnvelopes store) := by
  simp [SameButEnvelopes, concealed, withOtherEnvelopes, conceal, Function.comp_def]

theorem credentials_shown (row : ConnectionRow) : (asDocument row)[8]? =
    some ("encrypted_credentials", .ofOption row.encryptedCredentials) := rfl

/-- The list shows the stored envelope, so it tells two stores apart. -/
theorem listed_connections_disclose :
    Reachable sampleSettings (Outside.still provider) (consented connectByOAuth) ∧
      (∃ response, answer sampleSettings 90 noInternals (Outside.still provider)
          (.listForUser sampleUser) (consented connectByOAuth) = .ok response ∧
        holdsEntry "encrypted_credentials" response = true) ∧
      ∃ store, SameButEnvelopes (consented connectByOAuth).store store ∧
        answer sampleSettings 90 noInternals (Outside.still provider) (.listForUser sampleUser)
            ⟨store, ()⟩ ≠
          answer sampleSettings 90 noInternals (Outside.still provider) (.listForUser sampleUser)
            (consented connectByOAuth) := by
  obtain ⟨row, envelope, single, filled⟩ := connected_row
  have listed : (consented connectByOAuth).store.connections.filter
      (ConnectionWhere.ofUser sampleUser.sub).holds = [row] := single
  refine ⟨reachable_serve_all _ (.empty ()), ⟨_, answer_list .., ?_⟩, ?_⟩
  · rw [listed]
    exact list_holds noInternals List.mem_cons_self
  · refine ⟨withOtherEnvelopes (consented connectByOAuth).store, same_but_envelopes _, fun same => ?_⟩
    have other : (withOtherEnvelopes (consented connectByOAuth).store).connections.filter
        (ConnectionWhere.ofUser sampleUser.sub).holds =
          [{ row with encryptedCredentials := row.encryptedCredentials.map (· ++ "A") }] := by
      rw [withOtherEnvelopes, List.filter_map]
      exact congrArg _ listed
    rw [answer_list, answer_list, listed, other] at same
    have documents := Json.arr.inj (Except.ok.inj same)
    simp only [List.insertionSort_cons, List.insertionSort_nil, List.orderedInsert, List.map_cons,
      List.map_nil, strip_stored, List.cons.injEq, Json.obj.injEq, and_true] at documents
    have shown := congrArg (fun fields : List (String × Json) => fields[8]?) documents
    simp only [credentials_shown, filled, Option.map_some, Json.ofOption, Option.some.injEq,
      Prod.mk.injEq, true_and, Json.str.injEq] at shown
    have longer := congrArg String.length shown
    simp at longer

/-- GET /me of the user who is connected shows nothing of the envelope. -/
theorem connected_me_discreet :
    (∃ row ∈ (consented connectByOAuth).store.connections, row.encryptedCredentials.isSome = true) ∧
      Discreet sampleSettings 90 noInternals (Outside.still provider) (.me sampleUser none)
        (consented connectByOAuth) := by
  constructor
  · obtain ⟨row, envelope, single, filled⟩ := connected_row
    have listed : row ∈ (consented connectByOAuth).store.connections.filter
        (ConnectionWhere.ofUser "u1").holds := single ▸ List.mem_cons_self
    exact ⟨row, List.mem_of_mem_filter listed, filled ▸ rfl⟩
  · have exactly := discreet_iff sampleSettings 90 noInternals (Outside.still provider)
      (.me sampleUser none) (consented connectByOAuth)
    exact exactly.2 trivial

end Lehen.Disclosing
