import Lehen.Footprint
import Lehen.Schedule

/-!
The protocol of `grant` and `complete_grant`: a connection row is inserted only
after the gates were seen open, the uniqueness check found no active row of the
mailbox, and the sequence number was read. No other request inserts a row.
-/

namespace Lehen.Granting

open Storage OAuth AuditService SiamService ConnectionsService Footprint
open Prog (Monitor only_mono)

/-- The key of the uniqueness rule. -/
structure Mailbox where
  userSub : String
  instanceId : String
  externalSubject : String
  deriving DecidableEq, Repr

def mailbox (row : ConnectionRow) : Mailbox :=
  ⟨row.userSub, row.integrationInstanceId, row.externalSubject⟩

/-- What a request has learned from its reads since it began, or since its last
insert. -/
structure GrantView where
  gate : Option InstanceRow := none
  mapping : Option Mapping := none
  checked : Option Mailbox := none
  seq : Option Nat := none

namespace GrantView

def Open (view : GrantView) (instanceId : String) : Prop :=
  (∃ row, view.gate = some row ∧ row.enabled = true) ∧
    ∃ mapping, view.mapping = some mapping ∧ mapping.lists instanceId

def next (view : GrantView) : (op : Op) → Except PyError op.Res → GrantView
  | .store (.selectInstance _), .ok rows => { view with gate := List.head? rows }
  | .store (.selectSiam _), .ok rows => { view with mapping := some (mappingOf rows) }
  | .store (.selectConnections (.ofMailbox userSub instanceId externalSubject)), .ok [] =>
      { view with checked := some ⟨userSub, instanceId, externalSubject⟩ }
  | .store (.selectMaxSeq _ _), .ok m => { view with seq := some (seqAfter m) }
  | .store (.insertConnection _), _ => { view with checked := none, seq := none }
  | _, _ => view

end GrantView

/-- What entitles a request of the user on the instance to insert a row. -/
structure Licensed (userSub instanceId : String) (view : GrantView) (row : ConnectionRow) :
    Prop where
  gates : view.Open instanceId
  checked : view.checked = some (mailbox row)
  seq : view.seq = some row.connectionSeq
  user : row.userSub = userSub
  place : row.integrationInstanceId = instanceId
  id : row.id = connectionId userSub instanceId row.connectionSeq
  active : row.isActive = true

def Allowed (userSub instanceId : String) (view : GrantView) : Op → Prop
  | .store (.insertConnection row) => Licensed userSub instanceId view row
  | .store (.selectInstance id) => id = instanceId
  | .store (.selectSiam id) => id = siamId
  | .store (.selectMaxSeq user place) => user = userSub ∧ place = instanceId
  | .store (.updateConnections _ _) => False
  | op => Calm op

def grantMonitor (userSub instanceId : String) : Monitor Op Op.Res PyError GrantView :=
  { allowed := Allowed userSub instanceId, next := GrantView.next }

/-- The monitor of a request that inserts no row. -/
def plainMonitor : Monitor Op Op.Res PyError GrantView :=
  { allowed := fun _ => Unlicensed, next := fun view _ _ => view }

variable (settings : Settings)

theorem allowed_cases {userSub instanceId : String} {view : GrantView} {op : Op}
    (allowed : Allowed userSub instanceId view op) :
    (∃ row, op = .store (.insertConnection row) ∧ Licensed userSub instanceId view row) ∨
      Calm op := by
  cases op with
  | store statement =>
      cases statement with
      | insertConnection row => exact .inl ⟨row, rfl, allowed⟩
      | _ => first | exact .inr trivial | exact allowed.elim
  | _ => exact .inr trivial

/-- Only two queries change what a request knows of the gates. -/
theorem gates_noticed (view : GrantView) (op : Op) (answer : Except PyError op.Res) :
    (∃ id, op = .store (.selectInstance id)) ∨ (∃ id, op = .store (.selectSiam id)) ∨
      ((view.next op answer).gate = view.gate ∧ (view.next op answer).mapping = view.mapping) := by
  cases op with
  | store statement =>
      cases statement with
      | selectInstance id => exact .inl ⟨id, rfl⟩
      | selectSiam id => exact .inr (.inl ⟨id, rfl⟩)
      | selectConnections rows =>
          right
          right
          cases rows with
          | ofMailbox userSub instanceId externalSubject =>
              rcases answer with error | (_ | ⟨row, rest⟩) <;> exact ⟨rfl, rfl⟩
          | _ => cases answer <;> exact ⟨rfl, rfl⟩
      | _ => cases answer <;> exact .inr (.inr ⟨rfl, rfl⟩)
  | _ => cases answer <;> exact .inr (.inr ⟨rfl, rfl⟩)

theorem quiet_unnoticed (userSub instanceId : String) (view : GrantView) (op : Op)
    (quiet : Quiet op) :
    (grantMonitor userSub instanceId).allowed view op ∧
      ∀ answer, (grantMonitor userSub instanceId).next view op answer = view := by
  cases op with
  | store op =>
      cases op with
      | insertConsent event => exact ⟨trivial, fun answer => rfl⟩
      | insertAudit event => exact ⟨trivial, fun answer => rfl⟩
      | _ => exact quiet.elim
  | http request => exact ⟨trivial, fun answer => rfl⟩
  | clock => exact ⟨trivial, fun answer => rfl⟩
  | tokenBytes count => exact ⟨trivial, fun answer => rfl⟩
  | uuid4 => exact ⟨trivial, fun answer => rfl⟩

theorem follows_quiet {α : Type} {body : Hub α} {userSub instanceId : String} {view : GrantView}
    {post : Except PyError α → GrantView → Prop} (quiet : body.Only Quiet)
    (any : ∀ outcome, post outcome view) :
    body.Follows (grantMonitor userSub instanceId) post view :=
  Prog.follows_only quiet (quiet_unnoticed userSub instanceId view) any

theorem quick_keeps {α : Type} {body : Hub α} {userSub instanceId : String} {view : GrantView}
    (quick : body.Straight Quick True) :
    body.Follows (grantMonitor userSub instanceId) (fun _ after => after = view) view :=
  follows_quiet (Prog.only_of_straight quick quiet_of_quick) fun _ => rfl

theorem fetch_instance_follows (userSub instanceId : String) (view : GrantView) :
    (fetchInstance instanceId).Follows (grantMonitor userSub instanceId)
      (fun outcome after => ∀ found, outcome = .ok found → after.gate = found) view := by
  apply Prog.follows_perform_then rfl
  · intro rows found same
    exact Except.ok.inj same
  · intro error found impossible
    cases impossible

theorem authorized_follows (user : CurrentUser) (instanceId : String) (view : GrantView) :
    (isSiamAuthorized user instanceId).Follows (grantMonitor user.sub instanceId)
      (fun outcome after => after.gate = view.gate ∧ (outcome = .ok true →
        ∃ mapping, after.mapping = some mapping ∧ mapping.lists instanceId)) view := by
  rw [isSiamAuthorized, SiamService.get, Prog.bind_eq, Prog.bind_eq, Prog.bind_assoc]
  apply Prog.follows_perform_then rfl
  · intro rows
    refine ⟨rfl, fun authorized => ⟨mappingOf rows, rfl, ?_⟩⟩
    obtain ⟨role, _, allowed⟩ := List.any_eq_true.mp (Except.ok.inj authorized)
    exact lists_of_allowed _ role instanceId (of_decide_eq_true allowed)
  · intro error
    refine ⟨rfl, fun impossible => ?_⟩
    cases impossible

theorem gates_follow (user : CurrentUser) (instanceId : String) (view : GrantView) :
    (passGates user instanceId).Follows (grantMonitor user.sub instanceId)
      (fun outcome after => ∀ row, outcome = .ok row → after.Open instanceId) view := by
  have refused (error : PyError) (after : GrantView) (row : InstanceRow)
      (impossible : (Except.error error : Except PyError InstanceRow) = .ok row) :
      after.Open instanceId := by cases impossible
  apply Prog.follows_then (fetch_instance_follows user.sub instanceId view)
  · intro found after gate
    cases found with
    | none => exact refused _ after
    | some row =>
        apply Prog.follows_require_then
        · intro enabled
          apply Prog.follows_then (authorized_follows user instanceId after)
          · intro authorized last facts
            apply Prog.follows_require_then
            · intro passed _ _
              rw [passed] at facts
              exact ⟨⟨row, facts.1.trans (gate _ rfl), enabled⟩, facts.2 rfl⟩
            · exact fun _ => refused _ last
          · exact fun error last _ => refused error last
        · exact fun _ => refused _ after
  · exact fun error after _ => refused error after

theorem unconnected_follows (userSub instanceId externalSubject text : String)
    (view : GrantView) :
    (requireUnconnected userSub instanceId externalSubject text).Follows
      (grantMonitor userSub instanceId)
      (fun outcome after => outcome = .ok () →
        after = { view with checked := some ⟨userSub, instanceId, externalSubject⟩ }) view := by
  apply Prog.follows_perform_then trivial
  · intro existing
    cases existing with
    | nil => exact fun _ => rfl
    | cons row rest =>
        intro impossible
        cases impossible
  · intro error impossible
    cases impossible

theorem seq_follows (userSub instanceId : String) (view : GrantView) :
    (nextSeq userSub instanceId).Follows (grantMonitor userSub instanceId)
      (fun outcome after => ∀ seq, outcome = .ok seq →
        after = { view with seq := some seq }) view := by
  apply Prog.follows_perform_then
  · exact ⟨rfl, rfl⟩
  · intro m seq same
    rw [← Except.ok.inj same]
    rfl
  · intro error seq impossible
    cases impossible

theorem grant_follows (user : CurrentUser)
    (instanceId privacyClass externalSubject displayLabel : String) (requestId : Option String) :
    (grant settings user instanceId privacyClass externalSubject displayLabel requestId).Follows
      (grantMonitor user.sub instanceId) (fun _ _ => True) {} := by
  apply Prog.follows_then (gates_follow user instanceId {})
  · intro row view gates
    apply Prog.follows_then (unconnected_follows user.sub instanceId externalSubject _ view)
    · intro _ checked same
      obtain rfl := same rfl
      apply Prog.follows_then (seq_follows user.sub instanceId _)
      · intro seq numbered same
        obtain rfl := same seq rfl
        apply Prog.follows_perform_then trivial
        · intro instant
          apply Prog.follows_perform_then
          · exact ⟨gates row rfl, rfl, rfl, rfl, rfl, rfl, rfl⟩
          · intro _
            exact follows_quiet (Prog.only_bind (Prog.only_of_straight (logging_record_consent ..)
              quiet_of_logging) fun _ => trivial)
              fun _ => trivial
          · exact fun _ => trivial
        · exact fun _ => trivial
      · exact fun _ _ _ => trivial
    · exact fun _ _ _ => trivial
  · exact fun _ _ _ => trivial

theorem authorize_follows (user : CurrentUser) (instanceId code state : String)
    (view : GrantView) :
    (authorize settings user instanceId code state).Follows (grantMonitor user.sub instanceId)
      (fun outcome after => ∀ granted, outcome = .ok granted → after.Open instanceId) view := by
  have refused (error : PyError) (after : GrantView) (granted : Authorized)
      (impossible : (Except.error error : Except PyError Authorized) = .ok granted) :
      after.Open instanceId := by cases impossible
  apply Prog.follows_then (quick_keeps (quick_decode_state ..))
  · intro flow seen unchanged
    subst unchanged
    apply Prog.follows_require_then
    · intro _
      apply Prog.follows_require_then
      · intro _
        apply Prog.follows_then (gates_follow user instanceId seen)
        · intro row after gates
          -- Behind the gates the view is open, and nothing closes it again.
          have opened := gates row rfl
          apply Prog.follows_lift_then
          · intro adapter _
            apply Prog.follows_require_then
            · intro _
              apply Prog.follows_lift_then
              · intro clientSecret _
                -- The three calls to the provider leave the view as it is.
                apply follows_quiet
                · refine Prog.only_mono ?_ quiet_of_distant
                  apply Prog.only_bind (distant_post_token ..)
                  intro tokens
                  apply Prog.only_bind (distant_identity _)
                  intro identity
                  exact Prog.only_bind (distant_health _) fun _ => trivial
                · exact fun _ _ _ => opened
              · exact fun error _ => refused error after
            · exact fun _ => refused _ after
          · exact fun error _ => refused error after
        · exact fun error after _ => refused error after
      · exact fun _ => refused _ seen
    · exact fun _ => refused _ seen
  · exact fun error after _ => refused error after

theorem complete_follows (user : CurrentUser) (instanceId code state : String)
    (requestId : Option String) :
    (completeGrant settings user instanceId code state requestId).Follows
      (grantMonitor user.sub instanceId) (fun _ _ => True) {} := by
  apply Prog.follows_then (authorize_follows settings user instanceId code state {})
  · intro granted view gates
    apply Prog.follows_then (unconnected_follows user.sub instanceId granted.externalSubject _ view)
    · intro _ checked same
      obtain rfl := same rfl
      apply Prog.follows_then (seq_follows user.sub instanceId _)
      · intro seq numbered same
        obtain rfl := same seq rfl
        apply Prog.follows_perform_then trivial
        · intro instant
          apply Prog.follows_then (quick_keeps (quick_encrypt ..))
          · intro encrypted seen unchanged
            subst unchanged
            apply Prog.follows_perform_then
            · exact ⟨gates granted rfl, rfl, rfl, rfl, rfl, rfl, rfl⟩
            · intro _
              exact follows_quiet (Prog.only_bind (Prog.only_of_straight (logging_record_consent ..)
              quiet_of_logging) fun _ => trivial)
                fun _ => trivial
            · exact fun _ => trivial
          · exact fun _ _ _ => trivial
        · exact fun _ => trivial
      · exact fun _ _ _ => trivial
    · exact fun _ _ _ => trivial
  · exact fun _ _ _ => trivial

def requestMonitor : Request → Monitor Op Op.Res PyError GrantView
  | .grant user instanceId _ _ _ _ => grantMonitor user.sub instanceId
  | .completeGrant user instanceId _ _ _ => grantMonitor user.sub instanceId
  | _ => plainMonitor

theorem request_monitor_cases (request : Request) :
    (request.grants = true ∧
        ∃ userSub instanceId, requestMonitor request = grantMonitor userSub instanceId) ∨
      requestMonitor request = plainMonitor := by
  cases request with
  | grant user instanceId privacyClass externalSubject displayLabel requestId =>
      exact .inl ⟨rfl, user.sub, instanceId, rfl⟩
  | completeGrant user instanceId code state requestId =>
      exact .inl ⟨rfl, user.sub, instanceId, rfl⟩
  | _ => exact .inr rfl

def grantProtocol : Schedule.Protocol Request Op Op.Res PyError Unit GrantView :=
  { monitor := requestMonitor, initial := fun _ => {}, post := fun _ _ _ => True }

theorem follows_drop {α : Type} {body : Hub α} {monitor : Monitor Op Op.Res PyError GrantView}
    {view : GrantView} (follows : body.Follows monitor (fun _ _ => True) view) :
    (Prog.drop body).Follows monitor (fun _ _ => True) view :=
  Prog.follows_then follows (fun _ _ _ => trivial) fun _ _ _ => trivial

theorem follows_plain {body : Hub Unit} (unlicensed : body.Only Unlicensed) (view : GrantView) :
    body.Follows plainMonitor (fun _ _ => True) view :=
  Prog.follows_confined unlicensed (fun _ _ fits => fits) fun _ _ => trivial

/-- Every request of the Hub keeps to the protocol. -/
theorem grant_served (request : Request) : grantProtocol.Served (serve settings) request := by
  have bystander (plain : requestMonitor request = plainMonitor) (stands : Bystander request) :
      grantProtocol.Served (serve settings) request := by
    have follows := follows_plain (Prog.only_mono (updating_bystander settings request stands)
      unlicensed_of_updating) {}
    rw [← plain] at follows
    exact follows
  cases request with
  | createInstance actor instanceId typeId displayName config multi enabled requestId =>
      exact follows_plain (only_drop (only_mono (flagging_create ..) unlicensed_of_flagging)) {}
  | updateInstance actor instanceId changes requestId =>
      exact follows_plain (only_drop (unlicensed_update ..)) {}
  | deleteInstance actor instanceId requestId =>
      exact follows_plain (only_mono (diminishing_delete ..) unlicensed_of_diminishing) {}
  | replaceMapping actor mapping requestId =>
      exact follows_plain (only_drop (only_mono (diminishing_replace ..) unlicensed_of_diminishing)) {}
  | grant user instanceId privacyClass externalSubject displayLabel requestId =>
      exact follows_drop (grant_follows ..)
  | completeGrant user instanceId code state requestId => exact follows_drop (complete_follows ..)
  | _ => exact bystander rfl trivial

end Lehen.Granting
