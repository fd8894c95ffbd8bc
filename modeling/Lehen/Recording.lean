import Lehen.AdminCalls
import Lehen.Configuring

/-!
One event for each operation: what an admin operation adds to the log, whatever
fails on the way.
-/

namespace Lehen.Recording

open Storage OAuth AuditService ConnectionsService IntegrationsService Footprint
open SiamService (siamId)
open LlmService (llmConfigId)
open Prog (only_bind only_perform only_require only_lift only_when only_mono only_of_straight
  only_of_yields leaves_mono leaves_bind leaves_only leaves_perform)

variable {N : Type} {outside : Outside N} {α β : Type} {meant : AdminAuditEvent → Prop}

/-- Anything but an event for the log of admin mutations. -/
def Unrecorded : Op → Prop
  | .store (.insertAudit _) => False
  | _ => True

/-- The log gains an event that is meant, or a program that raises left it alone. -/
def Appends (meant : AdminAuditEvent → Prop) (outcome : Except PyError α)
    (before after : List AdminAuditEvent) : Prop :=
  (∃ error, outcome = .error error) ∧ after = before ∨ ∃ event, meant event ∧ after = before ++ [event]

/-- A program that appends one event, wherever it starts. -/
structure Records (outside : Outside N) (meant : AdminAuditEvent → Prop) (body : Hub α) : Prop where
  appends : ∀ world : World N, Prog.Leaves (exec outside) body world fun outcome after =>
    Appends meant outcome world.store.audits after.store.audits

theorem unrecorded_of_quick (op : Op) (quick : Quick op) : Unrecorded op := by
  cases op with
  | store statement => cases quick
  | _ => trivial

theorem unrecorded_of_cascading (op : Op) (cascading : Cascading op) : Unrecorded op := by
  cases op with
  | store statement => cases statement <;> trivial
  | _ => trivial

theorem unrecorded_audits (op : Op) (world : World N) (unrecorded : Unrecorded op) :
    (exec outside op world).2.store.audits = world.store.audits := by
  cases op with
  | store statement =>
      rcases exec_moves outside statement world with same | same
      · rw [same]
      · rw [same]
        cases statement <;> first | rfl | exact unrecorded.elim
  | _ => rw [exec_elsewhere outside _ world fun _ same => by cases same]

theorem leaves_unrecorded {body : Hub α} (unrecorded : body.Only Unrecorded) (world : World N) :
    Prog.Leaves (exec outside) body world fun _ after => after.store.audits = world.store.audits :=
  leaves_only (fun after => after.store.audits = world.store.audits) unrecorded rfl
    fun op state allowed same => (unrecorded_audits op state allowed).trans same

/-- The event comes after what appends none. -/
theorem records_after {body : Hub β} {next : β → Hub α} (unrecorded : body.Only Unrecorded)
    (rest : ∀ value, Records outside meant (next value)) : Records outside meant (body.bind next) := by
  constructor
  intro world
  rw [leaves_bind]
  refine leaves_mono (leaves_unrecorded unrecorded world) ?_
  intro outcome between same
  cases outcome with
  | error error => exact .inl ⟨⟨error, rfl⟩, same⟩
  | ok value =>
      rw [← same]
      exact (rest value).appends between

/-- The event comes before what appends none. -/
theorem records_before {body : Hub β} {next : β → Hub α} (records : Records outside meant body)
    (rest : ∀ value, (next value).Only Unrecorded) : Records outside meant (body.bind next) := by
  constructor
  intro world
  rw [leaves_bind]
  refine leaves_mono (records.appends world) ?_
  intro outcome between appends
  rcases appends with ⟨⟨error, rfl⟩, same⟩ | ⟨event, own, added⟩
  · exact .inl ⟨⟨error, rfl⟩, same⟩
  · cases outcome with
    | error error => exact .inr ⟨event, own, added⟩
    | ok value =>
        refine leaves_mono (leaves_unrecorded (rest value) between) ?_
        exact fun _ after same => .inr ⟨event, own, same.trans added⟩

/-- The insert may be carried out although it raises. -/
theorem records_insert {event : AdminAuditEvent} (own : meant event) :
    Records outside meant (command (.insertAudit event)) := by
  constructor
  intro world
  rw [command, leaves_perform]
  rcases exec_store outside (.insertAudit event) world with ⟨error, failed, same | same⟩ | ⟨_, same⟩
  · exact .inl ⟨⟨error, failed⟩, by rw [same]⟩
  · exact .inr ⟨event, own, by rw [same]; rfl⟩
  · exact .inr ⟨event, own, by rw [same]; rfl⟩

/-! The operations. -/

/-- Who does what to which target. -/
structure Deed where
  actor : CurrentUser
  action : String
  targetId : String

/-- The event is about this deed. -/
structure Names (deed : Deed) (event : AdminAuditEvent) : Prop where
  actorSub : event.actorSub = deed.actor.sub
  actorUsername : event.actorUsername = deed.actor.username
  action : event.action = deed.action
  targetId : event.targetId = some deed.targetId

/-- What an operation does that is to be recorded. -/
def deedOf : AdminCall → Option Deed
  | .createInstance actor instanceId .. => some ⟨actor, "integration.create", instanceId⟩
  | .updateInstance actor instanceId .. => some ⟨actor, "integration.update", instanceId⟩
  | .deleteInstance actor instanceId .. => some ⟨actor, "integration.delete", instanceId⟩
  | .updateLlm actor .. => some ⟨actor, "llm.update", llmConfigId⟩
  | .replaceMapping actor .. => some ⟨actor, "siam.update", siamId⟩
  | .listInstances | .getInstance _ | .getLlm => none

/-- The event of a deed is all that an operation adds to the log. -/
def Recorded (call : AdminCall) (outcome : Except PyError Reply) (before after : List AdminAuditEvent) :
    Prop :=
  match deedOf call with
  | none => after = before
  | some deed => Appends (Names deed) outcome before after

section Services

variable (settings : Settings) (actor : CurrentUser) (requestId : Option String)

theorem records_event {event : AuditEvent} {deed : Deed} (signed : event.actorSub = deed.actor.sub)
    (named : event.actorUsername = deed.actor.username) (acts : event.action = deed.action)
    (target : event.targetId = some deed.targetId) :
    Records outside (Names deed) (record settings event) := by
  refine records_after (only_perform trivial) fun id => ?_
  refine records_after (only_perform trivial) fun ts => ?_
  refine records_after (only_lift _) fun before => ?_
  refine records_after (only_lift _) fun after => ?_
  refine records_after (only_of_straight (quick_request_id _) unrecorded_of_quick) fun requestId => ?_
  exact records_insert ⟨signed, named, acts, target⟩

theorem records_create (instanceId typeId displayName : String) (config : Dict Json)
    (multi enabled : Bool) :
    Records outside (Names ⟨actor, "integration.create", instanceId⟩)
      (create settings actor instanceId typeId displayName config multi enabled requestId) := by
  refine records_after (only_lift _) fun spec => ?_
  refine records_after (only_require _ _) fun _ => ?_
  refine records_after (only_perform trivial) fun existing => ?_
  refine records_after (only_require _ _) fun _ => ?_
  refine records_after (only_of_straight (quick_split_config settings spec config) unrecorded_of_quick) fun split => ?_
  refine records_after (only_perform trivial) fun instant => ?_
  refine records_after (only_perform trivial) fun _ => ?_
  exact records_before (records_event settings rfl rfl rfl rfl) fun _ => trivial

/-- The cascade of a withdrawn instance comes after the event. -/
theorem records_update (instanceId : String) (changes : Changes) :
    Records outside (Names ⟨actor, "integration.update", instanceId⟩)
      (update settings (revokeAllForInstance settings · · ·) actor instanceId changes requestId) := by
  refine records_after (only_raw_get instanceId trivial) fun before => ?_
  refine records_after (only_lift _) fun spec => ?_
  refine records_after (only_require _ _) fun _ => ?_
  refine records_after (only_of_straight (quick_split_changes settings spec changes) unrecorded_of_quick) fun split => ?_
  refine records_after (only_perform trivial) fun instant => ?_
  refine records_after (only_perform trivial) fun _ => ?_
  refine records_before (records_event settings rfl rfl rfl rfl) fun _ => ?_
  apply only_bind (only_when (only_mono (cascading_revoke_all ..) unrecorded_of_cascading))
  exact fun _ => trivial

/-- Here it comes before it. -/
theorem records_delete (instanceId : String) :
    Records outside (Names ⟨actor, "integration.delete", instanceId⟩)
      (delete settings (revokeAllForInstance settings · · ·) actor instanceId requestId) := by
  refine records_after (only_raw_get instanceId trivial) fun before => ?_
  refine records_after (only_mono (cascading_revoke_all ..) unrecorded_of_cascading) fun _ => ?_
  refine records_after (only_perform trivial) fun _ => ?_
  refine records_after (only_lift _) fun spec => ?_
  exact records_event settings rfl rfl rfl rfl

theorem unrecorded_raw : LlmService.rawGet.Only Unrecorded := by
  apply only_bind (only_perform trivial)
  intro rows
  split <;> trivial

theorem records_configure (inference embedding : Option (Dict Json)) :
    Records outside (Names ⟨actor, "llm.update", llmConfigId⟩)
      (LlmService.update settings actor inference embedding requestId) := by
  have given (side : LlmService.Side) (payload : Option (Dict Json)) (draft : LlmService.Draft) :
      (LlmService.applyGiven settings side payload draft).Only Unrecorded :=
    only_mono (only_of_yields (Configuring.yields_given settings side payload draft)) unrecorded_of_quick
  refine records_after (only_require _ _) fun _ => ?_
  refine records_after unrecorded_raw fun beforeRaw => ?_
  refine records_after (given .inference inference _) fun first => ?_
  refine records_after (given .embedding embedding first) fun draft => ?_
  refine records_after (only_perform trivial) fun instant => ?_
  refine records_after (only_perform trivial) fun _ => ?_
  refine records_before (records_event settings rfl rfl rfl rfl) fun _ => ?_
  exact only_bind unrecorded_raw fun _ => trivial

theorem records_replace (mapping : Json) :
    Records outside (Names ⟨actor, "siam.update", siamId⟩)
      (SiamService.replace settings (revokeForUsersNoLongerAuthorized settings · · ·) actor mapping
        requestId) := by
  have read : SiamService.get.Only Unrecorded := only_bind (only_perform trivial) fun _ => trivial
  refine records_after read fun before => ?_
  refine records_after (only_perform trivial) fun updatedAt => ?_
  refine records_after (only_perform trivial) fun existing => ?_
  apply records_after
  · unfold SiamService.save
    split <;> exact only_perform trivial
  · intro _
    refine records_after read fun after => ?_
    refine records_before (records_event settings rfl rfl rfl rfl) fun _ => ?_
    apply only_bind (only_when (only_mono (cascading_revoke_unauthorized ..) unrecorded_of_cascading))
    exact fun _ => trivial

theorem records_replied {body : Hub α} (records : Records outside meant body) (reply : α → Reply) :
    Records outside meant (body.bind fun value => .ret (reply value)) := by
  apply records_before records
  exact fun _ => trivial

theorem unrecorded_replied {body : Hub α} (unrecorded : body.Only Unrecorded) (reply : α → Reply)
    (world : World N) :
    Prog.Leaves (exec outside) (body.bind fun value => .ret (reply value)) world
      fun _ after => after.store.audits = world.store.audits := by
  apply leaves_unrecorded
  apply only_bind unrecorded
  exact fun _ => trivial

/-- A call that returns appends its one event, one that raises that event or none,
and a read none. -/
theorem call_recorded (outside : Outside N) (world : World N) (call : AdminCall) :
    Prog.Leaves (exec outside) (administer settings call) world fun outcome after =>
      Recorded call outcome world.store.audits after.store.audits := by
  cases call with
  | createInstance actor instanceId typeId displayName config multi enabled requestId =>
      exact (records_replied (records_create settings ..) _).appends world
  | updateInstance actor instanceId changes requestId =>
      exact (records_replied (records_update settings ..) _).appends world
  | deleteInstance actor instanceId requestId =>
      exact (records_replied (records_delete settings ..) _).appends world
  | updateLlm actor inference embedding requestId =>
      exact (records_replied (records_configure settings ..) _).appends world
  | replaceMapping actor mapping requestId =>
      exact (records_replied (records_replace settings ..) _).appends world
  | listInstances =>
      have read : IntegrationsService.list.Only Unrecorded := by
        apply only_bind (only_perform trivial)
        exact fun _ => trivial
      exact unrecorded_replied read _ world
  | getInstance instanceId =>
      have read : (get instanceId).Only Unrecorded := by
        apply only_bind (only_perform trivial)
        intro rows
        split <;> trivial
      exact unrecorded_replied read _ world
  | getLlm =>
      have read : LlmService.get.Only Unrecorded := by
        apply only_bind (only_perform trivial)
        intro rows
        split <;> trivial
      exact unrecorded_replied read _ world

end Services

end Lehen.Recording
