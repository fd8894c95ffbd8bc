import Lehen.Footprint

/-!
The protocol of the admin actions on instances and on the mapping: what they
read before they write, and which cascade a write obliges them to. A stage says
how far an action has come; every failed operation ends it.
-/

namespace Lehen.Administration

open Storage OAuth Registry AuditService SiamService ConnectionsService IntegrationsService Footprint
open Prog (Monitor)

inductive Action where
  | create (instanceId : String)
  | update (instanceId : String) (enabled : Option Bool)
  | delete (instanceId : String)
  | replace (mapping : Json)

inductive Stage where
  | idle
  | absent
  | found (row : InstanceRow)
  /-- Written, and nothing to withdraw. -/
  | kept (row doc : InstanceRow)
  /-- The instance was just disabled and its connections are still to be looked up. -/
  | owes
  | mapped (before : Mapping) (known : Bool)
  | replaced (before : Mapping)
  | reread (before after : Mapping)
  /-- The rows the cascade selected and has not withdrawn yet. -/
  | sweeping (rows : List ConnectionRow)
  | gone
  | failed

def Stage.next : Stage → (op : Op) → Except PyError op.Res → Stage
  | _, _, .error _ => .failed
  | .idle, .store (.selectInstance _), .ok rows =>
      match List.head? rows with
      | some row => .found row
      | none => .absent
  | .absent, .store (.insertInstance _), .ok _ => .gone
  | .found row, .store (.updateInstance _ doc), .ok _ =>
      if row.enabled = true ∧ doc.enabled = false then .owes else .kept row doc
  | .found _, .store (.selectConnections _), .ok rows => .sweeping rows
  | .owes, .store (.selectConnections _), .ok rows => .sweeping rows
  | .sweeping rows, .store (.updateConnections _ _), .ok _ => .sweeping rows.tail
  | .sweeping _, .store (.deleteInstance _), .ok _ => .gone
  | .idle, .store (.selectSiam _), .ok rows => .mapped (mappingOf rows) (!List.isEmpty rows)
  | .mapped before _, .store (.selectSiam _), .ok rows => .mapped before (!List.isEmpty rows)
  | .mapped before _, .store (.insertSiam _), .ok _ => .replaced before
  | .mapped before _, .store (.updateSiam _ _), .ok _ => .replaced before
  | .replaced before, .store (.selectSiam _), .ok rows => .reread before (mappingOf rows)
  | .reread before after, .store (.selectConnections _), .ok rows =>
      .sweeping (List.filter (isOrphaned before after) rows)
  | stage, _, _ => stage

/-- What an action may do next. Besides this it may write to the logs. -/
def Action.Allows : Action → Stage → Op → Prop
  | .create instanceId, .idle, .store (.selectInstance id) => id = instanceId
  | .create instanceId, .absent, .store (.insertInstance doc) => doc.id = instanceId
  | .update instanceId _, .idle, .store (.selectInstance id) => id = instanceId
  | .update instanceId enabled, .found row, .store (.updateInstance id doc) =>
      id = instanceId ∧ doc.id = row.id ∧ doc.enabled = enabled.getD row.enabled
  | .update instanceId _, .owes, .store (.selectConnections (.onInstance id)) => id = instanceId
  | .delete instanceId, .idle, .store (.selectInstance id) => id = instanceId
  | .delete instanceId, .found _, .store (.selectConnections (.onInstance id)) => id = instanceId
  | .delete instanceId, .sweeping [], .store (.deleteInstance id) => id = instanceId
  | .replace _, .idle, .store (.selectSiam id) => id = siamId
  | .replace _, .mapped _ _, .store (.selectSiam id) => id = siamId
  | .replace mapping, .mapped _ false, .store (.insertSiam doc) =>
      doc.id = siamId ∧ doc.mapping = (SiamService.normalize mapping).toJson
  | .replace mapping, .mapped _ true, .store (.updateSiam id doc) =>
      id = siamId ∧ doc.id = siamId ∧ doc.mapping = (SiamService.normalize mapping).toJson
  | .replace _, .replaced _, .store (.selectSiam id) => id = siamId
  | .replace _, .reread _ _, .store (.selectConnections .anyActive) => True
  | _, .sweeping (row :: _), .store (.updateConnections id (.withdraw _ _)) => id = row.id
  | _, _, op => Logging op

def adminMonitor (action : Action) : Monitor Op Op.Res PyError Stage :=
  { allowed := action.Allows, next := Stage.next }

/-- Where an action that succeeds has come to. -/
def Action.Settled : Action → Stage → Prop
  | .create _, stage => stage = .gone
  | .update _ _, stage => stage = .sweeping [] ∨ ∃ row doc, stage = .kept row doc
  | .delete _, stage => stage = .gone
  | .replace _, stage => stage = .sweeping [] ∨ ∃ mapping, stage = .reread mapping mapping

/-- Where an action that raises has come to: an operation failed, or it raised
before its first write or after its last. -/
def Stopped (stage : Stage) : Prop :=
  stage = .failed ∨ stage = .idle ∨ stage = .absent ∨ stage = .gone ∨ ∃ row, stage = .found row

def Action.Ends {α : Type} (action : Action) : Except PyError α → Stage → Prop
  | .ok _, stage => action.Settled stage
  | .error _, stage => Stopped stage

/-- A part of an action that ends at a stage unless an operation fails. -/
def Reaches {α : Type} (goal : Stage) : Except PyError α → Stage → Prop
  | .ok _, stage => stage = goal
  | .error _, stage => stage = .failed

theorem next_error (stage : Stage) (op : Op) (error : PyError) :
    stage.next op (.error error) = .failed := by
  cases stage <;> rfl

theorem allows_logging (action : Action) (stage : Stage) (op : Op) (logging : Logging op) :
    action.Allows stage op := by
  unfold Action.Allows
  split <;> first | exact logging | exact logging.elim

theorem next_logging (stage : Stage) (op : Op) (value : op.Res) (logging : Logging op) :
    stage.next op (.ok value) = stage := by
  cases op with
  | store statement =>
      cases statement with
      | insertConsent event => cases stage <;> rfl
      | insertAudit event => cases stage <;> rfl
      | _ => exact logging.elim
  | http request => exact logging.elim
  | _ => cases stage <;> rfl

variable (settings : Settings)

theorem logging_unnoticed (action : Action) (stage : Stage) (op : Op) (logging : Logging op) :
    (adminMonitor action).allowed stage op ∧
      (∀ value, (adminMonitor action).next stage op (.ok value) = stage) ∧
      ∀ error, (adminMonitor action).next stage op (.error error) = .failed :=
  ⟨allows_logging action stage op logging, fun value => next_logging stage op value logging,
    fun error => next_error stage op error⟩

/-- Logging at the end changes nothing unless it fails. -/
theorem logging_stays {α : Type} {body : Hub α} (action : Action) (stage : Stage)
    (logging : body.Straight Logging False) :
    body.Follows (adminMonitor action) (Reaches stage) stage := by
  apply Prog.follows_straight logging
  · intro op logs
    exact ⟨allows_logging action stage op logs, fun value => next_logging stage op value logs⟩
  · exact fun value => rfl
  · exact False.elim
  · intro op error passed _
    exact next_error stage op error

/-- One statement of an action, with the stage it leads to. -/
theorem statement_then {α : Type} {action : Action} {stage : Stage} {statement : StoreOp}
    {rest : statement.Res → Hub α} {post : Except PyError α → Stage → Prop}
    (allowed : action.Allows stage (.store statement))
    (then_ : ∀ value, (rest value).Follows (adminMonitor action) post
      (stage.next (.store statement) (.ok value)))
    (failed : ∀ error, post (.error error) .failed) :
    ((Prog.perform (Op.store statement) : Hub statement.Res).bind rest).Follows
      (adminMonitor action) post stage := by
  apply Prog.follows_perform_then allowed then_
  intro error
  have same : (adminMonitor action).next stage (.store statement) (.error error) = .failed :=
    next_error stage (.store statement) error
  rw [same]
  exact failed error

theorem logging_then {α β : Type} {body : Hub α} {rest : α → Hub β} {action : Action}
    {stage : Stage} {post : Except PyError β → Stage → Prop}
    (logging : body.Straight Logging False)
    (then_ : ∀ value, (rest value).Follows (adminMonitor action) post stage)
    (failed : ∀ error, post (.error error) .failed) :
    (body.bind rest).Follows (adminMonitor action) post stage :=
  Prog.follows_straight_then logging (logging_unnoticed action stage) then_ False.elim failed

/-- Preparation that may be refused, before anything is written. -/
theorem quick_then {α β : Type} {body : Hub α} {rest : α → Hub β} {action : Action}
    {stage : Stage} {post : Except PyError β → Stage → Prop} (quick : body.Straight Quick True)
    (then_ : ∀ value, (rest value).Follows (adminMonitor action) post stage)
    (refused : ∀ error, post (.error error) stage) (failed : ∀ error, post (.error error) .failed) :
    (body.bind rest).Follows (adminMonitor action) post stage :=
  Prog.follows_straight_then quick
    (fun op quick => logging_unnoticed action stage op (logging_of_quick op quick)) then_
    (fun _ => refused) failed

/-! The cascades. -/

theorem sweep_follows (action : Action) (reason : String) (requestId : Option String) (ts : Time)
    (rows : List ConnectionRow) :
    (Prog.forEach rows (withdraw settings reason requestId ts)).Follows (adminMonitor action)
      (Reaches (.sweeping [])) (.sweeping rows) := by
  induction rows with
  | nil => exact rfl
  | cons row rest ih =>
      rw [Prog.forEach, withdraw, Prog.bind_eq, Prog.bind_assoc]
      apply statement_then
      · cases action <;> exact rfl
      · intro _
        exact logging_then (logging_record_withdrawal ..) (fun _ => ih) fun _ => rfl
      · exact fun _ => rfl

theorem revoke_all_follows (action : Action) (stage : Stage)
    (instanceId reason : String) (requestId : Option String)
    (allowed : action.Allows stage (.store (.selectConnections (.onInstance instanceId))))
    (swept : ∀ rows, stage.next (.store (.selectConnections (.onInstance instanceId))) (.ok rows) =
      .sweeping rows) :
    (revokeAllForInstance settings instanceId reason requestId).Follows (adminMonitor action)
      (Reaches (.sweeping [])) stage := by
  apply statement_then allowed
  · intro rows
    rw [swept rows]
    split
    · rename_i none
      rw [none]
      exact rfl
    · apply logging_then logging_now
      · intro instant
        apply Prog.follows_then (sweep_follows settings action reason requestId instant rows)
        · exact fun _ _ same => same
        · exact fun _ _ same => same
      · exact fun _ => rfl
  · exact fun _ => rfl

theorem revoke_unauthorized_follows (mapping : Json) (before after : Mapping)
    (requestId : Option String) :
    (revokeForUsersNoLongerAuthorized settings before after requestId).Follows
      (adminMonitor (.replace mapping)) (Reaches (.sweeping [])) (.reread before after) := by
  apply statement_then
  · exact trivial
  · intro rows
    split
    · rename_i none
      rw [none]
      exact rfl
    · apply logging_then logging_now
      · intro instant
        apply Prog.follows_then
          (sweep_follows settings _ _ requestId instant (List.filter (isOrphaned before after) rows))
        · exact fun _ _ same => same
        · exact fun _ _ same => same
      · exact fun _ => rfl
  · exact fun _ => rfl

/-! The actions. -/

theorem raw_get_follows (action : Action) (instanceId : String)
    (allowed : action.Allows .idle (.store (.selectInstance instanceId))) :
    (rawGet instanceId).Follows (adminMonitor action)
      (fun outcome stage =>
        match outcome with
        | .ok row => stage = .found row
        | .error _ => Stopped stage) .idle := by
  apply statement_then allowed
  · intro rows
    dsimp only [Stage.next]
    cases List.head? rows with
    | none => exact .inr (.inr (.inl rfl))
    | some row => exact rfl
  · exact fun _ => .inl rfl

theorem create_follows (actor : CurrentUser) (instanceId typeId displayName : String)
    (config : Dict Json) (multiConnectionAllowed enabled : Bool) (requestId : Option String) :
    (create settings actor instanceId typeId displayName config multiConnectionAllowed enabled
      requestId).Follows (adminMonitor (.create instanceId)) (Action.create instanceId).Ends
        .idle := by
  have idle : Stopped .idle := .inr (.inl rfl)
  apply Prog.follows_lift_then
  · intro spec _
    apply Prog.follows_require_then
    · intro _
      apply statement_then
      · exact rfl
      · intro rows
        -- The id must be free; a row that was found ends the call.
        cases rows with
        | nil =>
            apply Prog.follows_require_then
            · intro _
              apply quick_then (quick_split_config settings spec config)
              · intro split
                apply logging_then logging_now
                · intro instant
                  apply statement_then
                  · exact rfl
                  · intro _
                    exact logging_then (logging_record ..) (fun _ => rfl) fun _ => .inl rfl
                  · exact fun _ => .inl rfl
                · exact fun _ => .inl rfl
              · exact fun _ => .inr (.inr (.inl rfl))
              · exact fun _ => .inl rfl
            · exact fun _ => .inr (.inr (.inl rfl))
        | cons row rest =>
            apply Prog.follows_require_then
            · intro impossible
              cases impossible
            · exact fun _ => .inr (.inr (.inr (.inr ⟨row, rfl⟩)))
      · exact fun _ => .inl rfl
    · exact fun _ => idle
  · exact fun _ _ => idle

theorem update_follows (actor : CurrentUser) (instanceId : String) (changes : Changes)
    (requestId : Option String) :
    (update settings (revokeAllForInstance settings · · ·) actor instanceId changes
      requestId).Follows (adminMonitor (.update instanceId changes.enabled))
        (Action.update instanceId changes.enabled).Ends .idle := by
  apply Prog.follows_then (raw_get_follows (.update instanceId changes.enabled) instanceId rfl)
  · rintro before stage rfl
    have stopped : Stopped (.found before) := .inr (.inr (.inr (.inr ⟨before, rfl⟩)))
    apply Prog.follows_lift_then
    · intro spec _
      apply Prog.follows_require_then
      · intro _
        apply quick_then (quick_split_changes settings spec changes)
        · intro split
          apply logging_then logging_now
          · intro instant
            apply statement_then
            · exact ⟨rfl, rfl, rfl⟩
            · intro _
              apply logging_then (logging_record ..)
              · intro _
                -- The cascade runs exactly if the write disabled the instance.
                by_cases disabled : before.enabled = true ∧
                    (mergedDoc before changes split actor.username instant).enabled = false
                · rw [Stage.next, if_pos disabled, Prog.when, if_pos disabled, Prog.bind_eq,
                    Prog.bind_assoc]
                  apply Prog.follows_then (revoke_all_follows settings
                    (.update instanceId changes.enabled) .owes instanceId _ requestId rfl
                    fun _ => rfl)
                  · exact fun _ _ same => .inl same
                  · exact fun _ _ same => .inl same
                · rw [Stage.next, if_neg disabled, Prog.when, if_neg disabled]
                  exact .inr ⟨_, _, rfl⟩
              · exact fun _ => .inl rfl
            · exact fun _ => .inl rfl
          · exact fun _ => .inl rfl
        · exact fun _ => stopped
        · exact fun _ => .inl rfl
      · exact fun _ => stopped
    · exact fun _ _ => stopped
  · exact fun _ _ stopped => stopped

theorem delete_follows (actor : CurrentUser) (instanceId : String) (requestId : Option String) :
    (delete settings (revokeAllForInstance settings · · ·) actor instanceId requestId).Follows
      (adminMonitor (.delete instanceId)) (Action.delete instanceId).Ends .idle := by
  apply Prog.follows_then (raw_get_follows (.delete instanceId) instanceId rfl)
  · rintro before stage rfl
    apply Prog.follows_then (revoke_all_follows settings (.delete instanceId) (.found before)
      instanceId _ requestId rfl fun _ => rfl)
    · rintro _ stage rfl
      apply statement_then
      · exact rfl
      · intro _
        apply Prog.follows_lift_then
        · intro spec _
          apply Prog.follows_mono (logging_stays _ .gone (logging_record ..))
          intro outcome stage reached
          cases outcome with
          | ok value => exact reached
          | error error => exact .inl reached
        · exact fun _ _ => .inr (.inr (.inr (.inl rfl)))
      · exact fun _ => .inl rfl
    · exact fun _ _ failed => .inl failed
  · exact fun _ _ stopped => stopped

theorem get_then {α : Type} {action : Action} {stage : Stage} {rest : Mapping → Hub α}
    {post : Except PyError α → Stage → Prop}
    (allowed : action.Allows stage (.store (.selectSiam siamId)))
    (then_ : ∀ rows, (rest (mappingOf rows)).Follows (adminMonitor action) post
      (stage.next (.store (.selectSiam siamId)) (.ok rows)))
    (failed : ∀ error, post (.error error) .failed) :
    (SiamService.get.bind rest).Follows (adminMonitor action) post stage := by
  rw [SiamService.get, Prog.bind_eq, Prog.bind_assoc]
  exact statement_then allowed then_ failed

theorem save_follows (mapping : Json) (before : Mapping) (known : Bool) (doc : SiamRow)
    (id : doc.id = siamId) (written : doc.mapping = (SiamService.normalize mapping).toJson) :
    (save known doc).Follows (adminMonitor (.replace mapping)) (Reaches (.replaced before))
      (.mapped before known) := by
  cases known with
  | true =>
      apply (Prog.follows_perform _ _ _).mpr
      refine ⟨⟨rfl, id, written⟩, fun answer => ?_⟩
      cases answer <;> exact rfl
  | false =>
      apply (Prog.follows_perform _ _ _).mpr
      refine ⟨⟨id, written⟩, fun answer => ?_⟩
      cases answer <;> exact rfl

theorem replace_follows (actor : CurrentUser) (mapping : Json) (requestId : Option String) :
    (replace settings (revokeForUsersNoLongerAuthorized settings · · ·) actor mapping
      requestId).Follows (adminMonitor (.replace mapping)) (Action.replace mapping).Ends .idle := by
  apply get_then
  · exact rfl
  · intro rows
    apply logging_then logging_now
    · intro updatedAt
      apply statement_then
      · exact rfl
      · intro existing
        apply Prog.follows_then (save_follows mapping _ _ _ rfl rfl)
        · rintro _ stage rfl
          apply get_then
          · exact rfl
          · intro written
            apply logging_then (logging_record ..)
            · intro _
              by_cases same : mappingOf rows = mappingOf written
              · rw [Prog.when, if_neg (not_not.mpr same)]
                exact .inr ⟨mappingOf rows, by rw [Stage.next, ← same]⟩
              · rw [Prog.when, if_pos same, Prog.bind_eq, Prog.bind_assoc]
                apply Prog.follows_then
                  (revoke_unauthorized_follows settings mapping _ _ requestId)
                · exact fun _ _ reached => .inl reached
                · exact fun _ _ reached => .inl reached
            · exact fun _ => .inl rfl
          · exact fun _ => .inl rfl
        · exact fun _ _ failed => .inl failed
      · exact fun _ => .inl rfl
    · exact fun _ => .inl rfl
  · exact fun _ => .inl rfl

/-- The action a request carries out, if it is one of an admin. -/
def actionOf : Request → Option Action
  | .createInstance _ instanceId _ _ _ _ _ _ => some (.create instanceId)
  | .updateInstance _ instanceId changes _ => some (.update instanceId changes.enabled)
  | .deleteInstance _ instanceId _ => some (.delete instanceId)
  | .replaceMapping _ mapping _ => some (.replace mapping)
  | _ => none

theorem drop_ends {α : Type} {action : Action} {body : Hub α}
    (follows : body.Follows (adminMonitor action) action.Ends .idle) :
    (Prog.drop body).Follows (adminMonitor action) action.Ends .idle :=
  Prog.follows_then follows (fun _ _ settled => settled) fun _ _ stopped => stopped

theorem action_served (request : Request) (action : Action)
    (carries : actionOf request = some action) :
    (serve settings request).Follows (adminMonitor action) action.Ends .idle := by
  cases request with
  | createInstance actor instanceId typeId displayName config multi enabled requestId =>
      obtain rfl := Option.some.inj carries
      exact drop_ends (create_follows ..)
  | updateInstance actor instanceId changes requestId =>
      obtain rfl := Option.some.inj carries
      exact drop_ends (update_follows ..)
  | deleteInstance actor instanceId requestId =>
      obtain rfl := Option.some.inj carries
      exact delete_follows ..
  | replaceMapping actor mapping requestId =>
      obtain rfl := Option.some.inj carries
      exact drop_ends (replace_follows ..)
  | _ => cases carries

end Lehen.Administration
