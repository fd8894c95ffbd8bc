import Lehen.Requests

/-!
Which operations each program uses, whatever it is answered. Most helpers are
quiet: they neither read nor write connections, instances or the mapping.
-/

namespace Lehen.Footprint

open Storage OAuth SourceAdapter AuditService ConnectionsService IntegrationsService
open Prog (only_bind only_handle only_perform only_require only_lift only_when only_forEach only_mono
  only_of_straight straight_bind straight_perform straight_require straight_lift straight_lift_ok
  straight_mono)

def Quick (op : Op) : Prop := instant op = true

/-- Clock, random bytes and the two logs. -/
def Logging : Op → Prop
  | .store (.insertConsent _) | .store (.insertAudit _) | .clock | .tokenBytes _ | .uuid4 => True
  | _ => False

/-- Clock, random bytes and the log of admin mutations. -/
def Auditing : Op → Prop
  | .store (.insertAudit _) => True
  | op => Quick op

/-- What an admin action does besides running its cascade. -/
def Administering : Op → Prop
  | .store (.selectInstance _) | .store (.insertInstance _) | .store (.updateInstance _ _)
  | .store (.deleteInstance _) | .store (.selectSiam _) | .store (.insertSiam _)
  | .store (.updateSiam _ _) => True
  | op => Auditing op

/-- Logging and HTTP. -/
def Quiet : Op → Prop
  | .http _ => True
  | op => Logging op

/-- Calls to providers, the clock and random bytes. -/
def Distant : Op → Prop
  | .http _ => True
  | op => Quick op

/-- Reads of instances and the mapping, and what is distant. -/
def Gating : Op → Prop
  | .store (.selectInstance _) | .store (.selectSiam _) => True
  | op => Distant op

/-- Reads of active connections, instances and the mapping, and what is distant. -/
def Asking : Op → Prop
  | .store (.selectConnections (.withId _)) => False
  | .store (.selectConnections _) | .store (.selectInstance _) | .store (.selectSiam _)
  | .store (.selectMaxSeq _ _) => True
  | op => Distant op

/-- What token retrieval does: it reads and renews rows by their id. -/
def Renewing : Op → Prop
  | .store (.selectConnections (.withId _)) => True
  | .store (.updateConnections _ (.credentials _)) | .store (.updateConnections _ .stale) => True
  | op => Asking op

/-- No write to connections, instances or the mapping. -/
def Calm : Op → Prop
  | .store (.insertConnection _) | .store (.updateConnections _ _) | .store (.insertInstance _)
  | .store (.updateInstance _ _) | .store (.deleteInstance _) | .store (.insertSiam _)
  | .store (.updateSiam _ _) => False
  | _ => True

/-- Calm, or the update of a cascade. -/
def Withdrawing : Op → Prop
  | .store (.updateConnections _ (.withdraw _ _)) => True
  | op => Calm op

/-- Calm, or an update of connection rows. -/
def Updating : Op → Prop
  | .store (.updateConnections _ _) => True
  | op => Calm op

/-- No new connection row, and no instance row written. -/
def Diminishing : Op → Prop
  | .store (.insertConnection _) | .store (.insertInstance _) | .store (.updateInstance _ _) => False
  | _ => True

/-- Diminishing, or the write of a document for an instance, with its flag. -/
def Flagging (instanceId docId : String) (multi : Bool) : Op → Prop
  | .store (.insertInstance doc) => doc.id = docId ∧ doc.multiConnectionAllowed = multi
  | .store (.updateInstance id doc) =>
      id = instanceId ∧ doc.id = docId ∧ doc.multiConnectionAllowed = multi
  | op => Diminishing op

/-- Anything but a new connection row. -/
def Unlicensed : Op → Prop
  | .store (.insertConnection _) => False
  | _ => True

theorem logging_of_quick (op : Op) (quick : Quick op) : Logging op := by
  cases op with
  | store op => cases quick
  | http request => cases quick
  | _ => trivial

theorem auditing_of_quick (op : Op) (quick : Quick op) : Auditing op := by
  cases op with
  | store statement => cases quick
  | _ => exact quick

theorem logging_of_auditing (op : Op) (auditing : Auditing op) : Logging op := by
  cases op with
  | store statement => cases statement <;> trivial
  | _ => exact logging_of_quick _ auditing

theorem administering_of_auditing (op : Op) (auditing : Auditing op) : Administering op := by
  unfold Administering
  split <;> trivial

theorem administering_of_quick (op : Op) (quick : Quick op) : Administering op :=
  administering_of_auditing op (auditing_of_quick op quick)

theorem quiet_of_logging (op : Op) (logging : Logging op) : Quiet op := by
  cases op with
  | http request => trivial
  | _ => exact logging

theorem quiet_of_quick (op : Op) (quick : Quick op) : Quiet op :=
  quiet_of_logging op (logging_of_quick op quick)

theorem distant_of_quick (op : Op) (quick : Quick op) : Distant op := by
  cases op with
  | http request => trivial
  | _ => exact quick

theorem quiet_of_distant (op : Op) (distant : Distant op) : Quiet op := by
  cases op with
  | http request => trivial
  | _ => exact quiet_of_quick _ distant

theorem gating_of_distant (op : Op) (distant : Distant op) : Gating op := by
  unfold Gating
  split <;> trivial

theorem asking_of_distant (op : Op) (distant : Distant op) : Asking op := by
  cases op with
  | store statement => cases distant
  | _ => exact distant

theorem asking_of_gating (op : Op) (gating : Gating op) : Asking op := by
  cases op with
  | store statement => cases statement <;> trivial
  | _ => exact gating

theorem asking_of_quick (op : Op) (quick : Quick op) : Asking op :=
  asking_of_distant op (distant_of_quick op quick)

theorem renewing_of_asking (op : Op) (asking : Asking op) : Renewing op := by
  unfold Renewing
  split <;> trivial

theorem calm_of_quiet (op : Op) (quiet : Quiet op) : Calm op := by
  cases op with
  | store op => cases op <;> trivial
  | _ => trivial

theorem calm_of_asking (op : Op) (asking : Asking op) : Calm op := by
  cases op with
  | store statement => cases statement <;> trivial
  | _ => trivial

theorem updating_of_renewing (op : Op) (renewing : Renewing op) : Updating op := by
  cases op with
  | store statement => cases statement <;> trivial
  | _ => trivial

theorem updating_of_calm (op : Op) (calm : Calm op) : Updating op := by
  cases op with
  | store op => cases op <;> trivial
  | _ => trivial

theorem withdrawing_of_calm (op : Op) (calm : Calm op) : Withdrawing op := by
  unfold Withdrawing
  split
  · trivial
  · exact calm

theorem updating_of_withdrawing (op : Op) (withdrawing : Withdrawing op) : Updating op := by
  unfold Withdrawing at withdrawing
  split at withdrawing
  · trivial
  · exact updating_of_calm op withdrawing

theorem diminishing_of_updating (op : Op) (updating : Updating op) : Diminishing op := by
  cases op with
  | store statement => cases statement <;> trivial
  | _ => trivial

theorem diminishing_of_logging (op : Op) (logging : Logging op) : Diminishing op :=
  diminishing_of_updating op (updating_of_calm op (calm_of_quiet op (quiet_of_logging op logging)))

theorem flagging_of_diminishing {instanceId docId : String} {multi : Bool} (op : Op)
    (diminishing : Diminishing op) : Flagging instanceId docId multi op := by
  cases op with
  | store statement =>
      cases statement with
      | insertInstance doc => exact diminishing.elim
      | updateInstance id doc => exact diminishing.elim
      | _ => exact diminishing
  | _ => exact diminishing

theorem flagging_of_logging {instanceId docId : String} {multi : Bool} (op : Op)
    (logging : Logging op) : Flagging instanceId docId multi op :=
  flagging_of_diminishing op (diminishing_of_logging op logging)

theorem unlicensed_of_flagging {instanceId docId : String} {multi : Bool} (op : Op)
    (flagging : Flagging instanceId docId multi op) : Unlicensed op := by
  cases op with
  | store statement => cases statement <;> first | exact flagging.elim | trivial
  | _ => trivial

theorem unlicensed_of_diminishing (op : Op) (diminishing : Diminishing op) : Unlicensed op := by
  cases op with
  | store statement => cases statement <;> first | exact diminishing.elim | trivial
  | _ => trivial

theorem unlicensed_of_updating (op : Op) (updating : Updating op) : Unlicensed op := by
  cases op with
  | store op => cases op <;> trivial
  | _ => trivial

/-- The three tables that hold what the services decide. -/
structure SameTables (before after : Store) : Prop where
  connections : after.connections = before.connections
  instances : after.instances = before.instances
  siam : after.siam = before.siam

theorem same_tables_refl (store : Store) : SameTables store store := ⟨rfl, rfl, rfl⟩

theorem calm_tables {N : Type} (outside : Outside N) (op : Op) (world : World N) (calm : Calm op) :
    SameTables world.store (exec outside op world).2.store := by
  cases op with
  | store statement =>
      rcases exec_moves outside statement world with same | same
      · rw [same]
        exact same_tables_refl _
      · rw [same]
        cases statement <;> first | exact calm.elim | exact ⟨rfl, rfl, rfl⟩
  | _ =>
      rw [exec_elsewhere outside _ world (fun statement same => by cases same)]
      exact same_tables_refl _

theorem administering_tables {N : Type} (outside : Outside N) (op : Op) (world : World N)
    (administering : Administering op) :
    (exec outside op world).2.store.connections = world.store.connections ∧
      (exec outside op world).2.store.consents = world.store.consents := by
  cases op with
  | store statement =>
      rcases exec_moves outside statement world with same | same
      · rw [same]
        exact ⟨rfl, rfl⟩
      · rw [same]
        cases statement <;> first | exact ⟨rfl, rfl⟩ | cases administering
  | _ =>
      rw [exec_elsewhere outside _ world (fun statement same => by cases same)]
      exact ⟨rfl, rfl⟩

theorem asking_store {N : Type} (outside : Outside N) (op : Op) (world : World N)
    (asking : Asking op) : (exec outside op world).2.store = world.store := by
  cases op with
  | store statement =>
      rcases exec_moves outside statement world with same | same
      · exact same
      · rw [same]
        cases statement <;> first | rfl | cases asking
  | _ => exact exec_elsewhere outside _ world fun statement same => by cases same

/-- Without a license the connection rows stay, or some of them are updated. -/
theorem unlicensed_rows {N : Type} (outside : Outside N) (op : Op) (world : World N)
    (unlicensed : Unlicensed op) :
    (exec outside op world).2.store.connections = world.store.connections ∨
      ∃ id set, (exec outside op world).2.store.connections =
        setWhereId id set world.store.connections := by
  cases op with
  | store statement =>
      rcases exec_moves outside statement world with same | same
      · exact .inl (by rw [same])
      · rw [same]
        cases statement with
        | insertConnection row => exact unlicensed.elim
        | updateConnections id set => exact .inr ⟨id, set, rfl⟩
        | _ => exact .inl rfl
  | _ =>
      rw [exec_elsewhere outside _ world (fun statement same => by cases same)]
      exact .inl rfl

theorem logging_succeeds {N : Type} {outside : Outside N} (reliable : outside.Reliable) (op : Op)
    (world : World N) (logging : Logging op) :
    ∃ value, (exec outside op world).1 = .ok value := by
  cases op with
  | store statement => exact ⟨_, (exec_reliable reliable statement world).1⟩
  | http request => exact logging.elim
  | _ => exact ⟨_, rfl⟩

/-! Quick helpers. -/

theorem quick_perform {op : Op} {raises : Prop} (quick : instant op = true) :
    (Prog.perform op : Hub op.Res).Straight Quick raises := straight_perform quick

theorem quick_encrypt (settings : Settings) (plaintext : String) (key : Base64.Bytes) :
    (encryptFresh settings plaintext key).Straight Quick True :=
  straight_bind (quick_perform rfl) fun _ => straight_lift _

theorem quick_request_id (requestId : Option String) :
    (requestIdOr requestId).Straight Quick False := by
  cases requestId with
  | none => exact quick_perform rfl
  | some given =>
      unfold requestIdOr
      dsimp only
      split
      · exact quick_perform rfl
      · trivial

theorem quick_clock (nowTs : Option Int) : (readClock nowTs).Straight Quick False := by
  cases nowTs with
  | none => exact straight_bind (quick_perform rfl) fun _ => trivial
  | some given => trivial

theorem quick_decode_state (settings : Settings) (encoded : String) (key : Base64.Bytes) :
    (decodeState settings encoded key).Straight Quick True := by
  apply straight_bind (straight_lift _)
  intro flow
  exact straight_bind (quick_perform rfl) fun instant => straight_lift _

theorem quick_authorization_url (settings : Settings)
    (authEndpoint clientId redirectUri : String) (scopes : List String)
    (userSub instanceId : String) (stateKey : Base64.Bytes)
    (extraParams : List (String × String)) :
    (buildAuthorizationUrl settings authEndpoint clientId redirectUri scopes userSub instanceId
      stateKey extraParams).Straight Quick True := by
  have pkce : (generatePkce settings).Straight Quick True :=
    straight_bind (quick_perform rfl) fun _ => trivial
  apply straight_bind pkce
  intro pkce
  apply straight_bind (quick_perform rfl)
  intro random
  apply straight_bind (quick_perform rfl)
  intro instant
  exact straight_bind (quick_encrypt settings _ _) fun state => trivial

theorem quick_split_fields (settings : Settings) (config : Dict Json) (split : SplitConfig)
    (fields : List Registry.FieldSpec) :
    (splitFields settings config split fields).Straight Quick True := by
  induction fields generalizing split with
  | nil => trivial
  | cons field rest ih =>
      apply straight_bind (straight_require _ _)
      intro _
      split
      · exact ih split
      · exact ih split
      · split
        · exact straight_bind (quick_encrypt settings _ _) fun envelope => ih _
        · exact ih _

theorem quick_split_config (settings : Settings) (spec : Registry.IntegrationType)
    (config : Dict Json) : (splitConfig settings spec config).Straight Quick True :=
  straight_bind (straight_require _ _) fun _ => quick_split_fields settings config _ _

theorem quick_split_changes (settings : Settings) (spec : Registry.IntegrationType)
    (changes : Changes) : (splitChanges settings spec changes).Straight Quick True := by
  unfold splitChanges
  split
  · trivial
  · exact quick_split_config settings spec _

/-! The two logs: what writes them raises nothing of its own. -/

theorem logging_request_id (requestId : Option String) :
    (requestIdOr requestId).Straight Logging False :=
  straight_mono (quick_request_id requestId) logging_of_quick id

theorem logging_now : now.Straight Logging False := straight_perform trivial

theorem auditing_record (settings : Settings) (event : AuditEvent) :
    (record settings event).Straight Auditing False := by
  obtain ⟨before, maskedBefore⟩ := mask_secrets_total settings event.before event.secretFields
  obtain ⟨after, maskedAfter⟩ := mask_secrets_total settings event.after event.secretFields
  have quick (op : Op) (fast : instant op = true) :
      (Prog.perform op : Hub op.Res).Straight Auditing False :=
    straight_mono (quick_perform fast) auditing_of_quick fun raises => raises
  rw [record, maskedBefore, maskedAfter]
  apply straight_bind (quick .uuid4 rfl)
  intro id
  apply straight_bind (quick .clock rfl)
  intro ts
  apply straight_bind (straight_lift_ok _)
  intro before
  apply straight_bind (straight_lift_ok _)
  intro after
  apply straight_bind (straight_mono (quick_request_id _) auditing_of_quick fun raises => raises)
  intro requestId
  exact straight_perform trivial

theorem logging_record (settings : Settings) (event : AuditEvent) :
    (record settings event).Straight Logging False :=
  straight_mono (auditing_record settings event) logging_of_auditing fun raises => raises

theorem logging_record_consent (settings : Settings) (user : CurrentUser) (action instanceId : String)
    (seq : Nat) (privacyClass externalSubject : String) (requestId : Option String) (ts : Time) :
    (recordConsent settings user action instanceId seq privacyClass externalSubject requestId
      ts).Straight Logging False := by
  apply straight_bind (straight_perform trivial)
  intro id
  apply straight_bind (logging_request_id _)
  intro requestId
  exact straight_perform trivial

theorem logging_record_withdrawal (settings : Settings) (row : ConnectionRow) (reason : String)
    (requestId : Option String) (ts : Time) :
    (recordWithdrawal settings row reason requestId ts).Straight Logging False := by
  apply straight_bind (straight_perform trivial)
  intro id
  apply straight_bind (logging_request_id _)
  intro requestId
  exact straight_perform trivial

/-! Calls to providers. -/

theorem distant_post_token (url : String) (body : List (String × String)) (nowTs : Option Int) :
    (postTokenEndpoint url body nowTs).Only Distant := by
  refine only_bind (only_handle (only_perform trivial) fun exc => ?_) fun response => ?_
  · split <;> trivial
  · refine only_bind (only_lift _) fun data => ?_
    refine only_bind ?_ fun issuedAt => only_lift _
    exact only_of_straight (quick_clock nowTs) distant_of_quick

theorem distant_identity (accessToken : String) : (fetchUserIdentity accessToken).Only Distant := by
  refine only_bind (only_handle (only_perform trivial) fun exc => ?_) fun response => only_lift _
  split <;> trivial

theorem distant_health (accessToken : String) : (health accessToken).Only Distant := by
  refine only_handle (only_bind (only_perform trivial) fun response => trivial) fun exc => ?_
  split <;> trivial

/-! Programs that read, and those that update connection rows. -/

theorem gating_gates (user : CurrentUser) (instanceId : String) :
    (passGates user instanceId).Only Gating := by
  refine only_bind (only_bind (only_perform trivial) fun rows => trivial) fun found => ?_
  split
  · refine only_bind (only_require _ _) fun _ => ?_
    refine only_bind ?_ fun authorized => only_bind (only_require _ _) fun _ => trivial
    exact only_bind (only_bind (only_perform trivial) fun rows => trivial) fun mapping => trivial
  · trivial

theorem asking_gates (user : CurrentUser) (instanceId : String) :
    (passGates user instanceId).Only Asking :=
  only_mono (gating_gates user instanceId) asking_of_gating

theorem asking_unconnected (userSub instanceId externalSubject text : String) :
    (requireUnconnected userSub instanceId externalSubject text).Only Asking :=
  only_bind (only_perform trivial) fun _ => only_require _ _

theorem asking_seq (userSub instanceId : String) : (nextSeq userSub instanceId).Only Asking :=
  only_bind (only_perform trivial) fun _ => trivial

theorem gating_authorize (settings : Settings) (user : CurrentUser) (instanceId code state : String) :
    (authorize settings user instanceId code state).Only Gating := by
  apply only_bind (only_of_straight (quick_decode_state ..) fun op quick =>
    gating_of_distant op (distant_of_quick op quick))
  intro flow
  apply only_bind (only_require _ _)
  intro _
  apply only_bind (only_require _ _)
  intro _
  apply only_bind (gating_gates user instanceId)
  intro row
  apply only_bind (only_lift _)
  intro adapter
  apply only_bind (only_require _ _)
  intro _
  apply only_bind (only_lift _)
  intro clientSecret
  apply only_bind (only_mono (distant_post_token ..) gating_of_distant)
  intro tokens
  apply only_bind (only_mono (distant_identity _) gating_of_distant)
  intro identity
  exact only_bind (only_mono (distant_health _) gating_of_distant) fun _ => trivial

theorem asking_authorize (settings : Settings) (user : CurrentUser) (instanceId code state : String) :
    (authorize settings user instanceId code state).Only Asking :=
  only_mono (gating_authorize settings user instanceId code state) asking_of_gating

theorem asking_initiate (settings : Settings) (user : CurrentUser) (instanceId redirectUri : String) :
    (initiateGrant settings user instanceId redirectUri).Only Asking := by
  apply only_bind (asking_gates user instanceId)
  intro row
  apply only_bind (only_require _ _)
  intro _
  apply only_bind (only_lift _)
  intro adapter
  apply only_bind (only_require _ _)
  intro _
  exact only_of_straight (quick_authorization_url ..) asking_of_quick

theorem updating_revoke (settings : Settings) (user : CurrentUser) (instanceId : String)
    (externalSubject requestId : Option String) :
    (revoke settings user instanceId externalSubject requestId).Only Updating := by
  apply only_bind (only_perform trivial)
  intro active
  apply only_bind (only_require _ _)
  intro _
  apply only_bind (only_perform trivial)
  intro instant
  apply only_forEach
  intro row
  refine only_bind (only_perform trivial) fun _ => ?_
  exact only_of_straight (logging_record_consent ..) fun op logging =>
    updating_of_calm op (calm_of_quiet op (quiet_of_logging op logging))

theorem withdrawing_withdraw (settings : Settings) (reason : String) (requestId : Option String)
    (ts : Time) (row : ConnectionRow) :
    (withdraw settings reason requestId ts row).Only Withdrawing := by
  apply only_bind (only_perform trivial)
  intro _
  exact only_of_straight (logging_record_withdrawal ..) fun op logging =>
    withdrawing_of_calm op (calm_of_quiet op (quiet_of_logging op logging))

theorem withdrawing_revoke_all (settings : Settings) (instanceId reason : String)
    (requestId : Option String) :
    (revokeAllForInstance settings instanceId reason requestId).Only Withdrawing := by
  apply only_bind (only_perform trivial)
  intro active
  split
  · trivial
  · refine only_bind (only_perform trivial) fun instant => ?_
    exact only_bind (only_forEach fun row => withdrawing_withdraw ..) fun _ => trivial

theorem withdrawing_revoke_unauthorized (settings : Settings)
    (previousMapping newMapping : SiamService.Mapping) (requestId : Option String) :
    (revokeForUsersNoLongerAuthorized settings previousMapping newMapping requestId).Only
      Withdrawing := by
  apply only_bind (only_perform trivial)
  intro active
  split
  · trivial
  · refine only_bind (only_perform trivial) fun instant => ?_
    exact only_bind (only_forEach fun row => withdrawing_withdraw ..) fun _ => trivial

theorem asking_refresh (settings : Settings) (row : ConnectionRow) (tokens : OAuthTokens)
    (nowTs : Int) : (refreshOnce settings row tokens nowTs).Only Asking := by
  unfold refreshOnce
  split
  · trivial
  · refine only_bind (only_bind (only_perform trivial) fun rows => trivial) fun found => ?_
    split
    · refine only_handle (only_bind ?_ fun fresh => trivial) fun exc => ?_
      · refine only_bind (only_lift _) fun adapter => only_bind (only_lift _) fun secret => ?_
        exact only_mono (distant_post_token ..) asking_of_distant
      · split <;> trivial
    · trivial

theorem renewing_access_token (settings : Settings) (id : String) (clockSkewSeconds : Int)
    (nowTs : Option Int) :
    (getValidAccessToken settings id clockSkewSeconds nowTs).Only Renewing := by
  have stale (id : String) : (markStale id).Only Renewing := only_perform trivial
  have quick (op : Op) (quick : Quick op) : Renewing op :=
    renewing_of_asking op (asking_of_quick op quick)
  refine only_bind (only_bind (only_perform trivial) fun rows => trivial) fun found => ?_
  split
  · split
    · exact only_bind (stale _) fun _ => trivial
    · refine only_bind (only_of_straight (quick_clock nowTs) quick) fun instant => ?_
      split
      · trivial
      · refine only_bind (only_mono (asking_refresh ..) renewing_of_asking) fun refreshed => ?_
        split
        · exact only_bind (stale _) fun _ => trivial
        · refine only_bind (only_bind (only_of_straight (quick_encrypt ..) quick)
            fun encrypted => only_perform trivial) fun _ => trivial
  · trivial

theorem only_drop {α : Type} {body : Hub α} {allowed : Op → Prop} (only : body.Only allowed) :
    (Prog.drop body).Only allowed :=
  only_bind only fun _ => trivial

/-- Requests that neither grant nor administer. -/
def Bystander : Request → Prop
  | .initiateGrant .. | .revoke .. | .revokeAllForInstance ..
  | .revokeForUsersNoLongerAuthorized .. | .getValidAccessToken .. => True
  | _ => False

theorem updating_bystander (settings : Settings) (request : Request)
    (bystander : Bystander request) : (serve settings request).Only Updating := by
  cases request with
  | initiateGrant user instanceId redirectUri =>
      exact only_drop (only_mono (asking_initiate ..) fun op asking =>
        updating_of_calm op (calm_of_asking op asking))
  | revoke user instanceId externalSubject requestId => exact updating_revoke ..
  | revokeAllForInstance instanceId reason requestId =>
      exact only_drop (only_mono (withdrawing_revoke_all ..) updating_of_withdrawing)
  | revokeForUsersNoLongerAuthorized previousMapping newMapping requestId =>
      exact only_drop (only_mono (withdrawing_revoke_unauthorized ..) updating_of_withdrawing)
  | getValidAccessToken id clockSkewSeconds nowTs => exact only_drop (only_mono (renewing_access_token ..) updating_of_renewing)
  | _ => exact bystander.elim

/-! Admin requests change the gates, but insert no connection row. -/

theorem only_raw_get {allowed : Op → Prop} (instanceId : String)
    (reads : allowed (.store (.selectInstance instanceId))) : (rawGet instanceId).Only allowed := by
  apply only_bind (only_perform reads)
  intro rows
  split <;> trivial

theorem flagging_create (settings : Settings) (actor : CurrentUser)
    (instanceId typeId displayName : String) (config : Dict Json)
    (multiConnectionAllowed enabled : Bool) (requestId : Option String) :
    (create settings actor instanceId typeId displayName config multiConnectionAllowed enabled
      requestId).Only (Flagging instanceId instanceId multiConnectionAllowed) := by
  apply only_bind (only_lift _)
  intro spec
  apply only_bind (only_require _ _)
  intro _
  apply only_bind (only_perform trivial)
  intro existing
  apply only_bind (only_require _ _)
  intro _
  apply only_bind (only_of_straight (quick_split_config settings spec config) fun op quick =>
    flagging_of_logging op (logging_of_quick op quick))
  intro split
  apply only_bind (only_perform trivial)
  intro instant
  apply only_bind (only_perform ⟨rfl, rfl⟩)
  intro _
  exact only_bind (only_of_straight (logging_record ..) flagging_of_logging) fun _ => trivial

/-- After its read an update writes the row it read, with the flag it was sent
or the one the row had. -/
theorem flagging_update (settings : Settings) (actor : CurrentUser) (instanceId : String)
    (changes : Changes) (requestId : Option String) :
    ∃ rest : InstanceRow → Hub InstanceView,
      update settings (revokeAllForInstance settings · · ·) actor instanceId changes requestId =
          (rawGet instanceId).bind rest ∧
        ∀ before, (rest before).Only (Flagging instanceId before.id
          (changes.multiConnectionAllowed.getD before.multiConnectionAllowed)) := by
  refine ⟨_, rfl, fun before => ?_⟩
  apply only_bind (only_lift _)
  intro spec
  apply only_bind (only_require _ _)
  intro _
  apply only_bind (only_of_straight (quick_split_changes settings spec changes) fun op quick =>
    flagging_of_logging op (logging_of_quick op quick))
  intro split
  apply only_bind (only_perform trivial)
  intro instant
  apply only_bind (only_perform ⟨rfl, rfl, rfl⟩)
  intro _
  apply only_bind (only_of_straight (logging_record ..) flagging_of_logging)
  intro _
  apply only_bind (only_when (only_mono (withdrawing_revoke_all ..) fun op withdrawing =>
    flagging_of_diminishing op (diminishing_of_updating op (updating_of_withdrawing op withdrawing))))
  intro _
  trivial

theorem diminishing_delete (settings : Settings) (actor : CurrentUser) (instanceId : String)
    (requestId : Option String) :
    (delete settings (revokeAllForInstance settings · · ·) actor instanceId requestId).Only
      Diminishing := by
  apply only_bind (only_raw_get instanceId trivial)
  intro before
  apply only_bind (only_mono (withdrawing_revoke_all ..) fun op withdrawing =>
    diminishing_of_updating op (updating_of_withdrawing op withdrawing))
  intro _
  apply only_bind (only_perform trivial)
  intro _
  apply only_bind (only_lift _)
  intro spec
  exact only_of_straight (logging_record ..) diminishing_of_logging

theorem diminishing_replace (settings : Settings) (actor : CurrentUser) (mapping : Json)
    (requestId : Option String) :
    (SiamService.replace settings (revokeForUsersNoLongerAuthorized settings · · ·) actor mapping
      requestId).Only Diminishing := by
  have get : SiamService.get.Only Diminishing := only_bind (only_perform trivial) fun _ => trivial
  apply only_bind get
  intro before
  apply only_bind (only_perform trivial)
  intro updatedAt
  apply only_bind (only_perform trivial)
  intro existing
  apply only_bind
  · unfold SiamService.save
    split <;> exact only_perform trivial
  · intro _
    apply only_bind get
    intro after
    apply only_bind (only_of_straight (logging_record ..) diminishing_of_logging)
    intro _
    apply only_bind (only_when (only_mono (withdrawing_revoke_unauthorized ..) fun op withdrawing =>
      diminishing_of_updating op (updating_of_withdrawing op withdrawing)))
    intro _
    trivial

theorem unlicensed_update (settings : Settings) (actor : CurrentUser) (instanceId : String)
    (changes : Changes) (requestId : Option String) :
    (update settings (revokeAllForInstance settings · · ·) actor instanceId changes
      requestId).Only Unlicensed := by
  obtain ⟨rest, same, flagging⟩ := flagging_update settings actor instanceId changes requestId
  rw [same]
  apply only_bind (only_raw_get instanceId trivial)
  intro before
  exact only_mono (flagging before) unlicensed_of_flagging

end Lehen.Footprint
