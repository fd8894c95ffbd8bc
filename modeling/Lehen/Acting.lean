import Lehen.Routes

/-!
What the endpoints do to the database in the name of the user they were given: an admin
signs what is written, and a user writes rows of the user's own.
-/

namespace Lehen.Acting

open Storage OAuth AuditService ConnectionsService IntegrationsService Footprint Routes
open LlmService (llmConfigId)
open Prog (only_bind only_handle only_perform only_require only_lift only_when only_forEach only_mono
  only_of_straight only_of_yields)

/-- What a request of an admin may await. -/
def Signing (actor : CurrentUser) : Op → Prop
  | .store (.insertAudit event) =>
      event.actorSub = actor.sub ∧ event.actorUsername = actor.username
  | .store (.insertInstance doc) | .store (.updateInstance _ doc) => doc.updatedBy = actor.username
  | .store (.insertSiam doc) | .store (.updateSiam _ doc) => doc.updatedBy = actor.username
  | .store (.updateLlm _ doc) => doc.lookup "updated_by" = some (.str actor.username)
  | .store (.updateConnections _ set) => ∃ ts reason, set = .withdraw ts reason
  | .store (.insertConsent event) => event.action ≠ "granted"
  | .store (.insertConnection _) | .store (.insertLogin _) => False
  | _ => True

/-- What a request of a user may await. -/
def Owning (user : CurrentUser) : Op → Prop
  | .store (.insertConnection row) => row.userSub = user.sub ∧ row.username = user.username
  | .store (.insertConsent event) => event.userSub = user.sub ∧ event.username = user.username
  | .store (.insertLogin event) => event.userSub = user.sub ∧ event.username = user.username
  | .store (.updateConnections _ set) => ∃ ts, set = .disconnect ts
  | .store (.insertAudit _) | .store (.insertInstance _) | .store (.updateInstance _ _)
  | .store (.deleteInstance _) | .store (.insertSiam _) | .store (.updateSiam _ _)
  | .store (.updateLlm _ _) => False
  | _ => True

theorem signing_of_quick {actor : CurrentUser} (op : Op) (quick : Quick op) : Signing actor op := by
  cases op with
  | store statement => cases quick
  | _ => trivial

theorem owning_of_asking {user : CurrentUser} (op : Op) (asking : Asking op) : Owning user op := by
  cases op with
  | store statement => cases statement <;> trivial
  | _ => trivial

theorem owning_of_quick {user : CurrentUser} (op : Op) (quick : Quick op) : Owning user op :=
  owning_of_asking op (asking_of_quick op quick)

section Generic

variable {allowed : Op → Prop} {α β : Type}

theorem only_map {Await : Type} {Res : Await → Type} {kept : Await → Prop} {body : Prog Await Res PyError α}
    (make : α → β) (only : body.Only kept) : (make <$> body).Only kept :=
  only_bind only fun _ => trivial

theorem only_check {Await : Type} {Res : Await → Type} {kept : Await → Prop} (high : Nat) (text : String) :
    (checkLength high text : Prog Await Res PyError Unit).Only kept :=
  only_bind (only_require _ _) fun _ => only_require _ _

theorem only_excepting {answers : List (ErrorKind × Nat × String)} {body : Hub α} (only : body.Only allowed) :
    (excepting answers body).Only allowed := by
  refine only_handle only fun exc => ?_
  split <;> trivial

end Generic

/-! The admin surface. -/
section Admin

variable (settings : Settings) {actor : CurrentUser}

theorem signing_record {event : AuditEvent} (signed : event.actorSub = actor.sub)
    (named : event.actorUsername = actor.username) : (record settings event).Only (Signing actor) := by
  apply only_bind (only_perform trivial)
  intro id
  apply only_bind (only_perform trivial)
  intro ts
  apply only_bind (only_lift _)
  intro before
  apply only_bind (only_lift _)
  intro after
  apply only_bind (only_of_straight (quick_request_id _) signing_of_quick)
  intro requestId
  exact only_perform ⟨signed, named⟩

theorem signing_withdraw {reason : String} (cascades : reason ≠ "granted") (requestId : Option String)
    (ts : Time) (row : ConnectionRow) : (withdraw settings reason requestId ts row).Only (Signing actor) := by
  apply only_bind (only_perform ⟨ts, reason, rfl⟩)
  intro _
  apply only_bind (only_perform trivial)
  intro id
  apply only_bind (only_of_straight (quick_request_id requestId) signing_of_quick)
  intro requestId
  exact only_perform cascades

theorem signing_revoke_all (instanceId : String) {reason : String} (cascades : reason ≠ "granted")
    (requestId : Option String) :
    (revokeAllForInstance settings instanceId reason requestId).Only (Signing actor) := by
  apply only_bind (only_perform trivial)
  intro active
  split
  · trivial
  · apply only_bind (only_perform trivial)
    intro instant
    exact only_bind (only_forEach fun row => signing_withdraw settings cascades ..) fun _ => trivial

theorem signing_revoke_unauthorized (previousMapping newMapping : SiamService.Mapping)
    (requestId : Option String) :
    (revokeForUsersNoLongerAuthorized settings previousMapping newMapping requestId).Only (Signing actor) := by
  apply only_bind (only_perform trivial)
  intro active
  split
  · trivial
  · apply only_bind (only_perform trivial)
    intro instant
    exact only_bind (only_forEach fun row => signing_withdraw settings (by decide) ..) fun _ => trivial

theorem signing_create (instanceId typeId displayName : String) (config : Dict Json)
    (multiConnectionAllowed enabled : Bool) (requestId : Option String) :
    (create settings actor instanceId typeId displayName config multiConnectionAllowed enabled
      requestId).Only (Signing actor) := by
  apply only_bind (only_lift _)
  intro spec
  apply only_bind (only_require _ _)
  intro _
  apply only_bind (only_perform trivial)
  intro existing
  apply only_bind (only_require _ _)
  intro _
  apply only_bind (only_of_straight (quick_split_config settings spec config) signing_of_quick)
  intro split
  apply only_bind (only_perform trivial)
  intro instant
  apply only_bind (only_perform ?_)
  · intro _
    exact only_bind (signing_record settings rfl rfl) fun _ => trivial
  · rfl

theorem signing_update (instanceId : String) (changes : Changes) (requestId : Option String) :
    (update settings (revokeAllForInstance settings · · ·) actor instanceId changes requestId).Only
      (Signing actor) := by
  apply only_bind (only_raw_get instanceId trivial)
  intro before
  apply only_bind (only_lift _)
  intro spec
  apply only_bind (only_require _ _)
  intro _
  apply only_bind (only_of_straight (quick_split_changes settings spec changes) signing_of_quick)
  intro split
  apply only_bind (only_perform trivial)
  intro instant
  apply only_bind (only_perform ?_)
  · intro _
    apply only_bind (signing_record settings rfl rfl)
    intro _
    exact only_bind (only_when (signing_revoke_all settings instanceId (by decide) requestId)) fun _ => trivial
  · rfl

theorem signing_delete (instanceId : String) (requestId : Option String) :
    (delete settings (revokeAllForInstance settings · · ·) actor instanceId requestId).Only
      (Signing actor) := by
  apply only_bind (only_raw_get instanceId trivial)
  intro before
  apply only_bind (signing_revoke_all settings instanceId (by decide) requestId)
  intro _
  apply only_bind (only_perform trivial)
  intro _
  apply only_bind (only_lift _)
  intro spec
  exact signing_record settings rfl rfl

theorem signing_llm_get : LlmService.get.Only (Signing actor) := by
  apply only_bind (only_perform trivial)
  intro rows
  split <;> trivial

theorem signing_llm_raw : LlmService.rawGet.Only (Signing actor) := by
  apply only_bind (only_perform trivial)
  intro rows
  split <;> trivial

theorem signing_llm_update (inference embedding : Option (Dict Json)) (requestId : Option String) :
    (LlmService.update settings actor inference embedding requestId).Only (Signing actor) := by
  apply only_bind (only_require _ _)
  intro _
  apply only_bind signing_llm_raw
  intro beforeRaw
  have given (side : LlmService.Side) (payload : Option (Dict Json)) (draft : LlmService.Draft) :
      (LlmService.applyGiven settings side payload draft).Only (Signing actor) :=
    only_mono (only_of_yields (Configuring.yields_given settings side payload draft)) signing_of_quick
  apply only_bind (given .inference inference _)
  intro first
  apply only_bind (given .embedding embedding first)
  intro draft
  apply only_bind (only_perform trivial)
  intro instant
  apply only_bind (only_perform ?_)
  · intro _
    apply only_bind (signing_record settings rfl rfl)
    intro _
    exact only_bind signing_llm_raw fun _ => trivial
  · have apart : "updated_by" ≠ "updated_at" := by decide
    exact (AList.lookup_insert_ne apart).trans (AList.lookup_insert _)

theorem signing_siam_get : SiamService.get.Only (Signing actor) :=
  only_bind (only_perform trivial) fun _ => trivial

theorem signing_replace (mapping : Json) (requestId : Option String) :
    (SiamService.replace settings (revokeForUsersNoLongerAuthorized settings · · ·) actor mapping
      requestId).Only (Signing actor) := by
  apply only_bind signing_siam_get
  intro before
  apply only_bind (only_perform trivial)
  intro updatedAt
  apply only_bind (only_perform trivial)
  intro existing
  apply only_bind
  · unfold SiamService.save
    split
    · exact only_perform rfl
    · exact only_perform rfl
  · intro _
    apply only_bind signing_siam_get
    intro after
    apply only_bind (signing_record settings rfl rfl)
    intro _
    exact only_bind (only_when (signing_revoke_unauthorized settings before after requestId)) fun _ => trivial

/-- Every endpoint of the admin surface signs what it writes. -/
theorem admin_signs (requestId : String) (route : AdminRoute) :
    (route.serve settings actor requestId).Only (Signing actor) := by
  cases route with
  | whoami => trivial
  | listProviders => trivial
  | listTypes => trivial
  | getLlm => exact only_map _ (only_excepting signing_llm_get)
  | updateLlm inference embedding =>
      apply only_map
      apply only_bind (only_require _ _)
      intro _
      apply only_bind (only_require _ _)
      exact fun _ => only_excepting (signing_llm_update settings inference embedding _)
  | listInstances => exact only_map _ (only_bind (only_perform trivial) fun _ => trivial)
  | createInstance payload =>
      apply only_map
      apply only_bind (only_check _ _)
      intro _
      apply only_bind (only_check _ _)
      exact fun _ => only_excepting (signing_create settings ..)
  | updateInstance instanceId payload =>
      apply only_map
      apply only_bind
      · unfold checkGiven
        split
        · trivial
        · exact only_check _ _
      · intro _
        apply only_bind (only_require _ _)
        exact fun _ => only_excepting (signing_update settings instanceId payload _)
  | deleteInstance instanceId =>
      exact only_bind (only_excepting (signing_delete settings instanceId _)) fun _ => trivial
  | getSiam => exact only_map _ signing_siam_get
  | replaceSiam mapping => exact only_map _ (signing_replace settings mapping.toJson _)
  | listAudit limit offset =>
      apply only_bind
      · apply only_bind (only_require _ _)
        intro _
        apply only_bind (only_require _ _)
        intro _
        apply only_bind (only_require _ _)
        exact fun _ => only_perform trivial
      · exact fun _ => trivial

end Admin

/-! The user surface. -/
section User

variable (settings : Settings) {user : CurrentUser}

theorem owning_record (action instanceId : String) (seq : Nat) (privacyClass externalSubject : String)
    (requestId : Option String) (ts : Time) :
    (recordConsent settings user action instanceId seq privacyClass externalSubject requestId ts).Only
      (Owning user) := by
  apply only_bind (only_perform trivial)
  intro id
  apply only_bind (only_of_straight (quick_request_id requestId) owning_of_quick)
  intro requestId
  exact only_perform ⟨rfl, rfl⟩

theorem owning_grant (instanceId privacyClass externalSubject displayLabel : String)
    (requestId : Option String) :
    (grant settings user instanceId privacyClass externalSubject displayLabel requestId).Only
      (Owning user) := by
  apply only_bind (only_mono (asking_gates user instanceId) owning_of_asking)
  intro place
  apply only_bind (only_mono (asking_unconnected ..) owning_of_asking)
  intro _
  apply only_bind (only_mono (asking_seq ..) owning_of_asking)
  intro seq
  apply only_bind (only_perform trivial)
  intro instant
  apply only_bind (only_perform ?_)
  · intro _
    exact only_bind (owning_record settings ..) fun _ => trivial
  · exact ⟨rfl, rfl⟩

theorem owning_revoke (instanceId : String) (externalSubject requestId : Option String) :
    (revoke settings user instanceId externalSubject requestId).Only (Owning user) := by
  apply only_bind (only_perform trivial)
  intro active
  apply only_bind (only_require _ _)
  intro _
  apply only_bind (only_perform trivial)
  intro instant
  apply only_forEach
  intro row
  exact only_bind (only_perform ⟨instant, rfl⟩) fun _ => owning_record settings ..

theorem owning_complete (instanceId code state : String) (requestId : Option String) :
    (completeGrant settings user instanceId code state requestId).Only (Owning user) := by
  apply only_bind (only_mono (asking_authorize ..) owning_of_asking)
  intro granted
  apply only_bind (only_mono (asking_unconnected ..) owning_of_asking)
  intro _
  apply only_bind (only_mono (asking_seq ..) owning_of_asking)
  intro seq
  apply only_bind (only_perform trivial)
  intro instant
  apply only_bind (only_of_straight (quick_encrypt ..) owning_of_quick)
  intro envelope
  apply only_bind (only_perform ?_)
  · intro _
    exact only_bind (owning_record settings ..) fun _ => trivial
  · exact ⟨rfl, rfl⟩

theorem owning_me (days : Nat) (requestId : Option String) :
    (MeService.me days user requestId).Only (Owning user) := by
  have mapped : SiamService.get.Only (Owning user) := only_bind (only_perform trivial) fun _ => trivial
  have listed : IntegrationsService.list.Only (Owning user) := only_bind (only_perform trivial) fun _ => trivial
  apply only_bind mapped
  intro mapping
  apply only_bind listed
  intro instances
  apply only_bind (only_perform trivial)
  intro connections
  refine only_bind ?_ fun _ => trivial
  apply only_bind (only_perform trivial)
  intro ts
  apply only_bind (only_perform trivial)
  intro id
  apply only_bind (only_of_straight (quick_request_id requestId) owning_of_quick)
  intro requestId
  exact only_perform ⟨rfl, rfl⟩

/-- Every endpoint of the user surface writes rows of its user. -/
theorem user_owns (settings : AppSettings) (requestId : String) (route : UserRoute) :
    (route.serve settings user requestId).Only (Owning user) := by
  cases route with
  | me => exact only_map _ (owning_me settings.loginEventDays _)
  | listMyConnections => exact only_map _ (only_bind (only_perform trivial) fun _ => trivial)
  | grantMyConnection instanceId privacyClass =>
      apply only_map
      apply only_bind (only_require _ _)
      exact fun _ => only_excepting (owning_grant settings.hub ..)
  | revokeMyConnection instanceId =>
      exact only_bind (only_excepting (owning_revoke settings.hub ..)) fun _ => trivial
  | initiateGrantMyConnection instanceId redirectUri =>
      apply only_map
      apply only_bind (only_check _ _)
      exact fun _ => only_excepting (only_mono (asking_initiate ..) owning_of_asking)
  | completeGrantMyConnection instanceId code state =>
      apply only_map
      apply only_bind (only_check _ _)
      intro _
      apply only_bind (only_check _ _)
      exact fun _ => only_excepting (owning_complete settings.hub ..)

end User

end Lehen.Acting
