import Lehen.Footprint
import Lehen.LlmService

/-!
The operations of the admin surface with what they answer, wired as
`main.lifespan` wires the services.
-/

namespace Lehen

open Storage OAuth AuditService IntegrationsService ConnectionsService
open LlmService (LlmView)
open SiamService (Mapping)

inductive AdminCall where
  | createInstance (actor : CurrentUser) (instanceId typeId displayName : String)
      (config : Dict Json) (multiConnectionAllowed enabled : Bool) (requestId : Option String)
  | updateInstance (actor : CurrentUser) (instanceId : String) (changes : Changes)
      (requestId : Option String)
  | deleteInstance (actor : CurrentUser) (instanceId : String) (requestId : Option String)
  | listInstances
  | getInstance (instanceId : String)
  | updateLlm (actor : CurrentUser) (inference embedding : Option (Dict Json))
      (requestId : Option String)
  | getLlm
  | replaceMapping (actor : CurrentUser) (mapping : Json) (requestId : Option String)

inductive Reply where
  | place (view : InstanceView)
  | places (views : List InstanceView)
  | llm (view : LlmView)
  | mapping (mapping : Mapping)
  | deleted

def administer (settings : Settings) : AdminCall → Hub Reply
  | .createInstance actor instanceId typeId displayName config multi enabled requestId => do
      let view ← create settings actor instanceId typeId displayName config multi enabled requestId
      return .place view
  | .updateInstance actor instanceId changes requestId => do
      let view ← update settings (revokeAllForInstance settings · · ·) actor instanceId changes
        requestId
      return .place view
  | .deleteInstance actor instanceId requestId => do
      delete settings (revokeAllForInstance settings · · ·) actor instanceId requestId
      return .deleted
  | .listInstances => do
      let views ← list
      return .places views
  | .getInstance instanceId => do
      let view ← get instanceId
      return .place view
  | .updateLlm actor inference embedding requestId => do
      let view ← LlmService.update settings actor inference embedding requestId
      return .llm view
  | .getLlm => do
      let view ← LlmService.get
      return .llm view
  | .replaceMapping actor mapping requestId => do
      let after ← SiamService.replace settings (revokeForUsersNoLongerAuthorized settings · · ·)
        actor mapping requestId
      return .mapping after

variable {N : Type}

/-- Completed calls, one after the other: what each answers, and the last world. -/
def administerAll (settings : Settings) (outside : Outside N) :
    List AdminCall → World N → List (Except PyError Reply) × World N
  | [], world => ([], world)
  | call :: rest, world =>
      let step := (administer settings call).run (exec outside) world
      let later := administerAll settings outside rest step.2
      (step.1 :: later.1, later.2)

/-- What a cascade touches: connections and the consent log. -/
def Cascading : Op → Prop
  | .store (.selectConnections _) | .store (.updateConnections _ _) | .store (.insertConsent _)
  | .clock | .tokenBytes _ | .uuid4 => True
  | _ => False

theorem cascading_of_quick (op : Op) (quick : Footprint.Quick op) : Cascading op := by
  cases op with
  | store statement => cases quick
  | http request => cases quick
  | _ => trivial

theorem cascading_withdraw (settings : Settings) (reason : String) (requestId : Option String)
    (ts : Time) (row : ConnectionRow) :
    (withdraw settings reason requestId ts row).Only Cascading := by
  apply Prog.only_bind (Prog.only_perform trivial)
  intro _
  apply Prog.only_bind (Prog.only_perform trivial)
  intro id
  apply Prog.only_bind
  · exact Prog.only_of_straight (Footprint.quick_request_id requestId) cascading_of_quick
  · exact fun _ => Prog.only_perform trivial

theorem cascading_revoke_all (settings : Settings) (instanceId reason : String)
    (requestId : Option String) :
    (revokeAllForInstance settings instanceId reason requestId).Only Cascading := by
  apply Prog.only_bind (Prog.only_perform trivial)
  intro active
  split
  · trivial
  · apply Prog.only_bind (Prog.only_perform trivial)
    intro instant
    exact Prog.only_bind (Prog.only_forEach fun row => cascading_withdraw ..) fun _ => trivial

theorem cascading_revoke_unauthorized (settings : Settings)
    (previousMapping newMapping : SiamService.Mapping) (requestId : Option String) :
    (revokeForUsersNoLongerAuthorized settings previousMapping newMapping requestId).Only
      Cascading := by
  apply Prog.only_bind (Prog.only_perform trivial)
  intro active
  split
  · trivial
  · apply Prog.only_bind (Prog.only_perform trivial)
    intro instant
    exact Prog.only_bind (Prog.only_forEach fun row => cascading_withdraw ..) fun _ => trivial

end Lehen
