import Lehen.Footprint

/-!
The requests of the Hub with what they answer, for the flows in which the answer
of one request is the argument of another, or a token leaves the service.
-/

namespace Lehen.Replying

open Storage OAuth ConnectionsService Footprint

inductive Reply where
  | done
  | offered (request : OAuthAuthorizationRequest)
  | token (token : Option String)
  deriving DecidableEq, Repr

def reply (settings : Settings) : Request → Hub Reply
  | .initiateGrant user instanceId redirectUri => do
      let request ← initiateGrant settings user instanceId redirectUri
      return .offered request
  | .getValidAccessToken id clockSkewSeconds nowTs => do
      let token ← getValidAccessToken settings id clockSkewSeconds nowTs
      return .token token
  | request => do
      serve settings request
      return .done

abbrev ReplyPool (N : Type) := Schedule.Pool (World N) Request Op Op.Res PyError Reply
abbrev ReplyTask := Schedule.Task Request Op Op.Res PyError Reply

theorem reply_complete (settings : Settings) (user : AuditService.CurrentUser)
    (instanceId code state : String) (requestId : Option String) :
    reply settings (.completeGrant user instanceId code state requestId) =
      (Prog.drop (completeGrant settings user instanceId code state requestId)).bind fun _ =>
        .ret .done := rfl

/-- Without its answer a reply is the request as it is served. -/
theorem drop_reply (settings : Settings) (request : Request) :
    Prog.drop (reply settings request) = serve settings request := by
  have unit (body : Hub Unit) : Prog.drop (body.bind fun _ => (.ret Reply.done : Hub Reply)) = body := by
    rw [Prog.drop, Prog.bind_assoc]
    induction body with
    | ret value => rfl
    | raise error => rfl
    | await op resume ih =>
        simp only [Prog.bind_await]
        congr 1
        funext answer
        exact ih answer
  cases request with
  | initiateGrant user instanceId redirectUri => exact Prog.bind_assoc ..
  | getValidAccessToken id clockSkewSeconds nowTs => exact Prog.bind_assoc ..
  | _ => exact unit _

end Lehen.Replying
