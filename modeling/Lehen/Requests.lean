import Lehen.ConnectionsService
import Lehen.IntegrationsService
import Lehen.Schedule

/-!
The requests of the Hub that read or write connections, instances and the
mapping, wired as `main.lifespan` wires the services: both cascade hooks are
those of the connections service.
-/

namespace Lehen

open Storage OAuth AuditService ConnectionsService

inductive Request where
  | createInstance (actor : CurrentUser) (instanceId typeId displayName : String)
      (config : Dict Json) (multiConnectionAllowed enabled : Bool) (requestId : Option String)
  | updateInstance (actor : CurrentUser) (instanceId : String)
      (changes : IntegrationsService.Changes) (requestId : Option String)
  | deleteInstance (actor : CurrentUser) (instanceId : String) (requestId : Option String)
  | replaceMapping (actor : CurrentUser) (mapping : Json) (requestId : Option String)
  | grant (user : CurrentUser) (instanceId privacyClass externalSubject displayLabel : String)
      (requestId : Option String)
  | initiateGrant (user : CurrentUser) (instanceId redirectUri : String)
  | completeGrant (user : CurrentUser) (instanceId code state : String)
      (requestId : Option String)
  | revoke (user : CurrentUser) (instanceId : String) (externalSubject requestId : Option String)
  | revokeAllForInstance (instanceId reason : String) (requestId : Option String)
  | revokeForUsersNoLongerAuthorized (previousMapping newMapping : SiamService.Mapping)
      (requestId : Option String)
  | getValidAccessToken (id : String) (clockSkewSeconds : Int) (nowTs : Option Int)

def serve (settings : Settings) : Request → Hub Unit
  | .createInstance actor instanceId typeId displayName config multi enabled requestId =>
      Prog.drop (IntegrationsService.create settings actor instanceId typeId displayName config
        multi enabled requestId)
  | .updateInstance actor instanceId changes requestId =>
      Prog.drop (IntegrationsService.update settings (revokeAllForInstance settings · · ·)
        actor instanceId changes requestId)
  | .deleteInstance actor instanceId requestId =>
      IntegrationsService.delete settings (revokeAllForInstance settings · · ·) actor instanceId
        requestId
  | .replaceMapping actor mapping requestId =>
      Prog.drop (SiamService.replace settings
        (revokeForUsersNoLongerAuthorized settings · · ·) actor mapping requestId)
  | .grant user instanceId privacyClass externalSubject displayLabel requestId =>
      Prog.drop (grant settings user instanceId privacyClass externalSubject displayLabel requestId)
  | .initiateGrant user instanceId redirectUri =>
      Prog.drop (initiateGrant settings user instanceId redirectUri)
  | .completeGrant user instanceId code state requestId =>
      Prog.drop (completeGrant settings user instanceId code state requestId)
  | .revoke user instanceId externalSubject requestId =>
      revoke settings user instanceId externalSubject requestId
  | .revokeAllForInstance instanceId reason requestId =>
      Prog.drop (revokeAllForInstance settings instanceId reason requestId)
  | .revokeForUsersNoLongerAuthorized previousMapping newMapping requestId =>
      Prog.drop (revokeForUsersNoLongerAuthorized settings previousMapping newMapping requestId)
  | .getValidAccessToken id clockSkewSeconds nowTs =>
      Prog.drop (getValidAccessToken settings id clockSkewSeconds nowTs)

/-- Reading the clock or drawing random bytes does not give up the turn. -/
def instant : Op → Bool
  | .store _ | .http _ => false
  | .clock | .tokenBytes _ | .uuid4 => true

variable {N : Type}

abbrev HubPool (N : Type) := Schedule.Pool (World N) Request Op Op.Res PyError Unit
abbrev HubTask := Schedule.Task Request Op Op.Res PyError Unit

/-- The requests that insert a connection row when they succeed. -/
def Request.grants : Request → Bool
  | .grant .. | .completeGrant .. => true
  | _ => false

/-- The worlds that completed, non-overlapping requests reach from an empty
database. Between two requests the world outside may change in any way. -/
inductive Reachable (settings : Settings) (outside : Outside N) : World N → Prop
  | empty (state : N) : Reachable settings outside ⟨Store.empty, state⟩
  | request (world : World N) (request : Request) (reached : Reachable settings outside world) :
      Reachable settings outside ((serve settings request).run (exec outside) world).2
  | drift (store : Store) (state later : N) (reached : Reachable settings outside ⟨store, state⟩) :
      Reachable settings outside ⟨store, later⟩

/-- The world after completed requests, one after the other. -/
def serveAll (settings : Settings) (outside : Outside N) (world : World N)
    (requests : List Request) : World N :=
  requests.foldl (fun world request => ((serve settings request).run (exec outside) world).2) world

theorem reachable_serve_all {settings : Settings} {outside : Outside N} (requests : List Request)
    {world : World N} (reached : Reachable settings outside world) :
    Reachable settings outside (serveAll settings outside world requests) := by
  induction requests generalizing world with
  | nil => exact reached
  | cons request rest ih => exact ih (.request world request reached)

/-- What every request of a sequence keeps, the sequence keeps. -/
theorem serve_all_kept {settings : Settings} {outside : Outside N} (inside : World N → Prop)
    (requests : List Request) {world : World N} (start : inside world)
    (kept : ∀ request ∈ requests, ∀ world, inside world →
      inside ((serve settings request).run (exec outside) world).2) :
    inside (serveAll settings outside world requests) := by
  induction requests generalizing world with
  | nil => exact start
  | cons request rest ih =>
      exact ih (kept request List.mem_cons_self world start)
        fun other later => kept other (List.mem_cons_of_mem _ later)

/-- Worlds reached by completed requests that each meet a condition in the world
they find. -/
inductive ReachableUnder (settings : Settings) (outside : Outside N)
    (permits : World N → Request → Prop) : World N → Prop
  | empty (state : N) : ReachableUnder settings outside permits ⟨Store.empty, state⟩
  | request (world : World N) (request : Request)
      (reached : ReachableUnder settings outside permits world) (permitted : permits world request) :
      ReachableUnder settings outside permits ((serve settings request).run (exec outside) world).2
  | drift (store : Store) (state later : N)
      (reached : ReachableUnder settings outside permits ⟨store, state⟩) :
      ReachableUnder settings outside permits ⟨store, later⟩

theorem reachable_under_kept {settings : Settings} {outside : Outside N}
    {permits : World N → Request → Prop} (inside : Store → Prop) (empty : inside Store.empty)
    (kept : ∀ (world : World N) (request : Request), inside world.store → permits world request →
      inside ((serve settings request).run (exec outside) world).2.store)
    {world : World N} (reached : ReachableUnder settings outside permits world) :
    inside world.store := by
  induction reached with
  | empty state => exact empty
  | request world request reached permitted ih => exact kept world request ih permitted
  | drift store state later reached ih => exact ih

/-- An invariant of every request is one of every reachable world. -/
theorem reachable_kept {settings : Settings} {outside : Outside N} (inside : Store → Prop)
    (empty : inside Store.empty)
    (kept : ∀ (world : World N) (request : Request), inside world.store →
      inside ((serve settings request).run (exec outside) world).2.store)
    {world : World N} (reached : Reachable settings outside world) : inside world.store := by
  induction reached with
  | empty state => exact empty
  | request world request reached ih => exact kept world request ih
  | drift store state later reached ih => exact ih

/-! A Hub that can be run: one enabled instance, mapped to the role of the sample
user, and a provider that grants every code. -/

def samplePlace : InstanceRow :=
  { id := "mail", type := "outlook-graph", displayName := "Mail"
    configPublic := Dict.ofList [("tenant_id", .str "t"), ("client_id", .str "c")]
    configSecretsEncrypted := ∅, enabled := true, multiConnectionAllowed := false
    createdBy := "root", createdAt := 0, updatedBy := "root", updatedAt := 0 }

def mappedStore : Store :=
  { Store.empty with
    instances := [samplePlace]
    siam :=
      [{ id := SiamService.siamId, mapping := .obj [("staff", .arr [.str "mail"])]
         updatedBy := "root", updatedAt := 0 }] }

/-- The answer of a token endpoint, with or without a new refresh token. -/
def tokenAnswer (access : String) (refresh : Option String) : HttpResponse :=
  { status := 200, text := ""
    json := .ok (.obj (("access_token", .str access) ::
      (refresh.map fun token => ("refresh_token", Json.str token)).toList)) }

def provider (request : HttpRequest) (state : Unit) : Except String HttpResponse × Unit :=
  match request with
  | .post _ _ => (.ok (tokenAnswer "access-0" (some "refresh-0")), state)
  | .get _ _ => (.ok ⟨200, "", .ok (.obj [("mail", .str "ann@example.org")])⟩, state)

/-- An administrator sets up the sample instance and maps it to a role. -/
def setUp : List Request :=
  [.createInstance sampleUser "mail" "outlook-graph" "Mail" samplePlace.configPublic false true none,
    .replaceMapping sampleUser (.obj [("staff", .arr [.str "mail"])]) none]

def consented (requests : List Request) : World Unit :=
  serveAll sampleSettings (Outside.still provider) ⟨Store.empty, ()⟩ (setUp ++ requests)

/-- The state the Hub answers `initiate_grant` with. -/
def offeredState : String :=
  match ((initiateGrant sampleSettings sampleUser "mail" "http://127.0.0.1/callback").run
    (exec (Outside.still provider)) (consented [])).1 with
  | .ok request => request.state
  | .error _ => ""

end Lehen
