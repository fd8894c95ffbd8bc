import Lehen.Admitting

/-!
Who gets an answer. A request of the user surface is answered with what is its user's,
and a local login with a token only where the password is that of an enabled admin.
-/

namespace Lehen.Answering

open Storage AuthState Routes Admitting
open AuditService (CurrentUser)
open ConnectionsService (listForUser)
open MeService (IntegrationEntry)
open Prog (gains_only endures_bind endures_handle endures_mono only_any)

variable {N : Type}

/-- Whose the connection with an id is. -/
def HeldBy (userSub : String) (connections : List ConnectionRow) (id : String) : Prop :=
  ∃ row ∈ connections, row.id = id ∧ row.userSub = userSub

/-- The connections stay, each with its id and its user. -/
def Kept (before after : List ConnectionRow) : Prop := ∀ row ∈ before, HeldBy row.userSub after row.id

theorem kept_held {before after : List ConnectionRow} {userSub id : String} (kept : Kept before after)
    (held : HeldBy userSub before id) : HeldBy userSub after id := by
  obtain ⟨row, there, rfl, rfl⟩ := held
  exact kept row there

/-- What of an answer is about a user is about this one. -/
def Own (user : CurrentUser) (connections : List ConnectionRow) : Answer → Prop
  | .identity shown => shown.sub = user.sub
  | .me payload => payload.user = user ∧ ∀ entry ∈ payload.integrations, ∀ id,
      entry.connectionId = some id → HeldBy user.sub connections id
  | .connection row => row.userSub = user.sub
  | .connections rows => ∀ row ∈ rows, row.userSub = user.sub ∧ HeldBy user.sub connections row.id
  | _ => True

theorem own_kept {user : CurrentUser} {before after : List ConnectionRow} {answer : Answer}
    (kept : Kept before after) (own : Own user before answer) : Own user after answer := by
  cases answer with
  | me payload => exact ⟨own.1, fun entry member id named => kept_held kept (own.2 entry member id named)⟩
  | connections rows => exact fun row member => ⟨(own row member).1, kept_held kept (own row member).2⟩
  | _ => exact own

/-- Whom an answer may be given to, by the connections there are. -/
def Admitted (settings : AppSettings) (auth : AuthOutside N) (origin : AppWorld N) (call : HttpCall)
    (connections : List ConnectionRow) (answer : Answer) : Prop :=
  match call.route with
  | .localLogin body _ _ => Knows settings.auth origin.admins.localAdmins body.username body.password
  | .admin _ => ∃ user, AdminOf settings.auth auth ((authPart N).get origin) ⟨call.authorization⟩ user ∧
      Own user.toCurrentUser connections answer
  | .user _ => ∃ user, UserOf settings.auth auth ((authPart N).get origin) ⟨call.authorization⟩ user ∧
      Own user.toCurrentUser connections answer

/-! What the services return. -/
section Told

variable {hub : Outside N} {state : World N} {user : CurrentUser} {α β : Type}

def KeptStore (before after : World N) : Prop := Kept before.store.connections after.store.connections

theorem kept_refl (connections : List ConnectionRow) : Kept connections connections :=
  fun row member => ⟨row, member, rfl, rfl⟩

instance : IsPreorder (World N) KeptStore where
  refl world := kept_refl world.store.connections
  trans _ _ _ left right row member := kept_held right (left row member)

theorem kept_exec (op : Op) (world : World N) : KeptStore world (exec hub op world).2 := by
  unfold KeptStore
  cases op with
  | store statement =>
      rcases exec_moves hub statement world with same | same
      · rw [same]
        exact kept_refl _
      · rw [same]
        cases statement with
        | insertConnection row => exact fun earlier member => ⟨earlier, List.mem_append_left _ member, rfl, rfl⟩
        | updateConnections id set =>
            intro row member
            refine ⟨_, List.mem_map_of_mem member, ?_⟩
            split
            · cases set <;> exact ⟨rfl, rfl⟩
            · exact ⟨rfl, rfl⟩
        | _ => exact kept_refl _
  | _ =>
      rw [exec_elsewhere hub _ world fun _ same => by cases same]
      exact kept_refl _

/-- Whatever becomes of the other rows meanwhile, the program returns what meets `post`. -/
abbrev Told (hub : Outside N) (post : α → World N → Prop) (body : Hub α) (state : World N) : Prop :=
  body.Endures (exec hub) KeptStore (fun outcome now => ∀ value, outcome = .ok value → post value now) state

theorem told_any {body : Hub α} : Told hub (fun _ _ => True) body state :=
  endures_mono (gains_only (only_any body) fun op now _ => kept_exec op now) fun _ _ _ _ _ => trivial

theorem told_bind {middle : β → World N → Prop} {post : α → World N → Prop} {body : Hub β}
    {next : β → Hub α} (first : Told hub middle body state)
    (rest : ∀ value now, KeptStore state now → middle value now → Told hub post (next value) now) :
    Told hub post (body.bind next) state := by
  refine endures_bind (endures_mono first ?_) rest
  rintro (error | value) now held
  · exact fun value same => by cases same
  · exact held value rfl

theorem told_then {post : α → World N → Prop} {body : Hub β} {next : β → Hub α}
    (rest : ∀ value now, KeptStore state now → Told hub post (next value) now) :
    Told hub post (body.bind next) state :=
  told_bind told_any fun value now kept _ => rest value now kept

theorem told_ret {post : α → World N → Prop} {value : α} (met : ∀ now, KeptStore state now → post value now) :
    Told hub post (Prog.ret value) state := by
  rintro now after _ ⟨⟩
  exact met now after

theorem told_raise {post : α → World N → Prop} {error : PyError} : Told hub post (Prog.raise error) state := by
  rintro now after _ ⟨⟩

theorem told_perform {op : Op} {post : op.Res → World N → Prop}
    (answered : ∀ now value last, (exec hub op now).1 = .ok value → KeptStore (exec hub op now).2 last →
      post value last) : Told hub post (Prog.perform op) state := by
  intro now _
  refine ⟨kept_exec op now, ?_⟩
  rcases answer : (exec hub op now).1 with error | value
  · exact told_raise
  · exact told_ret fun last further => answered now value last answer further

theorem told_answer {body : Hub α} {make : α → Answer}
    (told : Told hub (fun value now => Own user now.store.connections (make value)) body state) :
    Told hub (fun answer now => Own user now.store.connections answer) (make <$> body) state :=
  told_bind told fun _ _ _ own => told_ret fun _ kept => own_kept kept own

theorem told_excepting {answers : List (ErrorKind × Nat × String)} {post : α → World N → Prop} {body : Hub α}
    (told : Told hub post body state) : Told hub post (excepting answers body) state := by
  refine endures_handle (endures_mono told ?_)
  rintro (error | value) now held
  · dsimp only
    split <;> exact told_raise
  · exact held

/-- The select is by the user's `sub`. -/
theorem told_list (userSub : String) :
    Told hub (fun rows now => ∀ row ∈ rows, row.userSub = userSub ∧ HeldBy userSub now.store.connections row.id)
      (listForUser userSub) state := by
  apply told_perform
  intro now rows last answer kept
  rcases exec_read hub (.selectConnections (.ofUser userSub)) now rfl with ⟨error, failed, _⟩ | ⟨selected, same⟩
  · rw [failed] at answer
    cases answer
  · rw [selected] at answer
    obtain rfl := Except.ok.inj answer
    intro row member
    obtain ⟨there, holds⟩ := List.mem_filter.mp member
    have own : row.userSub = userSub := by
      simp only [ConnectionWhere.holds, Bool.and_eq_true, decide_eq_true_eq] at holds
      exact holds.1
    subst own
    rw [KeptStore, same] at kept
    exact ⟨rfl, kept row there⟩

theorem entry_listed {mapping : SiamService.Mapping} {roles : List String}
    {instances : List IntegrationsService.InstanceView} {connections : List ConnectionRow} :
    ∀ entry ∈ MeService.integrationsPayload mapping roles instances connections, ∀ id,
      entry.connectionId = some id → ∃ row ∈ connections, row.id = id := by
  intro entry member id named
  obtain ⟨instanceId, _, made⟩ := List.mem_filterMap.mp member
  unfold MeService.integrationEntry at made
  split at made
  · cases made
  · split at made
    · obtain rfl := Option.some.inj made
      obtain ⟨row, found, same⟩ := Option.map_eq_some_iff.mp named
      exact ⟨row, List.mem_reverse.mp (List.mem_of_find?_eq_some found), same⟩
    · cases made

theorem told_me (days : Nat) (requestId : Option String) :
    Told hub (fun payload now => Own user now.store.connections (.me payload)) (MeService.me days user requestId)
      state := by
  unfold MeService.me
  apply told_then
  intro mapping _ _
  apply told_then
  intro instances _ _
  apply told_bind (told_list user.sub)
  intro connections _ _ own
  -- The rows that were listed are still there when the login event is in.
  apply told_then
  intro _ _ kept
  refine told_ret fun last kept' => ⟨rfl, fun entry member id named => ?_⟩
  obtain ⟨row, listed, rfl⟩ := entry_listed entry member id named
  exact kept_held kept' (kept_held kept (own row listed).2)

theorem told_grant (settings : OAuth.Settings) (instanceId privacyClass externalSubject displayLabel : String)
    (requestId : Option String) :
    Told hub (fun row _ => row.userSub = user.sub)
      (ConnectionsService.grant settings user instanceId privacyClass externalSubject displayLabel
        requestId) state := by
  unfold ConnectionsService.grant
  apply told_then
  intro _ _ _
  apply told_then
  intro _ _ _
  apply told_then
  intro seq _ _
  apply told_then
  intro instant _ _
  apply told_then
  intro _ _ _
  apply told_then
  exact fun _ _ _ => told_ret fun _ _ => rfl

theorem told_complete (settings : OAuth.Settings) (instanceId code query : String)
    (requestId : Option String) :
    Told hub (fun row _ => row.userSub = user.sub)
      (ConnectionsService.completeGrant settings user instanceId code query requestId) state := by
  unfold ConnectionsService.completeGrant
  apply told_then
  intro granted _ _
  apply told_then
  intro _ _ _
  apply told_then
  intro seq _ _
  apply told_then
  intro instant _ _
  apply told_then
  intro envelope _ _
  apply told_then
  intro _ _ _
  apply told_then
  exact fun _ _ _ => told_ret fun _ _ => rfl

/-- What the answers of a surface say, of the connections there are then. -/
abbrev TellsOwn (hub : Outside N) (user : CurrentUser) (body : Hub Answer) (state : World N) : Prop :=
  Told hub (fun answer now => Own user now.store.connections answer) body state

theorem told_user (settings : AppSettings) (requestId : String) (route : UserRoute) :
    TellsOwn hub user (route.serve settings user requestId) state := by
  cases route with
  | me => exact told_answer (told_me settings.loginEventDays _)
  | listMyConnections =>
      apply told_answer
      apply told_bind (told_list user.sub)
      intro rows _ _ own
      apply told_ret
      intro last kept row member
      obtain ⟨same, held⟩ := own row ((List.mem_insertionSort _).mp member)
      exact ⟨same, kept_held kept held⟩
  | grantMyConnection instanceId privacyClass =>
      apply told_answer
      apply told_then
      exact fun _ _ _ => told_excepting (told_grant settings.hub _ _ _ _ _)
  | revokeMyConnection instanceId => exact told_then fun _ _ _ => told_ret fun _ _ => trivial
  | initiateGrantMyConnection instanceId redirectUri =>
      exact told_then fun _ _ _ => told_ret fun _ _ => trivial
  | completeGrantMyConnection instanceId code query =>
      apply told_answer
      apply told_then
      intro _ _ _
      apply told_then
      exact fun _ _ _ => told_excepting (told_complete settings.hub _ _ _ _)

theorem told_admin (settings : OAuth.Settings) (requestId : String) (route : AdminRoute) :
    TellsOwn hub user (route.serve settings user requestId) state := by
  cases route with
  | whoami => exact told_ret fun _ _ => rfl
  | listProviders => exact told_ret fun _ _ => trivial
  | listTypes => exact told_ret fun _ _ => trivial
  | _ => exact told_then fun _ _ _ => told_ret fun _ _ => trivial

end Told

end Lehen.Answering
