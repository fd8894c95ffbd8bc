import Lehen.Acting
import Lehen.Answering

/-!
Who is behind a change. Requests are served in any order of turns, each behind its gate:
what is then in the store was there before, or it names somebody whom a gate let in.
-/

namespace Lehen.Attribution

open Storage AuthState Routes Acting Admitting Answering
open Prog (endures_left endures_right endures_told endures_after endures_mono gains_bind gains_ret only_of_straight)
open Schedule (Pool Event)
open Verification (sampleAuth stillAuth warmProcess bearing)

/-- What is there has an earlier form, or is signed. -/
def Sourced {α : Type} (same : α → α → Prop) (signed : α → Prop) (before after : List α) : Prop :=
  ∀ item ∈ after, signed item ∨ ∃ earlier ∈ before, same earlier item

section Sourced

variable {α : Type} {same : α → α → Prop} [IsPreorder α same] {signed : α → Prop} {items : List α}

theorem sourced_refl (items : List α) : Sourced same signed items items :=
  fun item member => .inr ⟨item, member, refl_of same item⟩

theorem sourced_trans {first second third : List α}
    (stable : ∀ earlier item, same earlier item → signed earlier → signed item)
    (left : Sourced same signed first second) (right : Sourced same signed second third) :
    Sourced same signed first third := by
  intro item member
  rcases right item member with known | ⟨middle, there, kept⟩
  · exact .inl known
  · rcases left middle there with known | ⟨earlier, origin, kept'⟩
    · exact .inl (stable middle item kept known)
    · exact .inr ⟨earlier, origin, trans_of same kept' kept⟩

theorem sourced_append {last : α} (known : signed last) : Sourced same signed items (items ++ [last]) := by
  intro item member
  rcases List.mem_append.mp member with there | added
  · exact sourced_refl items item there
  · rw [List.mem_singleton.mp added]
    exact .inl known

/-- Rows are replaced where a condition holds. -/
theorem sourced_replace {test : α → Prop} [DecidablePred test] {doc : α} (known : signed doc) :
    Sourced same signed items (items.map fun row => if test row then doc else row) := by
  intro item member
  obtain ⟨row, there, rfl⟩ := List.mem_map.mp member
  split
  · exact .inl known
  · exact .inr ⟨row, there, refl_of same row⟩

theorem sourced_filter (test : α → Bool) : Sourced same signed items (items.filter test) :=
  fun item member => sourced_refl items item (List.mem_of_mem_filter member)

end Sourced

/-! The store. -/

/-- By `sub` and username. -/
structure Actors where
  admin : String → String → Prop
  user : String → String → Prop

/-- A connection keeps its owner and place, and is not opened again. -/
structure SameConnection (before after : ConnectionRow) : Prop where
  id : after.id = before.id
  userSub : after.userSub = before.userSub
  username : after.username = before.username
  integrationInstanceId : after.integrationInstanceId = before.integrationInstanceId
  connectionSeq : after.connectionSeq = before.connectionSeq
  externalSubject : after.externalSubject = before.externalSubject
  privacyClass : after.privacyClass = before.privacyClass
  active : after.isActive = true → before.isActive = true

instance : IsPreorder ConnectionRow SameConnection where
  refl _ := ⟨rfl, rfl, rfl, rfl, rfl, rfl, rfl, id⟩
  trans _ _ _ left right :=
    { id := right.id.trans left.id
      userSub := right.userSub.trans left.userSub
      username := right.username.trans left.username
      integrationInstanceId := right.integrationInstanceId.trans left.integrationInstanceId
      connectionSeq := right.connectionSeq.trans left.connectionSeq
      externalSubject := right.externalSubject.trans left.externalSubject
      privacyClass := right.privacyClass.trans left.privacyClass
      active := fun active => left.active (right.active active) }

/-- Nothing is in the store that none of the actors is behind. Consent is given by the
user alone, and without an admin the configuration stays. -/
structure Attributed (actors : Actors) (before after : Store) : Prop where
  audits : Sourced (· = ·) (fun event => actors.admin event.actorSub event.actorUsername)
    before.audits after.audits
  instances : Sourced (· = ·) (fun row => ∃ sub, actors.admin sub row.updatedBy)
    before.instances after.instances
  siam : Sourced (· = ·) (fun row => ∃ sub, actors.admin sub row.updatedBy) before.siam after.siam
  llm : Sourced (· = ·) (fun doc => ∃ sub username, actors.admin sub username ∧
    doc.lookup "updated_by" = some (.str username)) before.llm after.llm
  connections : Sourced SameConnection (fun row => actors.user row.userSub row.username)
    before.connections after.connections
  kept : ∀ row ∈ before.connections, ∃ later ∈ after.connections, SameConnection row later
  consents : Sourced (· = ·) (fun event => actors.user event.userSub event.username ∨
    event.action ≠ "granted" ∧ ∃ sub username, actors.admin sub username) before.consents after.consents
  logins : Sourced (· = ·) (fun event => actors.user event.userSub event.username) before.logins after.logins
  unattended : (∀ sub username, ¬ actors.admin sub username) →
    after.instances = before.instances ∧ after.siam = before.siam ∧ after.llm = before.llm

variable {N : Type} {actors : Actors}

theorem attributed_refl (store : Store) : Attributed actors store store where
  audits := sourced_refl _
  instances := sourced_refl _
  siam := sourced_refl _
  llm := sourced_refl _
  connections := sourced_refl _
  kept row member := ⟨row, member, refl_of _ row⟩
  consents := sourced_refl _
  logins := sourced_refl _
  unattended _ := ⟨rfl, rfl, rfl⟩

theorem attributed_trans {first second third : Store} (left : Attributed actors first second)
    (right : Attributed actors second third) : Attributed actors first third := by
  have plain {α : Type} {signed : α → Prop} (earlier item : α) (same : earlier = item)
      (known : signed earlier) : signed item := same ▸ known
  constructor
  · exact sourced_trans plain left.audits right.audits
  · exact sourced_trans plain left.instances right.instances
  · exact sourced_trans plain left.siam right.siam
  · exact sourced_trans plain left.llm right.llm
  · refine sourced_trans (fun earlier row same known => ?_) left.connections right.connections
    rw [same.userSub, same.username]
    exact known
  · intro row member
    obtain ⟨middle, there, same⟩ := left.kept row member
    obtain ⟨later, there', same'⟩ := right.kept middle there
    exact ⟨later, there', trans_of _ same same'⟩
  · exact sourced_trans plain left.consents right.consents
  · exact sourced_trans plain left.logins right.logins
  · intro none
    obtain ⟨instances, siam, llm⟩ := left.unattended none
    obtain ⟨instances', siam', llm'⟩ := right.unattended none
    exact ⟨instances'.trans instances, siam'.trans siam, llm'.trans llm⟩

/-- An update of a connection that opens none. -/
theorem attributed_update (id : String) {set : ConnectionSet} (store : Store)
    (same : ∀ row, SameConnection row (set.apply row)) :
    Attributed actors store { store with connections := setWhereId id set store.connections } where
  audits := sourced_refl _
  instances := sourced_refl _
  siam := sourced_refl _
  llm := sourced_refl _
  consents := sourced_refl _
  logins := sourced_refl _
  unattended _ := ⟨rfl, rfl, rfl⟩
  connections := by
    intro item member
    obtain ⟨row, there, rfl⟩ := List.mem_map.mp member
    refine .inr ⟨row, there, ?_⟩
    split
    · exact same row
    · exact refl_of _ row
  kept row member := by
    refine ⟨_, List.mem_map_of_mem member, ?_⟩
    split
    · exact same row
    · exact refl_of _ row

theorem attributed_of_apply {outside : Outside N} {op : Op} {world : World N}
    (applied : ∀ statement, op = .store statement →
      Attributed actors world.store (statement.apply world.store).2) :
    Attributed actors world.store (exec outside op world).2.store := by
  cases op with
  | store statement =>
      rcases exec_moves outside statement world with same | same
      · rw [same]
        exact attributed_refl _
      · rw [same]
        exact applied statement rfl
  | _ =>
      rw [exec_elsewhere outside _ world fun _ same => by cases same]
      exact attributed_refl _

/-- What an admin awaits is on the admin's account. -/
theorem attributed_of_signing {outside : Outside N} {actor : AuditService.CurrentUser}
    (admin : actors.admin actor.sub actor.username) (op : Op) (world : World N) (signing : Signing actor op) :
    Attributed actors world.store (exec outside op world).2.store := by
  apply attributed_of_apply
  rintro statement rfl
  have still : Attributed actors world.store world.store := attributed_refl _
  -- Where the configuration changes, there is an admin: this one.
  have attended {claim : Prop} (none : ∀ sub username, ¬ actors.admin sub username) : claim :=
    absurd admin (none _ _)
  cases statement with
  | insertAudit event =>
      refine { still with audits := sourced_append ?_ }
      rw [signing.1, signing.2]
      exact admin
  | insertInstance doc =>
      exact { still with instances := sourced_append ⟨_, signing ▸ admin⟩, unattended := attended }
  | updateInstance id doc =>
      refine { still with instances := ?_, unattended := attended }
      exact sourced_replace ⟨_, signing ▸ admin⟩
  | deleteInstance id => exact { still with instances := sourced_filter _, unattended := attended }
  | insertSiam doc => exact { still with siam := sourced_append ⟨_, signing ▸ admin⟩, unattended := attended }
  | updateSiam id doc =>
      refine { still with siam := ?_, unattended := attended }
      exact sourced_replace ⟨_, signing ▸ admin⟩
  | updateLlm id doc =>
      refine { still with llm := ?_, unattended := attended }
      exact sourced_replace ⟨_, _, admin, signing⟩
  | updateConnections id set =>
      obtain ⟨ts, reason, rfl⟩ := signing
      exact attributed_update id _ fun row => ⟨rfl, rfl, rfl, rfl, rfl, rfl, rfl, fun active => by cases active⟩
  | insertConsent event =>
      exact { still with consents := sourced_append (.inr ⟨signing, _, _, admin⟩) }
  | insertConnection row => exact signing.elim
  | insertLogin event => exact signing.elim
  | _ => exact still

/-- What a user awaits is on the user's. -/
theorem attributed_of_owning {outside : Outside N} {user : AuditService.CurrentUser}
    (known : actors.user user.sub user.username) (op : Op) (world : World N) (owning : Owning user op) :
    Attributed actors world.store (exec outside op world).2.store := by
  apply attributed_of_apply
  rintro statement rfl
  have still : Attributed actors world.store world.store := attributed_refl _
  cases statement with
  | insertConnection row =>
      have own : actors.user row.userSub row.username := by
        rw [owning.1, owning.2]
        exact known
      refine { still with connections := sourced_append own, kept := fun earlier member => ?_ }
      exact ⟨earlier, List.mem_append_left _ member, refl_of _ earlier⟩
  | insertConsent event =>
      refine { still with consents := sourced_append (.inl ?_) }
      rw [owning.1, owning.2]
      exact known
  | insertLogin event =>
      refine { still with logins := sourced_append ?_ }
      rw [owning.1, owning.2]
      exact known
  | updateConnections id set =>
      obtain ⟨ts, rfl⟩ := owning
      exact attributed_update id _ fun row => ⟨rfl, rfl, rfl, rfl, rfl, rfl, rfl, fun active => by cases active⟩
  | selectConnections _ | selectMaxSeq _ _ | selectInstance _ | selectSiam _ | selectInstances
  | selectLlm _ | selectAudits _ _ => exact still
  | _ => exact owning.elim

/-! The app. -/

section App

variable {settings : AppSettings} {auth : AuthOutside N} {hub : Outside N} {origin : AppWorld N}

/-- For both parts of the app: where the keys of the gates come from and what becomes of
the local admins, and who is behind what is in the store. -/
structure Later (settings : AppSettings) (auth : AuthOutside N) (actors : Actors) (before after : AppWorld N) :
    Prop where
  gates : Onward settings.auth auth ((authPart N).get before) ((authPart N).get after)
  attributed : Attributed actors before.store after.store

instance : IsPreorder (AppWorld N) (Later settings auth actors) where
  refl world := ⟨refl_of _ _, attributed_refl world.store⟩
  trans _ _ _ left right :=
    ⟨trans_of _ left.gates right.gates, attributed_trans left.attributed right.attributed⟩

/-- What the services see of it. -/
def LaterStore (actors : Actors) (before after : World N) : Prop := Attributed actors before.store after.store

instance : IsPreorder (World N) (LaterStore actors) where
  refl world := attributed_refl world.store
  trans _ _ _ := attributed_trans

theorem monotone_auth : (authPart N).Monotone (Onward settings.auth auth) (Later settings auth actors) where
  seen _ _ later := later.gates
  moved state _ onward := ⟨onward, attributed_refl state.store⟩

theorem monotone_hub : (hubPart N).Monotone (LaterStore actors) (Later settings auth actors) where
  seen _ _ later := later.attributed
  moved state part moved := by
    refine ⟨⟨fun jwks held => .inl held, ?_⟩, moved⟩
    exact List.forall₂_same.mpr fun row _ => same_admin_refl row

/-- Whom the gates let in for these requests, given the keys they had or fetched. -/
def actorsOf (settings : AppSettings) (auth : AuthOutside N) (origin : AppWorld N)
    (events : List (Event HttpCall)) : Actors where
  admin sub username := ∃ call user route, .start call ∈ events ∧ call.route = .admin route ∧
    AdminOf settings.auth auth ((authPart N).get origin) ⟨call.authorization⟩ user ∧
      user.sub = sub ∧ user.username = username
  user sub username := ∃ call user route, .start call ∈ events ∧ call.route = .user route ∧
    UserOf settings.auth auth ((authPart N).get origin) ⟨call.authorization⟩ user ∧
      user.sub = sub ∧ user.username = username

theorem kept_of_later {before after : World N} (later : LaterStore actors before after) :
    KeptStore before after := by
  intro row member
  obtain ⟨same, there, kept⟩ := later.kept row member
  exact ⟨same, there, kept.id, kept.userSub⟩

/-- What an answer has to be, and the connections it is about. -/
def Answered (settings : AppSettings) (auth : AuthOutside N) (origin : AppWorld N) (call : HttpCall)
    (outcome : Except PyError Answer) (now : AppWorld N) : Prop :=
  ∀ answer, outcome = .ok answer → Admitted settings auth origin call now.store.connections answer

theorem answered_error {call : HttpCall} (error : PyError) (now : AppWorld N) :
    Answered settings auth origin call (.error error) now := fun _ same => by cases same

/-- One request, among any others. -/
theorem serve_later {events : List (Event HttpCall)} {call : HttpCall} {state : AppWorld N}
    (started : .start call ∈ events)
    (onward : Later settings auth (actorsOf settings auth origin events) origin state) :
    (Routes.serve settings call).Endures (appExec auth hub)
      (Later settings auth (actorsOf settings auth origin events)) (Answered settings auth origin call) state := by
  have behind {α : Type} {post : α → World N → Prop} {body : Hub α} {allowed : Op → Prop}
      (only : body.Only allowed)
      (moved : ∀ op world, allowed op →
        LaterStore (actorsOf settings auth origin events) world (exec hub op world).2)
      (told : ∀ world, Told hub post body world) (state : AppWorld N) :
      (Prog.right body).Endures (appExec auth hub)
        (Later settings auth (actorsOf settings auth origin events))
        (fun outcome now => ∀ value, outcome = .ok value → post value ((hubPart N).get now)) state :=
    endures_right monotone_hub (endures_told only moved (fun _ _ later => kept_of_later later) (told _))
  refine endures_after (endures_mono (behind (only_of_straight (Footprint.quick_request_id call.requestId)
    fun _ quick => quick) ?_ (fun _ => told_any) state) fun _ _ held => held) answered_error ?_
  · intro op world quick
    apply attributed_of_apply
    rintro statement rfl
    cases quick
  · intro requestId between after _
    have here := trans_of _ onward after
    cases routed : call.route with
    | localLogin body clientIp userAgent =>
        have login : (Answer.token <$> localLogin settings.auth body clientIp userAgent requestId).Gains
            (authExec auth) (Onward settings.auth auth)
            (fun _ => Knows settings.auth origin.admins.localAdmins body.username body.password)
            ((authPart N).get between) :=
          gains_bind (vouches_local_login body clientIp userAgent requestId _ here.gates)
            fun _ _ _ knows => gains_ret knows
        refine endures_mono (endures_left monotone_auth login) fun outcome now knows answer returned => ?_
        rw [Admitted, routed]
        exact knows answer returned
    -- The service runs as whom the gate let in, whatever became of the keys since.
    | admin route =>
        have gate := vouches_admin ⟨call.authorization⟩ _ here.gates
        refine endures_after (endures_left monotone_auth gate) answered_error ?_
        intro user last _ admitted
        refine endures_mono (behind (admin_signs settings.hub requestId route) ?_ (fun _ => told_admin ..) last) ?_
        · exact attributed_of_signing ⟨call, user, route, started, routed, admitted, rfl, rfl⟩
        · intro outcome now own answer returned
          rw [Admitted, routed]
          exact ⟨user, admitted, own answer returned⟩
    | user route =>
        have gate := vouches_user ⟨call.authorization⟩ _ here.gates
        refine endures_after (endures_left monotone_auth gate) answered_error ?_
        intro user last _ admitted
        refine endures_mono (behind (user_owns settings requestId route) ?_ (fun _ => told_user ..) last) ?_
        · exact attributed_of_owning ⟨call, user, route, started, routed, admitted, rfl, rfl⟩
        · intro outcome now own answer returned
          rw [Admitted, routed]
          exact ⟨user, admitted, own answer returned⟩

theorem served_enduring (settings : AppSettings) (auth : AuthOutside N) (hub : Outside N)
    (origin : AppWorld N) (events : List (Event HttpCall)) :
    (served settings auth hub origin events).Enduring (appExec auth hub)
      (Later settings auth (actorsOf settings auth origin events)) (Answered settings auth origin) origin := by
  apply Schedule.play_enduring _ events
  · exact fun call started state later => serve_later started later
  · exact ⟨refl_of _ origin, fun i task found => by cases found⟩

/-- Whatever is requested and however the turns fall, whatever has changed in the store
names a user or an admin whom a gate let in, with a token that it verified. -/
theorem changes_attributed (settings : AppSettings) (auth : AuthOutside N) (hub : Outside N)
    (origin : AppWorld N) (events : List (Event HttpCall)) :
    Later settings auth (actorsOf settings auth origin events) origin
      (served settings auth hub origin events).state :=
  (served_enduring settings auth hub origin events).onward

/-- Every request that was answered was to be answered so. -/
def AnswersAdmitted (settings : AppSettings) (auth : AuthOutside N) (origin : AppWorld N) (pool : AppPool N) :
    Prop :=
  ∀ task ∈ pool.tasks, ∀ answer, task.prog = .ret answer →
    Admitted settings auth origin task.request pool.state.store.connections answer

/-- Nobody else is answered: not without a token that was verified or a password, and not
with what is another user's. -/
theorem answers_admitted (settings : AppSettings) (auth : AuthOutside N) (hub : Outside N)
    (origin : AppWorld N) (events : List (Event HttpCall)) :
    AnswersAdmitted settings auth origin (served settings auth hub origin events) := by
  intro task member answer returned
  obtain ⟨i, found⟩ := List.mem_iff_getElem?.mp member
  have endures := (served_enduring settings auth hub origin events).tasks i task found
  rw [returned] at endures
  exact endures _ (refl_of _ _) answer rfl

/-- Two requests in turns, one with a token and one without. -/
example : ∃ payload error,
    (served ⟨OAuth.sampleSettings, sampleAuth, 90⟩ stillAuth (Outside.still unreachable)
      ⟨.empty, .empty, warmProcess, ()⟩
      (.start ⟨(bearing "full").authorization, none, .user .me⟩ :: .start ⟨none, none, .admin .getSiam⟩ ::
        (List.replicate 6 [.resume 0, .resume 1]).flatten)).tasks.map Schedule.Task.prog =
      [.ret (.me payload), .raise error] := ⟨_, _, rfl⟩

end App

end Lehen.Attribution
