import Lehen.Offering
import Lehen.Query
import Lehen.Replying

/-!
What ties the two steps of the OAuth flow together. A state names the flow it
was made for, and `complete_grant` posts nothing that the flow does not say.
-/

namespace Lehen.Binding

open Storage OAuth Secrets AuditService SourceAdapter ConnectionsService Query Replying Schedule
open Prog (Monitor only_bind only_perform only_require only_lift only_handle only_of_straight)

variable {N : Type} {settings : Settings}

/-- The first instant that a call reads. -/
def noteClock : Option Time → (op : Op) → Except PyError op.Res → Option Time
  | none, .clock, .ok instant => some instant
  | seen, _, _ => seen

def callClock (log : List ((op : Op) × Except PyError op.Res)) : Option Time :=
  log.foldl (fun seen entry => noteClock seen entry.1 entry.2) none

theorem note_kept (instant : Time) (op : Op) (answer : Except PyError op.Res) :
    noteClock (some instant) op answer = some instant := by
  cases op <;> rfl

section Sides

variable (settings)

/-- What `initiate_grant` answers: a sealed flow, and a URL with its challenge. -/
structure Offered (userSub instanceId redirectUri : String) (request : OAuthAuthorizationRequest)
    (flow : OAuthFlowState) (issued : Time) : Prop where
  user : flow.userSub = userSub
  place : flow.instanceId = instanceId
  redirect : flow.redirectUri = redirectUri
  issuedAt : flow.issuedAt = unixSeconds issued
  listed : redirectUri ∈ settings.allowedRedirectUris
  sealed : ∃ nonce, encrypt settings.aead (JsonText.dumps flow.asDict) settings.stateKey nonce =
    .ok request.state
  redirectParam : urlParam request.authUrl "redirect_uri" = some redirectUri
  challengeParam : urlParam request.authUrl "code_challenge" =
    some (codeChallenge settings flow.codeVerifier)

/-- What a form that `complete_grant` posts takes from the state. -/
structure Exchanges (userSub instanceId state : String) (form : List (String × String))
    (flow : OAuthFlowState) (used : Time) : Prop where
  decoded : decodeFlow settings.aead state settings.stateKey = .ok flow
  user : flow.userSub = userSub
  place : flow.instanceId = instanceId
  age : unixSeconds used - flow.issuedAt ≤ defaultStateMaxAgeSeconds
  redirect : form.lookup "redirect_uri" = some flow.redirectUri
  verifier : form.lookup "code_verifier" = some flow.codeVerifier

/-- Only the posts of `complete_grant` are constrained. -/
def Permits : Request → Option Time → Op → Prop
  | .completeGrant user instanceId _ state _, seen, .http (.post _ form) =>
      ∃ used flow, seen = some used ∧ Exchanges settings user.sub instanceId state form flow used
  | _, _, _ => True

def flowMonitor (request : Request) : Monitor Op Op.Res PyError (Option Time) :=
  { allowed := Permits settings request, next := noteClock }

def flowProtocol : Protocol Request Op Op.Res PyError Replying.Reply (Option Time) :=
  { monitor := flowMonitor settings
    initial := fun _ => none
    post
      | .initiateGrant user instanceId redirectUri, .ok (.offered request), seen =>
          ∃ issued flow, seen = some issued ∧
            Offered settings user.sub instanceId redirectUri request flow issued
      | _, _, _ => True }

end Sides

/-! Parts that post nothing, or do not read the clock. -/

def Unposted : Op → Prop
  | .http (.post _ _) => False
  | _ => True

theorem permits_unposted (request : Request) (seen : Option Time) (op : Op) (unposted : Unposted op) :
    Permits settings request seen op := by
  cases op with
  | http sent =>
      cases sent with
      | post url form => cases unposted
      | get url bearer => cases request <;> trivial
  | _ => cases request <;> trivial

theorem unposted_then {α : Type} {request : Request} {op : Op} {rest : op.Res → Hub α}
    {seen : Option Time} {post : Except PyError α → Option Time → Prop} (unposted : Unposted op)
    (done : ∀ value,
      (rest value).Follows (flowMonitor settings request) post (noteClock seen op (.ok value)))
    (failed : ∀ error seen, post (.error error) seen) :
    ((Prog.perform op : Hub op.Res).bind rest).Follows (flowMonitor settings request) post seen :=
  Prog.follows_perform_then (permits_unposted request seen op unposted) done fun error => failed error _

theorem follows_unposted {α : Type} {body : Hub α} {request : Request} {seen : Option Time}
    (unposted : body.Only Unposted) :
    body.Follows (flowMonitor settings request) (fun _ _ => True) seen :=
  Prog.follows_confined unposted (fun seen op fits => permits_unposted request seen op fits)
    fun _ _ => trivial

def Timeless : Op → Prop
  | .store _ => True
  | _ => False

theorem timeless_gates (user : CurrentUser) (instanceId : String) :
    (passGates user instanceId).Only Timeless := by
  refine only_bind (only_bind (only_perform trivial) fun rows => trivial) fun found => ?_
  split
  · refine only_bind (only_require _ _) fun _ => ?_
    refine only_bind ?_ fun authorized => only_bind (only_require _ _) fun _ => trivial
    exact only_bind (only_bind (only_perform trivial) fun rows => trivial) fun mapping => trivial
  · trivial

theorem gates_timeless {request : Request} (user : CurrentUser) (instanceId : String)
    (seen : Option Time) :
    (passGates user instanceId).Follows (flowMonitor settings request)
      (fun _ after => after = seen) seen := by
  apply Prog.follows_only (timeless_gates user instanceId)
  · intro op timeless
    cases op with
    | store statement => exact ⟨permits_unposted request seen _ trivial, fun answer => by
        cases seen <;> rfl⟩
    | _ => cases timeless
  · exact fun _ => rfl

/-! The first step. -/

theorem url_follows {request : Request} (authEndpoint clientId redirectUri : String)
    (user : CurrentUser) (instanceId : String)
    (listed : redirectUri ∈ settings.allowedRedirectUris) :
    (buildAuthorizationUrl settings authEndpoint clientId redirectUri OutlookGraphAdapter.scopes
      user.sub instanceId settings.stateKey OutlookGraphAdapter.extraAuthorizationParams).Follows
      (flowMonitor settings request)
      (fun outcome seen => ∀ offered, outcome = .ok offered →
        ∃ issued flow, seen = some issued ∧
          Offered settings user.sub instanceId redirectUri offered flow issued) none := by
  have failed (error : PyError) (seen : Option Time) (offered : OAuthAuthorizationRequest)
      (impossible : (Except.error error : Except PyError OAuthAuthorizationRequest) = .ok offered) :
      ∃ issued flow, seen = some issued ∧
        Offered settings user.sub instanceId redirectUri offered flow issued := by
    cases impossible
  unfold buildAuthorizationUrl generatePkce encodeState encryptFresh
  simp only [Prog.bind_eq, Prog.pure_eq, Prog.bind_assoc, Prog.bind_ret]
  refine unposted_then trivial (fun verifier => ?_) failed
  refine unposted_then trivial (fun random => ?_) failed
  refine unposted_then trivial (fun instant => ?_) failed
  refine unposted_then trivial (fun nonce => ?_) failed
  apply Prog.follows_lift_then
  · intro state sealed offered same
    obtain rfl := Except.ok.inj same
    refine ⟨instant, _, rfl, rfl, rfl, rfl, rfl, listed, ⟨nonce, sealed⟩, ?_, ?_⟩
    · rw [url_param]
      simp [updateParams, OutlookGraphAdapter.extraAuthorizationParams, List.lookup_cons]
    · rw [url_param]
      simp [updateParams, OutlookGraphAdapter.extraAuthorizationParams, List.lookup_cons]
  · exact fun error _ => failed error _

theorem initiate_follows {request : Request} (user : CurrentUser) (instanceId redirectUri : String) :
    (initiateGrant settings user instanceId redirectUri).Follows (flowMonitor settings request)
      (fun outcome seen => ∀ offered, outcome = .ok offered →
        ∃ issued flow, seen = some issued ∧
          Offered settings user.sub instanceId redirectUri offered flow issued) none := by
  have failed (error : PyError) (seen : Option Time) (offered : OAuthAuthorizationRequest)
      (impossible : (Except.error error : Except PyError OAuthAuthorizationRequest) = .ok offered) :
      ∃ issued flow, seen = some issued ∧
        Offered settings user.sub instanceId redirectUri offered flow issued := by
    cases impossible
  apply Prog.follows_then (gates_timeless user instanceId none)
  · intro row seen unread
    subst unread
    apply Prog.follows_require_then
    · intro listed
      apply Prog.follows_lift_then
      · intro adapter _
        apply Prog.follows_require_then
        · exact fun _ => url_follows _ _ redirectUri user instanceId listed
        · exact fun _ => failed _ _
      · exact fun error _ => failed error _
    · exact fun _ => failed _ _
  · exact fun error seen _ => failed error seen

/-! The second step. -/

theorem decode_follows {request : Request} (state : String) :
    (decodeState settings state settings.stateKey).Follows (flowMonitor settings request)
      (fun outcome seen => ∀ flow, outcome = .ok flow → ∃ used, seen = some used ∧
        decodeFlow settings.aead state settings.stateKey = .ok flow ∧
        unixSeconds used - flow.issuedAt ≤ defaultStateMaxAgeSeconds) none := by
  apply Prog.follows_lift_then
  · intro flow decoded
    refine unposted_then trivial (fun used => ?_) (fun error seen flow impossible => by cases impossible)
    apply (Prog.follows_lift ..).mpr
    intro aged same
    unfold checkAge at same
    split at same
    · cases same
    · split at same
      · cases same
      · obtain rfl := Except.ok.inj same
        exact ⟨used, rfl, decoded, by omega⟩
  · intro error _ flow impossible
    cases impossible

theorem exchange_follows {request : Request} {seen : Option Time} (tokenEndpoint clientId clientSecret
    redirectUri code codeVerifier : String)
    (permitted : ∀ url form, form.lookup "redirect_uri" = some redirectUri →
      form.lookup "code_verifier" = some codeVerifier →
      Permits settings request seen (.http (.post url form))) :
    (exchangeCodeForTokens tokenEndpoint clientId clientSecret redirectUri code codeVerifier).Follows
      (flowMonitor settings request) (fun _ _ => True) seen := by
  unfold exchangeCodeForTokens postTokenEndpoint
  apply (Prog.follows_bind ..).mpr
  apply (Prog.follows_handle ..).mpr
  apply (Prog.follows_perform ..).mpr
  constructor
  · apply permitted <;> unfold withSecret <;> split <;> simp [List.lookup_cons]
  · intro answer
    cases answer with
    | error error =>
        dsimp only
        split <;> trivial
    | ok response =>
        apply follows_unposted
        refine only_bind (only_lift _) fun data => only_bind ?_ fun instant => only_lift _
        exact only_bind (only_perform trivial) fun instant => trivial

theorem unposted_identity (accessToken : String) :
    (fetchUserIdentity accessToken).Only Unposted := by
  refine only_bind (only_handle (only_perform trivial) fun exc => ?_) fun response => only_lift _
  split <;> trivial

theorem unposted_health (accessToken : String) : (health accessToken).Only Unposted := by
  refine only_handle (only_bind (only_perform trivial) fun response => trivial) fun exc => ?_
  split <;> trivial

theorem authorize_follows (user : CurrentUser) (instanceId code state : String)
    (requestId : Option String) :
    (authorize settings user instanceId code state).Follows
      (flowMonitor settings (.completeGrant user instanceId code state requestId))
      (fun _ _ => True) none := by
  apply Prog.follows_then (decode_follows state)
  · intro flow seen facts
    -- What the state opens to is checked before anything is posted.
    obtain ⟨used, rfl, decoded, age⟩ := facts flow rfl
    apply Prog.follows_require_then
    · intro owner
      apply Prog.follows_require_then
      · intro place
        apply Prog.follows_then (gates_timeless user instanceId (some used))
        · intro row seen unread
          subst unread
          apply Prog.follows_lift_then
          · intro adapter _
            apply Prog.follows_require_then
            · intro _
              apply Prog.follows_lift_then
              · intro clientSecret _
                apply Prog.follows_then
                · apply exchange_follows
                  intro url form redirect verifier
                  exact ⟨used, flow, rfl, decoded, owner, place, age, redirect, verifier⟩
                · intro tokens seen _
                  apply follows_unposted
                  refine only_bind (unposted_identity _) fun identity => ?_
                  exact only_bind (unposted_health _) fun healthOk => trivial
                · exact fun _ _ _ => trivial
              · exact fun _ _ => trivial
            · exact fun _ => trivial
          · exact fun _ _ => trivial
        · exact fun _ _ _ => trivial
      · exact fun _ => trivial
    · exact fun _ => trivial
  · exact fun _ _ _ => trivial

theorem complete_follows (user : CurrentUser) (instanceId code state : String)
    (requestId : Option String) :
    (completeGrant settings user instanceId code state requestId).Follows
      (flowMonitor settings (.completeGrant user instanceId code state requestId))
      (fun _ _ => True) none := by
  apply Prog.follows_then (authorize_follows user instanceId code state requestId)
  · intro granted seen _
    apply follows_unposted
    refine only_bind (only_bind (only_perform trivial) fun _ => only_require _ _) fun _ => ?_
    refine only_bind (only_bind (only_perform trivial) fun _ => trivial) fun seq => ?_
    refine only_bind (only_perform trivial) fun instant => ?_
    refine only_bind (only_bind (only_perform trivial) fun nonce => only_lift _) fun sealed => ?_
    refine only_bind (only_perform trivial) fun _ => only_bind ?_ fun _ => trivial
    exact only_of_straight (Footprint.logging_record_consent ..) fun op logging => by
      cases op with
      | http request => cases logging
      | _ => trivial
  · exact fun _ _ _ => trivial

theorem flow_served (settings : Settings) (request : Request) :
    (flowProtocol settings).Served (reply settings) request := by
  cases request with
  | initiateGrant user instanceId redirectUri =>
      apply Prog.follows_then (initiate_follows user instanceId redirectUri)
      · exact fun offered seen facts => facts offered rfl
      · exact fun _ _ _ => trivial
  | completeGrant user instanceId code state requestId =>
      have dropped : (serve settings (.completeGrant user instanceId code state requestId)).Follows
          (flowMonitor settings (.completeGrant user instanceId code state requestId))
          (fun _ _ => True) none :=
        Prog.follows_then (complete_follows user instanceId code state requestId)
          (fun _ _ _ => trivial) fun _ _ _ => trivial
      exact Prog.follows_then dropped (fun _ _ _ => trivial) fun _ _ _ => trivial
  | _ => exact Prog.follows_confined (Prog.only_any _) (fun _ _ _ => trivial) fun _ _ => trivial

/-! Flows side by side. -/

/-- Every form a `complete_grant` call has posted is bound to its state. -/
def PostsBound (settings : Settings) (task : ReplyTask) : Prop :=
  ∀ user instanceId code state requestId url form answer,
    task.request = .completeGrant user instanceId code state requestId →
    (⟨.http (.post url form), answer⟩ : (op : Op) × Except PyError op.Res) ∈ task.log →
    ∃ used flow, callClock task.log = some used ∧
      Exchanges settings user.sub instanceId state form flow used

theorem call_clock_append (log : List ((op : Op) × Except PyError op.Res)) (op : Op)
    (answer : Except PyError op.Res) :
    callClock (log ++ [⟨op, answer⟩]) = noteClock (callClock log) op answer := by
  simp only [callClock, List.foldl_append, List.foldl_cons, List.foldl_nil]

theorem posts_bound_perform {task : ReplyTask} {op : Op} {prog : Hub Replying.Reply}
    {answer : Except PyError op.Res} (bound : PostsBound settings task)
    (permitted : Permits settings task.request (callClock task.log) op) :
    PostsBound settings ⟨task.request, task.log ++ [⟨op, answer⟩], prog⟩ := by
  intro user instanceId code state requestId url form reply call member
  dsimp only at call member ⊢
  rw [call_clock_append]
  rcases List.mem_append.mp member with earlier | last
  · obtain ⟨used, flow, read, exchanges⟩ := bound user instanceId code state requestId url form reply
      call earlier
    rw [read, note_kept]
    exact ⟨used, flow, rfl, exchanges⟩
  · cases List.mem_singleton.mp last
    rw [call] at permitted
    obtain ⟨used, flow, read, exchanges⟩ := permitted
    rw [read, note_kept]
    exact ⟨used, flow, rfl, exchanges⟩

theorem posts_bound_play (settings : Settings) (outside : Outside N) (world : World N)
    (events : List (Event Request)) :
    ((⟨world, []⟩ : ReplyPool N).play (exec outside) instant (reply settings) events).Watched
        (flowProtocol settings) ∧
      ∀ task ∈ ((⟨world, []⟩ : ReplyPool N).play (exec outside) instant (reply settings) events).tasks,
        PostsBound settings task := by
  apply play_watched (fun pool : ReplyPool N => ∀ task ∈ pool.tasks, PostsBound settings task)
  · exact flow_served settings
  · intro pool request bound task member
    rcases List.mem_append.mp member with earlier | last
    · exact bound task earlier
    · rw [List.mem_singleton.mp last]
      intro user instanceId code state requestId url form answer _ impossible
      cases impossible
  · intro pool i task op resume bound found left follows other member
    obtain ⟨j, after⟩ := List.mem_iff_getElem?.mp member
    rcases get_perform found after with ⟨rfl, rfl⟩ | ⟨_, before⟩
    · exact posts_bound_perform (bound task (List.mem_of_getElem? found)) follows.1
    · exact bound other (List.mem_of_getElem? before)
  · intro i task impossible
    cases impossible
  · intro task impossible
    cases impossible

/-- What a post of `complete_grant` has in common with the call that minted its state. -/
structure Bound (settings : Settings) (granter user : CurrentUser)
    (grantedId instanceId redirectUri authUrl : String) (form : List (String × String))
    (issued used : Option Time) : Prop where
  user : user.sub = granter.sub
  place : instanceId = grantedId
  listed : redirectUri ∈ settings.allowedRedirectUris
  redirect : form.lookup "redirect_uri" = some redirectUri
  redirectParam : urlParam authUrl "redirect_uri" = some redirectUri
  challenge : ∃ verifier, form.lookup "code_verifier" = some verifier ∧
    urlParam authUrl "code_challenge" = some (b64urlNoPad (settings.sha256 (utf8Encode verifier)))
  recent : ∃ begun ended, issued = some begun ∧ used = some ended ∧
    unixSeconds ended - unixSeconds begun ≤ 600

/-- However flows overlap, a `complete_grant` call that posts with a state some
`initiate_grant` call returned is bound to that call. -/
theorem posts_bound_to_flow (settings : Settings) (outside : Outside N) (world : World N)
    (events : List (Event Request)) (offering completing : ReplyTask) (granter user : CurrentUser)
    (grantedId instanceId redirectUri code url : String) (requestId : Option String)
    (offered : OAuthAuthorizationRequest) (form : List (String × String))
    (answer : Except PyError HttpResponse) (lawful : settings.aead.Lawful)
    (offers : offering ∈
      ((⟨world, []⟩ : ReplyPool N).play (exec outside) instant (reply settings) events).tasks)
    (initiates : offering.request = .initiateGrant granter grantedId redirectUri)
    (returned : offering.prog = .ret (.offered offered))
    (completes : completing ∈
      ((⟨world, []⟩ : ReplyPool N).play (exec outside) instant (reply settings) events).tasks)
    (presents : completing.request =
      .completeGrant user instanceId code offered.state requestId)
    (posted : ⟨.http (.post url form), answer⟩ ∈ completing.log) :
    Bound settings granter user grantedId instanceId redirectUri offered.authUrl form
      (callClock offering.log) (callClock completing.log) := by
  obtain ⟨watched, bound⟩ := posts_bound_play settings outside world events
  obtain ⟨i, found⟩ := List.mem_iff_getElem?.mp offers
  have follows := watched i offering found
  rw [Task.Watched, returned, initiates] at follows
  obtain ⟨issued, flow, read, facts⟩ := follows
  obtain ⟨used, opened, used_read, exchanges⟩ := bound completing completes user instanceId code
    offered.state requestId url form answer presents posted
  -- The state opens to the flow it was sealed from.
  obtain ⟨nonce, sealed⟩ := facts.sealed
  have decoded := decode_sealed_flow lawful flow settings.stateKey nonce offered.state sealed
  rw [exchanges.decoded] at decoded
  obtain rfl := Except.ok.inj decoded
  have recent := exchanges.age
  rw [facts.issuedAt] at recent
  exact
    { user := exchanges.user.symm.trans facts.user
      place := exchanges.place.symm.trans facts.place
      listed := facts.listed
      redirect := facts.redirect ▸ exchanges.redirect
      redirectParam := facts.redirectParam
      challenge := ⟨opened.codeVerifier, exchanges.verifier, facts.challengeParam⟩
      recent := ⟨issued, used, read, used_read, recent⟩ }

/-! One flow on the sample Hub. -/

def offerEvents : List (Event Request) :=
  [.start (.initiateGrant sampleUser "mail" "http://127.0.0.1/callback"), .resume 0, .resume 0]

def completion : Request := .completeGrant sampleUser "mail" "code" offeredState none

def completeEvents : List (Event Request) := [.resume 1, .resume 1, .resume 1, .resume 1]

def sampleRun (events : List (Event Request)) : ReplyPool Unit :=
  (⟨⟨mappedStore, ()⟩, []⟩ : ReplyPool Unit).play (exec (Outside.still provider)) instant
    (reply sampleSettings) events

def postsForm (entry : (op : Op) × Except PyError op.Res) : Bool :=
  match entry.1 with
  | .http (.post _ _) => true
  | _ => false

theorem sample_run : ∃ offered completed authUrl prog,
    (sampleRun (offerEvents ++ .start completion :: completeEvents)).tasks =
        [⟨.initiateGrant sampleUser "mail" "http://127.0.0.1/callback", offered,
            .ret (.offered ⟨authUrl, offeredState⟩)⟩,
          ⟨completion, completed, prog⟩] ∧
      completed.any postsForm = true := by
  have step (pool : ReplyPool Unit) : pool.play (exec (Outside.still provider)) instant
      (reply sampleSettings) (.start completion :: completeEvents) =
      (⟨pool.state, pool.tasks ++ [⟨completion, [], reply sampleSettings completion⟩]⟩ :
        ReplyPool Unit).play (exec (Outside.still provider)) instant (reply sampleSettings)
        completeEvents := rfl
  rw [sampleRun, play_append, step]
  -- The state is not decrypted again: it opens to the flow it was sealed from.
  have opened : reply sampleSettings completion = reply sampleSettings completion := rfl
  conv at opened =>
    rhs
    rw [completion, reply_complete]
    unfold completeGrant authorize
    rw [decode_state_offered]
  rw [opened]
  exact ⟨_, _, _, _, rfl, rfl⟩

theorem sample_post_bound : ∃ offering completing form authUrl,
    offering ∈ (sampleRun (offerEvents ++ .start completion :: completeEvents)).tasks ∧
      completing ∈ (sampleRun (offerEvents ++ .start completion :: completeEvents)).tasks ∧
      Bound sampleSettings sampleUser sampleUser "mail" "mail" "http://127.0.0.1/callback" authUrl form
        (callClock offering.log) (callClock completing.log) := by
  obtain ⟨offered, completed, authUrl, prog, tasks, posts⟩ := sample_run
  obtain ⟨⟨op, answer⟩, member, post⟩ := List.any_eq_true.mp posts
  cases op with
  | http request =>
      cases request with
      | post url form =>
          refine ⟨_, _, form, authUrl, tasks ▸ List.mem_cons_self,
            tasks ▸ List.mem_cons_of_mem _ List.mem_cons_self, ?_⟩
          exact posts_bound_to_flow sampleSettings (Outside.still provider) ⟨mappedStore, ()⟩
            (offerEvents ++ .start completion :: completeEvents) _ _ sampleUser sampleUser "mail" "mail"
            "http://127.0.0.1/callback" "code" url none ⟨authUrl, offeredState⟩ form answer
            tagging_aead_lawful (tasks ▸ List.mem_cons_self) rfl rfl
            (tasks ▸ List.mem_cons_of_mem _ List.mem_cons_self) rfl member
      | get url bearer => cases post
  | _ => cases post

end Lehen.Binding
