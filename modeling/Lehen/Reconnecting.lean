import Lehen.Cardinality
import Lehen.Retrieval

/-!
Reconnecting a mailbox. A renewal that fails makes the row stale and leaves its
`disconnected_at` null, and the uniqueness check reads only the latter.
-/

namespace Lehen.Reconnecting

open Storage OAuth AuditService ConnectionsService Footprint Keeping Granting
open Uniqueness (activeRows check_truthful)
open Cardinality (complete_granted)
open Refreshing (sealTokens decode_seal)
open Retrieval (Holding Valid Refreshes rowsOf withUpdate usable_seal access_token_leaves)

variable {N : Type}

/-- What Reconnect does: `complete_grant` is given the state that `initiate_grant`
answers with. -/
def reconnect (settings : Settings) (user : CurrentUser) (instanceId redirectUri code : String)
    (requestId : Option String) : Hub ConnectionRow := do
  let request ← initiateGrant settings user instanceId redirectUri
  completeGrant settings user instanceId code request.state requestId

/-- The flow succeeded, and the mailbox has one active row, which is connected
and has a token to give. -/
structure Recovered (settings : Settings) (outside : Outside N) (box : Mailbox)
    (outcome : Except PyError ConnectionRow) (after : World N) : Prop where
  succeeded : ∃ row, outcome = .ok row
  connected : ∃ row, activeRows after.store box = [row] ∧ row.status = .connected ∧
    ∃ token, ((getValidAccessToken settings row.id).run (exec outside) after).1 = .ok (some token)

theorem ok_of_mapped {α β : Type} {outcome : Except PyError α} {f : α → β} {image : β}
    (mapped : outcome.map f = .ok image) : ∃ value, outcome = .ok value ∧ f value = image := by
  cases outcome with
  | error error => cases mapped
  | ok value => exact ⟨value, rfl, Except.ok.inj mapped⟩

variable (settings : Settings) (outside : Outside N)

/-- Neither call updates a row. -/
theorem leaves_reconnect (user : CurrentUser) (instanceId redirectUri code : String)
    (requestId : Option String) (world : World N) :
    Prog.Leaves (exec outside) (reconnect settings user instanceId redirectUri code requestId) world
      fun _ after => ∀ row ∈ world.store.connections, row ∈ after.store.connections := by
  apply leaves_asking_then (asking_initiate settings user instanceId redirectUri)
  · intro error after same row member
    rwa [same]
  · intro request between _ same
    apply Prog.leaves_mono (complete_granted settings outside user instanceId code request.state
      requestId between)
    intro _ after left row member
    rw [← same] at member
    rcases left with unchanged | ⟨granted, _, left⟩
    · rwa [unchanged]
    · rcases left.rows with kept | ⟨_, added, _, joined⟩
      · rwa [kept]
      · rw [joined]
        exact List.mem_append_left _ member

/-- A part that only asks, where its answer is known. -/
theorem leaves_answered {α : Type} {body : Hub α} (asking : body.Only Asking) {world : World N}
    {value : α} (answered : (body.run (exec outside) world).1 = .ok value) :
    Prog.Leaves (exec outside) body world fun outcome after =>
      outcome = .ok value ∧ after.store = world.store := by
  have unchanged := leaves_asked outside asking world
  exact ⟨answered, unchanged⟩

/-- A mailbox with an active row is refused, whatever the status of the row. -/
theorem complete_refused (reliable : outside.Reliable) (user : CurrentUser)
    (instanceId code state : String) (requestId : Option String) (world : World N)
    {granted : Authorized} {row : ConnectionRow}
    (authorized : ((authorize settings user instanceId code state).run (exec outside) world).1 =
      .ok granted)
    (active : row ∈ activeRows world.store ⟨user.sub, instanceId, granted.externalSubject⟩) :
    Prog.Leaves (exec outside) (completeGrant settings user instanceId code state requestId) world
      fun outcome after => after.store = world.store ∧
        ∃ text, outcome = .error ⟨.connectionAlreadyExistsError, text⟩ := by
  rw [completeGrant, Prog.bind_eq, Prog.leaves_bind]
  apply Prog.leaves_mono (leaves_answered outside (asking_authorize ..) authorized)
  rintro outcome asked ⟨rfl, same⟩
  simp only [requireUnconnected, Prog.bind_eq, Prog.bind_assoc]
  apply leaves_reliable_then reliable
  intro after stored
  have store : after.store = world.store := stored.trans same
  apply Prog.leaves_require_then
  · intro free
    -- The query would have found the row.
    rw [same] at free
    have none := check_truthful world.store ⟨user.sub, instanceId, granted.externalSubject⟩ free
    rw [none] at active
    cases active
  · exact fun _ => ⟨store, _, rfl⟩

theorem reconnect_refused (reliable : outside.Reliable) (user : CurrentUser)
    (instanceId redirectUri code : String) (requestId : Option String) (world : World N)
    {request : OAuthAuthorizationRequest} {granted : Authorized} {row : ConnectionRow}
    (offered : ((initiateGrant settings user instanceId redirectUri).run (exec outside) world).1 =
      .ok request)
    (authorized : ((authorize settings user instanceId code request.state).run (exec outside)
      ((initiateGrant settings user instanceId redirectUri).run (exec outside) world).2).1 =
        .ok granted)
    (active : row ∈ activeRows world.store ⟨user.sub, instanceId, granted.externalSubject⟩) :
    Prog.Leaves (exec outside) (reconnect settings user instanceId redirectUri code requestId) world
      fun outcome _ => ∃ text, outcome = .error ⟨.connectionAlreadyExistsError, text⟩ := by
  have asked := leaves_answered outside (asking_initiate settings user instanceId redirectUri) offered
  have both : Prog.Leaves (exec outside) (initiateGrant settings user instanceId redirectUri) world
      fun outcome after => (outcome = .ok request ∧ after.store = world.store) ∧
        ((authorize settings user instanceId code request.state).run (exec outside) after).1 =
          .ok granted := ⟨asked, authorized⟩
  rw [reconnect, Prog.bind_eq, Prog.leaves_bind]
  apply Prog.leaves_mono both
  rintro outcome between ⟨⟨rfl, same⟩, authorized⟩
  rw [← same] at active
  apply Prog.leaves_mono (complete_refused settings outside reliable user instanceId code request.state
    requestId between authorized active)
  exact fun outcome after refused => refused.2

/-- The stale row is still among the active ones, so the mailbox does not recover. -/
theorem stale_never_recovers (user : CurrentUser)
    (instanceId externalSubject redirectUri code : String) (requestId : Option String)
    (world : World N) (row : ConnectionRow)
    (active : row ∈ activeRows world.store ⟨user.sub, instanceId, externalSubject⟩)
    (stale : row.status = .stale) :
    Prog.Leaves (exec outside) (reconnect settings user instanceId redirectUri code requestId) world
      fun outcome after =>
        ¬ Recovered settings outside ⟨user.sub, instanceId, externalSubject⟩ outcome after := by
  obtain ⟨member, matching⟩ := List.mem_filter.mp active
  apply Prog.leaves_mono (leaves_reconnect settings outside user instanceId redirectUri code requestId
    world)
  intro outcome after kept recovered
  obtain ⟨only, single, connected, _⟩ := recovered.connected
  have still : row ∈ activeRows after.store ⟨user.sub, instanceId, externalSubject⟩ :=
    List.mem_filter.mpr ⟨kept row member, matching⟩
  rw [single] at still
  obtain rfl := List.mem_singleton.mp still
  rw [stale] at connected
  cases connected

variable {settings outside} in
/-- A row whose access token has expired and that has no refresh token becomes stale. -/
theorem hopeless_marked (reliable : outside.Reliable) {world : World N} {id : String}
    {clockSkewSeconds : Int} {nowTs : Option Int} {row : ConnectionRow} {tokens : OAuthTokens}
    (holding : Holding settings world id row tokens)
    (expired : ¬ Valid outside world id clockSkewSeconds nowTs tokens)
    (spent : tokens.refreshToken = none) :
    Prog.Leaves (exec outside) (serve settings (.getValidAccessToken id clockSkewSeconds nowTs)) world
      fun _ after => after.store = withUpdate world.store row.id .stale := by
  obtain ⟨envelope, usable, decoded⟩ := holding
  have same {other : ConnectionRow} {others : OAuthTokens} (held : Holding settings world id other others) :
      others = tokens := by
    obtain ⟨sealed, found, read⟩ := held
    rw [usable] at found
    cases found
    exact Option.some.inj (read.symm.trans decoded)
  have without {other : ConnectionRow} {token : String} {place : InstanceRow} :
      ¬ Refreshes settings outside world id clockSkewSeconds nowTs other token place := by
    rintro ⟨⟨others, held, _, carries⟩, _⟩
    rw [same held, spent] at carries
    cases carries
  apply Prog.leaves_drop
  apply Prog.leaves_mono (access_token_leaves settings reliable world id clockSkewSeconds nowTs)
  rintro outcome ⟨store, state⟩ (⟨served, _⟩ | ⟨_, unmanageable⟩)
  · cases served with
    | unusable missing =>
        rw [usable] at missing
        cases missing
    | stored other others held valid =>
        rw [same held] at valid
        exact absurd valid expired
    | renewed other token place response fresh nonce sealed refreshes => exact absurd refreshes without
    | stale other sealed found =>
        rw [usable] at found
        cases found
        rfl
  · exact absurd (fun _ _ _ refreshes => absurd refreshes without) unmanageable

/-! A provider that grants every code and gives no refresh token. -/

def shortLived (request : HttpRequest) (state : Unit) : Except String HttpResponse × Unit :=
  match request with
  | .post _ _ => (.ok (tokenAnswer "access-0" none), state)
  | .get _ _ => (.ok ⟨200, "", .ok (.obj [("mail", .str "ann@example.org")])⟩, state)

def annBox : Mailbox := ⟨"u1", "mail", "ann@example.org"⟩

def annTokens : OAuthTokens :=
  { accessToken := "access-0", refreshToken := none, expiresAt := 3600, scope := "" }

def annRow : ConnectionRow :=
  { id := "u1:mail:0", userSub := "u1", username := "ann", integrationInstanceId := "mail"
    connectionSeq := 0, externalSubject := "ann@example.org", displayLabel := "ann@example.org"
    privacyClass := defaultPrivacyClass, encryptedCredentials := some (sealTokens annTokens)
    status := .connected, connectedAt := 0, disconnectedAt := none
    lastHealthStatus := some "ok", lastHealthCheckAt := some 0 }

/-- The user connects. -/
def connected : World Unit :=
  serveAll sampleSettings (Outside.still shortLived) ⟨Store.empty, ()⟩ (setUp ++
    [.initiateGrant sampleUser "mail" "http://127.0.0.1/callback",
      .completeGrant sampleUser "mail" "code" offeredState none])

/-- The token has expired when it is asked for. -/
def lapsed : World Unit :=
  serveAll sampleSettings (Outside.still shortLived) connected
    [.getValidAccessToken "u1:mail:0" 60 (some 100000)]

def annPlace : InstanceRow := { samplePlace with createdBy := "ann", updatedBy := "ann" }

def annMapping : SiamRow :=
  { id := SiamService.siamId, mapping := .obj [("staff", .arr [.str "mail"])], updatedBy := "ann"
    updatedAt := 0 }

theorem connected_tables : connected.store.connections = [annRow] ∧
    connected.store.instances = [annPlace] ∧ connected.store.siam = [annMapping] := by
  unfold connected setUp
  rw [List.cons_append, List.cons_append, List.nil_append, serve_all_cons, serve_all_cons,
    serve_all_cons, serve_all_cons, serve_all_nil, serve_complete]
  unfold completeGrant authorize
  rw [decode_state_offered]
  exact ⟨rfl, rfl, rfl⟩

/-- The row becomes stale, and nothing else changes. -/
theorem lapse_leaves {world : World Unit} (rows : world.store.connections = [annRow])
    (places : world.store.instances = [annPlace]) (mapping : world.store.siam = [annMapping]) :
    Prog.Leaves (exec (Outside.still shortLived))
      (serve sampleSettings (.getValidAccessToken "u1:mail:0" 60 (some 100000))) world
      fun _ after => after.store.connections = [{ annRow with status := .stale }] ∧
        after.store.instances = [annPlace] ∧ after.store.siam = [annMapping] := by
  have found : rowsOf world.store "u1:mail:0" = [annRow] := by
    rw [rowsOf, rows]
    simp [ConnectionWhere.holds, annRow]
  have holding : Holding sampleSettings world "u1:mail:0" annRow annTokens :=
    ⟨_, usable_seal found rfl rfl, decode_seal annTokens⟩
  have expired : ¬ Valid (Outside.still shortLived) world "u1:mail:0" 60 (some 100000) annTokens := by
    simp [Valid, Retrieval.callTime, annTokens]
  apply Prog.leaves_mono (hopeless_marked (still_reliable shortLived) holding expired rfl)
  intro _ after left
  rw [left, withUpdate, rows]
  exact ⟨by simp [setWhereId, ConnectionSet.apply], places, mapping⟩

theorem lapsed_tables : lapsed.store.connections = [{ annRow with status := .stale }] ∧
    lapsed.store.instances = [annPlace] ∧ lapsed.store.siam = [annMapping] := by
  obtain ⟨rows, places, mapping⟩ := connected_tables
  rw [lapsed, serve_all_cons, serve_all_nil]
  exact lapse_leaves rows places mapping

/-- The tables the flow reads, written out. -/
theorem lapsed_eq : lapsed = ⟨{ lapsed.store with instances := [annPlace], siam := [annMapping] }, ()⟩ := by
  obtain ⟨_, places, mapping⟩ := lapsed_tables
  generalize lapsed = world at places mapping ⊢
  obtain ⟨⟨_, instances, siam, _, _, _, _⟩, _⟩ := world
  obtain rfl : instances = [annPlace] := places
  obtain rfl : siam = [annMapping] := mapping
  rfl

theorem initiate_leaves_world (world : World Unit) :
    ((initiateGrant sampleSettings sampleUser "mail" "http://127.0.0.1/callback").run
      (exec (Outside.still shortLived)) world).2 = world := by
  have same := leaves_asked (Outside.still shortLived)
    (asking_initiate sampleSettings sampleUser "mail" "http://127.0.0.1/callback") world
  dsimp only [Prog.Leaves] at same
  generalize ((initiateGrant sampleSettings sampleUser "mail" "http://127.0.0.1/callback").run
    (exec (Outside.still shortLived)) world).2 = after at same ⊢
  obtain ⟨store, state⟩ := after
  obtain ⟨_, _⟩ := world
  obtain rfl : store = _ := same
  rfl

/-- The second flow gets as far as the first one. -/
theorem flow_repeats :
    (∃ request, ((initiateGrant sampleSettings sampleUser "mail" "http://127.0.0.1/callback").run
        (exec (Outside.still shortLived)) lapsed).1 = .ok request ∧ request.state = offeredState) ∧
      ∃ granted, ((authorize sampleSettings sampleUser "mail" "code" offeredState).run
        (exec (Outside.still shortLived)) lapsed).1 = .ok granted ∧
          granted.externalSubject = annBox.externalSubject := by
  have offers : ((initiateGrant sampleSettings sampleUser "mail" "http://127.0.0.1/callback").run
      (exec (Outside.still shortLived)) lapsed).1.map OAuthAuthorizationRequest.state =
        .ok offeredState := by
    rw [lapsed_eq, offered_sealed]
    rfl
  have grants : ((authorize sampleSettings sampleUser "mail" "code" offeredState).run
      (exec (Outside.still shortLived)) lapsed).1.map Authorized.externalSubject =
        .ok annBox.externalSubject := by
    unfold authorize
    rw [lapsed_eq, decode_state_offered]
    rfl
  exact ⟨ok_of_mapped offers, ok_of_mapped grants⟩

theorem lapsed_active : { annRow with status := .stale } ∈ activeRows lapsed.store annBox := by
  obtain ⟨rows, _⟩ := lapsed_tables
  rw [activeRows, rows]
  have boxed : mailbox { annRow with status := .stale } = annBox := rfl
  exact List.mem_filter.mpr ⟨List.mem_singleton.mpr rfl, by rw [boxed]; simp; rfl⟩

/-- Everything the flow asks for is granted, and the mailbox is refused. -/
theorem lapsed_refused :
    Reachable sampleSettings (Outside.still shortLived) lapsed ∧
      (∃ row ∈ activeRows lapsed.store annBox, row.status = .stale) ∧
      (∃ request granted,
        ((initiateGrant sampleSettings sampleUser "mail" "http://127.0.0.1/callback").run
          (exec (Outside.still shortLived)) lapsed).1 = .ok request ∧
        ((authorize sampleSettings sampleUser "mail" "code" request.state).run
          (exec (Outside.still shortLived)) lapsed).1 = .ok granted ∧
        granted.externalSubject = annBox.externalSubject) ∧
      Prog.Leaves (exec (Outside.still shortLived))
        (reconnect sampleSettings sampleUser "mail" "http://127.0.0.1/callback" "code" none) lapsed
        fun outcome after => (∃ text, outcome = .error ⟨.connectionAlreadyExistsError, text⟩) ∧
          ¬ Recovered sampleSettings (Outside.still shortLived) annBox outcome after := by
  obtain ⟨⟨request, offered, state⟩, granted, authorized, subject⟩ := flow_repeats
  rw [← state] at authorized
  refine ⟨?_, ⟨_, lapsed_active, rfl⟩, ⟨request, granted, offered, authorized, subject⟩, ?_⟩
  · unfold lapsed connected
    exact reachable_serve_all _ (reachable_serve_all _ (.empty ()))
  · have active := lapsed_active
    generalize lapsed = world at offered authorized active ⊢
    have later := initiate_leaves_world world
    rw [← later] at authorized
    have boxed : annBox = ⟨sampleUser.sub, "mail", granted.externalSubject⟩ := by
      rw [subject]
      rfl
    rw [boxed] at active
    apply Prog.leaves_mono (reconnect_refused sampleSettings _ (still_reliable shortLived) sampleUser
      "mail" "http://127.0.0.1/callback" "code" none world offered authorized active)
    rintro _ after ⟨text, rfl⟩
    refine ⟨⟨text, rfl⟩, fun recovered => ?_⟩
    obtain ⟨row, succeeded⟩ := recovered.succeeded
    cases succeeded

theorem lapsed_never_recovers :
    Prog.Leaves (exec (Outside.still shortLived))
      (reconnect sampleSettings sampleUser "mail" "http://127.0.0.1/callback" "code" none) lapsed
      fun outcome after =>
        ¬ Recovered sampleSettings (Outside.still shortLived) annBox outcome after :=
  stale_never_recovers sampleSettings (Outside.still shortLived) sampleUser "mail" "ann@example.org"
    "http://127.0.0.1/callback" "code" none lapsed _ lapsed_active rfl

end Lehen.Reconnecting
