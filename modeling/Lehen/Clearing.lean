import Lehen.Offering
import Lehen.Granting
import Lehen.Keeping
import Lehen.Refreshing

/-!
Credentials of ended connections. The cascades wipe the rows they end; `revoke`
ends rows and leaves their credentials, and token retrieval writes by id.
-/

namespace Lehen.Clearing

open Storage OAuth AuditService ConnectionsService Footprint Keeping
open Prog (Keeps Leaves keeps_bind keeps_only keeps_perform keeps_forEach keeps_of_drop)

variable {N : Type} {settings : Settings} {outside : Outside N}

def ClearedRow (row : ConnectionRow) : Prop :=
  row.disconnectedAt.isSome = true → row.encryptedCredentials = none

/-- No row that has ended carries credentials. -/
def Cleared (rows : List ConnectionRow) : Prop := ∀ row ∈ rows, ClearedRow row

/-- The rows `revoke` selects. -/
def revocation (user : CurrentUser) (instanceId : String) : Option String → ConnectionWhere
  | none => .ofUserOn user.sub instanceId
  | some externalSubject => .ofMailbox user.sub instanceId externalSubject

/-- No row with one of the ids carries credentials. -/
def Bare (rows : List ConnectionRow) (ids : List String) : Prop :=
  ∀ row ∈ rows, row.id ∈ ids → row.encryptedCredentials = none

/-- A revocation selects rows without credentials, and a token call reads a row
whose id no ended row has. -/
def Careful (world : World N) : Request → Prop
  | .revoke user instanceId externalSubject _ =>
      Bare world.store.connections ((world.store.connections.filter
        (revocation user instanceId externalSubject).holds).map ConnectionRow.id)
  | .getValidAccessToken id _ _ =>
      (usableRow (world.store.connections.filter (ConnectionWhere.withId id).holds)).isSome = true →
        ∀ row ∈ world.store.connections, row.id = id → row.isActive = true
  | _ => True

/-! What one update does to a row. -/

theorem cleared_update {rows : List ConnectionRow} {id : String} {set : ConnectionSet}
    (cleared : Cleared rows)
    (harmless : ∀ row ∈ rows, row.id = id → ClearedRow row → ClearedRow (set.apply row)) :
    Cleared (setWhereId id set rows) := by
  intro changed member
  obtain ⟨row, earlier, rfl⟩ := List.mem_map.mp member
  by_cases named : row.id = id
  · rw [if_pos named]
    exact harmless row earlier named (cleared row earlier)
  · rw [if_neg named]
    exact cleared row earlier

theorem bare_update {rows : List ConnectionRow} {ids : List String} {id : String} {ts : Time}
    (bare : Bare rows ids) : Bare (setWhereId id (.disconnect ts) rows) ids := by
  intro changed member
  obtain ⟨row, earlier, rfl⟩ := List.mem_map.mp member
  by_cases named : row.id = id
  · rw [if_pos named]
    exact bare row earlier
  · rw [if_neg named]
    exact bare row earlier

theorem cleared_same {world after : World N} (same : after.store.connections = world.store.connections)
    (cleared : Cleared world.store.connections) : Cleared after.store.connections := by
  rw [same]
  exact cleared

/-! Cascades and grants. -/

theorem cleared_withdrawing (op : Op) (world : World N) (withdrawing : Withdrawing op)
    (cleared : Cleared world.store.connections) :
    Cleared (exec outside op world).2.store.connections := by
  unfold Withdrawing at withdrawing
  split at withdrawing
  · rename_i id ts reason
    rcases exec_moves outside (.updateConnections id (.withdraw ts reason)) world with same | same
    · exact cleared_same (by rw [same]) cleared
    · rw [same]
      exact cleared_update cleared fun row _ _ _ _ => rfl
  · exact cleared_same (calm_tables outside op world withdrawing).connections cleared

theorem cleared_insert {rows : List ConnectionRow} {row : ConnectionRow} (cleared : Cleared rows)
    (active : row.isActive = true) : Cleared (rows ++ [row]) := by
  intro other member
  rcases List.mem_append.mp member with earlier | new
  · exact cleared other earlier
  · rw [List.mem_singleton.mp new]
    intro ended
    rw [ConnectionRow.isActive, Option.isNone_iff_eq_none] at active
    rw [active] at ended
    cases ended

theorem cleared_granting (request : Request) (userSub instanceId : String)
    (monitor : Granting.requestMonitor request = Granting.grantMonitor userSub instanceId) :
    Keeps (exec outside) (fun world => Cleared world.store.connections)
      (serve settings request) := by
  intro world cleared
  have served := Granting.grant_served settings request
  have follows : (serve settings request).Follows (Granting.grantMonitor userSub instanceId)
      (fun _ _ => True) {} := monitor ▸ served
  apply Prog.leaves_mono (Prog.leaves_follows
    (fun _ world => Cleared (World.store world).connections) follows cleared ?_)
  · exact fun _ _ held => held.1
  · intro view op world cleared allowed
    rcases Granting.allowed_cases allowed with ⟨row, rfl, licensed⟩ | calm
    · rcases exec_moves outside (.insertConnection row) world with same | same
      · exact cleared_same (by rw [same]) cleared
      · rw [same]
        exact cleared_insert cleared licensed.active
    · exact cleared_same (calm_tables outside op world calm).connections cleared

/-! Revocation by the user. -/

/-- The rows to be ended carry no credentials, whoever else has their ids. -/
def Disarmed (ids : List String) (world : World N) : Prop :=
  Cleared world.store.connections ∧ Bare world.store.connections ids

theorem disarmed_calm {ids : List String} (op : Op) (world : World N) (calm : Calm op)
    (disarmed : Disarmed ids world) : Disarmed ids (exec outside op world).2 := by
  have same := (calm_tables outside op world calm).connections
  rw [Disarmed, same]
  exact disarmed

theorem disarmed_disconnect {ids : List String} (id : String) (ts : Time) (named : id ∈ ids) :
    Keeps (exec outside) (Disarmed ids)
      (command (.updateConnections id (.disconnect ts)) : Hub Unit) := by
  apply keeps_perform
  intro world disarmed
  rcases exec_moves outside (.updateConnections id (.disconnect ts)) world with same | same
  · rw [Disarmed, same]
    exact disarmed
  · rw [Disarmed, same]
    constructor
    · apply cleared_update disarmed.1
      intro row member same _ _
      exact disarmed.2 row member (same ▸ named)
    · exact bare_update disarmed.2

theorem revoke_cleared (user : CurrentUser) (instanceId : String)
    (externalSubject requestId : Option String) (world : World N)
    (cleared : Cleared world.store.connections)
    (careful : Careful world (.revoke user instanceId externalSubject requestId)) :
    Leaves (exec outside) (revoke settings user instanceId externalSubject requestId) world
      fun _ after => Cleared after.store.connections := by
  have selected : revoke settings user instanceId externalSubject requestId =
      (query (.selectConnections (revocation user instanceId externalSubject))).bind fun active =>
        (Prog.require (active ≠ [])
          ⟨.connectionNotFoundError,
            s!"no active connection for ({user.sub}, {instanceId})"⟩).bind fun _ =>
          now.bind fun instant => Prog.forEach active fun row =>
            (command (.updateConnections row.id (.disconnect instant))).bind fun _ =>
              recordConsent settings user "revoked" instanceId row.connectionSeq
                row.privacyClass row.externalSubject requestId instant := by
    cases externalSubject <;> rfl
  rw [selected]
  apply leaves_read_then rfl
  · intro error after _ same
    exact cleared_same (by rw [same]) cleared
  · intro after same
    have disarmed : Disarmed ((world.store.connections.filter
        (revocation user instanceId externalSubject).holds).map ConnectionRow.id) after := by
      rw [Disarmed, same]
      exact ⟨cleared, careful⟩
    have calm {α : Type} {body : Hub α} (calm : body.Only Calm) : Keeps (exec outside)
        (Disarmed ((world.store.connections.filter
          (revocation user instanceId externalSubject).holds).map ConnectionRow.id)) body :=
      keeps_only calm disarmed_calm
    suffices rest : Leaves (exec outside) _ after fun _ last => Disarmed
        ((world.store.connections.filter
          (revocation user instanceId externalSubject).holds).map ConnectionRow.id) last from
      Prog.leaves_mono rest fun _ _ held => held.1
    refine keeps_bind (calm (Prog.only_require _ _)) ?_ after disarmed
    intro _
    apply keeps_bind (keeps_perform (disarmed_calm .clock · trivial))
    intro instant
    apply keeps_forEach
    intro row member
    apply keeps_bind
    · exact disarmed_disconnect row.id instant (List.mem_map_of_mem member)
    · intro _
      apply calm
      exact Prog.only_of_straight (logging_record_consent ..) fun op logging =>
        calm_of_quiet op (quiet_of_logging op logging)

/-! Token retrieval. -/

/-- The row a call may write shares its id with active rows only. -/
def Separate (stage : Refreshing.Stage) (world : World N) : Prop :=
  Cleared world.store.connections ∧ ∀ row, stage.pending = some row →
    ∀ other ∈ world.store.connections, other.id = row.id → other.isActive = true

theorem separate_calm {stage : Refreshing.Stage} (op : Op) (world : World N) (calm : Calm op)
    (separate : Separate stage world) : Separate stage (exec outside op world).2 := by
  have same := (calm_tables outside op world calm).connections
  rw [Separate, same]
  exact separate

theorem separate_update {stage : Refreshing.Stage} {row : ConnectionRow} {world : World N}
    (set : ConnectionSet) (renewal : set = .stale ∨ ∃ envelope, set = .credentials envelope)
    (pending : stage.pending = some row) (separate : Separate stage world) :
    Separate stage { world with store :=
      { world.store with connections := setWhereId row.id set world.store.connections } } := by
  have kept (other : ConnectionRow) : (set.apply other).id = other.id ∧
      (set.apply other).disconnectedAt = other.disconnectedAt := by
    rcases renewal with rfl | ⟨envelope, rfl⟩ <;> exact ⟨rfl, rfl⟩
  obtain ⟨cleared, active⟩ := separate
  constructor
  · apply cleared_update cleared
    intro other member named _ ended
    have open_ := active row pending other member named
    rw [(kept other).2, ← Option.not_isNone] at ended
    rw [ConnectionRow.isActive] at open_
    rw [open_] at ended
    cases ended
  · intro held holds changed member named
    obtain rfl : held = row := Option.some.inj (holds.symm.trans pending)
    obtain ⟨other, earlier, rfl⟩ := List.mem_map.mp member
    by_cases hit : other.id = held.id
    · rw [if_pos hit, ConnectionRow.isActive, (kept other).2]
      exact active held pending other earlier hit
    · rw [if_neg hit] at named
      exact absurd named hit

theorem separate_exec {id : String} {stage : Refreshing.Stage} (op : Op) (world : World N)
    (separate : Separate stage world) (allowed : stage.Allows settings id op) :
    Separate stage (exec outside op world).2 := by
  rcases Refreshing.writes_renewal allowed with calm | ⟨row, set, rfl, pending, renewal⟩
  · exact separate_calm op world calm separate
  · rcases exec_moves outside (.updateConnections row.id set) world with same | same
    · rw [Separate, same]
      exact separate
    · have updated := separate_update set renewal pending separate
      rw [Separate, same]
      exact updated

theorem idle_before {stage : Refreshing.Stage} {op : Op} {answer : Except PyError op.Res}
    (idle : stage.next settings op answer = .idle) : stage = .idle := by
  cases stage with
  | idle => rfl
  | _ =>
      unfold Refreshing.Stage.next at idle
      split at idle <;> first
        | cases idle
        | contradiction
        | (unfold Refreshing.Stage.ofPlace at idle
           split at idle
           · cases idle
           · split at idle <;> cases idle)

theorem access_token_cleared (id : String) (clockSkewSeconds : Int) (nowTs : Option Int)
    (world : World N) (cleared : Cleared world.store.connections)
    (careful : Careful world (.getValidAccessToken id clockSkewSeconds nowTs)) :
    Leaves (exec outside) (getValidAccessToken settings id clockSkewSeconds nowTs) world
      fun _ after => Cleared after.store.connections := by
  have follows := Refreshing.access_token_follows settings id clockSkewSeconds nowTs
  apply Prog.leaves_mono (Prog.leaves_follows
    (fun (stage : Refreshing.Stage) (now : World N) => Separate stage now ∧
      (stage = .idle → now.store.connections = world.store.connections)) follows ?_ ?_)
  · exact fun _ _ held => held.1.1.1
  · exact ⟨⟨cleared, nofun⟩, fun _ => rfl⟩
  · rintro stage op now ⟨separate, unread⟩ allowed
    have stepped : Separate stage (exec outside op now).2 := separate_exec op now separate allowed
    constructor
    · refine ⟨stepped.1, fun row pending => ?_⟩
      rcases Refreshing.pending_read pending with before | ⟨rows, found, envelope, same, usable⟩
      · exact stepped.2 row before
      · obtain ⟨rfl, answered⟩ := Sigma.mk.inj same
        have answer := eq_of_heq answered
        cases stage with
        | idle =>
            obtain rfl : rows = .withId id := allowed
            rcases exec_read outside (.selectConnections (.withId id)) now rfl with
              ⟨_, refused, _⟩ | ⟨read, stored⟩
            · rw [refused] at answer
              cases answer
            · rw [read] at answer
              obtain rfl := Except.ok.inj answer
              simp only [StoreOp.apply] at usable stored
              rw [unread rfl] at usable
              have named := (List.mem_filter.mp (List.mem_of_head?
                (Refreshing.usable_found usable).1)).2
              simp only [ConnectionWhere.holds, decide_eq_true_eq] at named
              rw [stored, unread rfl, named]
              exact careful (by rw [usable]; rfl)
        | _ => cases allowed
    · intro idle
      obtain rfl := idle_before idle
      rcases Refreshing.writes_renewal allowed with calm | ⟨row, set, _, pending, _⟩
      · rw [(calm_tables outside op now calm).connections]
        exact unread rfl
      · cases pending

/-! Over every run whose requests are careful. -/

theorem cleared_kept (world : World N) (request : Request)
    (cleared : Cleared world.store.connections) (careful : Careful world request) :
    Cleared ((serve settings request).run (exec outside) world).2.store.connections := by
  have withdrawing {α : Type} {body : Hub α} (only : body.Only Withdrawing) :
      Keeps (exec outside) (fun world => Cleared world.store.connections) body :=
    keeps_only only cleared_withdrawing
  have keeps (plain : ∀ user instanceId externalSubject requestId,
        request ≠ .revoke user instanceId externalSubject requestId)
      (other : ∀ id clockSkewSeconds nowTs, request ≠ .getValidAccessToken id clockSkewSeconds nowTs) :
      Keeps (exec outside) (fun world => Cleared world.store.connections)
        (serve settings request) := by
    apply keeps_serve
    · intro op world administering
      exact cleared_same (administering_tables outside op world administering).1
    · intro op world asking
      exact cleared_same (by rw [asking_store outside op world asking])
    · intro user instanceId privacyClass externalSubject displayLabel requestId _
      exact keeps_of_drop (cleared_granting (.grant user instanceId privacyClass externalSubject
        displayLabel requestId) user.sub instanceId rfl)
    · intro user instanceId code state requestId _
      exact keeps_of_drop (cleared_granting (.completeGrant user instanceId code state requestId)
        user.sub instanceId rfl)
    · exact fun user instanceId externalSubject requestId same => absurd same (plain _ _ _ _)
    · exact fun instanceId reason requestId _ => withdrawing (withdrawing_revoke_all ..)
    · exact fun previousMapping newMapping requestId =>
        withdrawing (withdrawing_revoke_unauthorized ..)
    · exact fun id clockSkewSeconds nowTs same => absurd same (other _ _ _)
  cases request with
  | revoke user instanceId externalSubject requestId =>
      exact revoke_cleared user instanceId externalSubject requestId world cleared careful
  | getValidAccessToken id clockSkewSeconds nowTs =>
      exact Prog.leaves_drop
        (access_token_cleared id clockSkewSeconds nowTs world cleared careful)
  | _ => exact keeps nofun nofun world cleared

/-- In every world that careful requests reach, no ended connection carries
credentials. -/
theorem ended_connections_cleared (settings : Settings) (outside : Outside N) (world : World N)
    (reached : ReachableUnder settings outside Careful world) :
    ∀ row ∈ world.store.connections, row.disconnectedAt.isSome = true →
      row.encryptedCredentials = none :=
  reachable_under_kept (fun store => Cleared store.connections) nofun cleared_kept reached

/-! A user who connects by OAuth and revokes. -/

def connectAndRevoke : List Request :=
  [.initiateGrant sampleUser "mail" "http://127.0.0.1/callback",
    .completeGrant sampleUser "mail" "code" offeredState none, .revoke sampleUser "mail" none none]

/-- The connection has ended, and the tokens of the mailbox are still there. -/
theorem revoked_keeps_credentials :
    Reachable sampleSettings (Outside.still provider) (consented connectAndRevoke) ∧
      ∃ row ∈ (consented connectAndRevoke).store.connections,
        row.disconnectedAt.isSome = true ∧ row.encryptedCredentials.isSome = true := by
  constructor
  · exact reachable_serve_all _ (.empty ())
  · unfold consented connectAndRevoke setUp
    rw [List.cons_append, List.cons_append, List.nil_append, serve_all_cons, serve_all_cons,
      serve_all_cons, serve_all_cons, serve_all_cons, serve_all_nil, serve_complete]
    unfold completeGrant authorize
    rw [decode_state_offered]
    decide +kernel

/-- A stub connection that its user revokes, and one with tokens that a cascade ends. -/
def revokeAndSweep : List Request :=
  [.grant sampleUser "mail" defaultPrivacyClass "" "" none, .revoke sampleUser "mail" none none,
    .initiateGrant sampleUser "mail" "http://127.0.0.1/callback",
    .completeGrant sampleUser "mail" "code" offeredState none,
    .revokeAllForInstance "mail" "integration_disabled" none]

theorem swept_tokens :
    (consented (revokeAndSweep.take 4)).store.connections.countP
        (fun row => row.isActive && row.encryptedCredentials.isSome) = 1 ∧
      (consented revokeAndSweep).store.connections.countP (fun row => row.disconnectedAt.isSome) = 2 := by
  unfold consented revokeAndSweep setUp
  simp only [List.take_succ_cons, List.take_zero, List.cons_append, List.nil_append, serve_all_cons,
    serve_all_nil, serve_complete]
  unfold completeGrant authorize
  rw [decode_state_offered]
  decide +kernel

theorem revoked_and_swept_cleared :
    (consented revokeAndSweep).store.connections.countP (fun row => row.disconnectedAt.isSome) = 2 ∧
    ∀ row ∈ (consented revokeAndSweep).store.connections, row.disconnectedAt.isSome = true →
      row.encryptedCredentials = none := by
  refine ⟨swept_tokens.2, ?_⟩
  apply ended_connections_cleared sampleSettings (Outside.still provider)
  refine .request _ _ (.request _ _ (.request _ _ (.request _ _ (.request _ _ (.request _ _ (.request _ _
    (.empty ()) ?_) ?_) ?_) ?_) ?_) ?_) ?_
  · trivial
  · trivial
  · trivial
  · unfold Careful Bare
    decide +kernel
  · trivial
  · trivial
  · trivial

end Lehen.Clearing
