import Lehen.Dependencies
import Lehen.SingleAdmin

/-!
The auto-disable of the break-glass account across runs of the CLI, logins, admin
requests and restarts. The row is in the store, and whether there is still something to
disable is in the memory of the process.
-/

namespace Lehen.AutoDisable

open AuthState Jwks Jwt LocalAdminService Dependencies
open LocalCalls (rowOf)
open SingleAdmin (Single AllOff Harmless single_harmless off_harmless harmless_hit harmless_login
  fetch_read single_created disabled_all)
open Prog (Leaves leaves_bind leaves_perform leaves_mono leaves_only only_bind only_perform
  only_lift only_require only_handle)

variable {N : Type} (settings : AuthSettings) (outside : AuthOutside N)

/-- The body of a successful `POST /admin/local-login`. -/
structure LocalLoginResponse where
  accessToken : String
  expiresIn : Nat

/-- `api/admin/local_login.py`. -/
def localLogin (request : LoginRequest) : Auth LocalLoginResponse :=
  match settings.localAdmin with
  | none => httpError 503 "local-admin path is not configured on this Hub"
  | some admin => do
      let result ← (login settings admin request).handle fun exc =>
        if exc.kind = .localAdminAuthError then httpError 401 "authentication failed" else throw exc
      let instant ← clock
      return { accessToken := result.token, expiresIn := (result.expiresAt - instant) / 1000000 }

/-- The memory of a process when it starts. -/
def startedProcess : Process :=
  { jwks := { keys := none, fetchedAt := 0, negativeUntil := 0, locked := false }
    disableState := if settings.localAdmin.isSome then .pending else .noLocalAdmin
    events := ∅ }

inductive HubStep where
  | createAdmin
  | localLogin (request : LoginRequest)
  | adminRequest (request : Dependencies.Request)
  | restart

/-- The world a step leaves, whether it returns or raises. -/
def hubOnce (step : HubStep) (world : AuthWorld N) : AuthWorld N :=
  match step with
  | .createAdmin => ((createAdmin settings bootstrapUsername).run (authExec outside) world).2
  | .localLogin request => ((localLogin settings request).run (authExec outside) world).2
  | .adminRequest request => ((requireAdmin settings request).run (authExec outside) world).2
  | .restart =>
      ((warm settings).run (authExec outside) { world with process := startedProcess settings }).2

/-- The world after steps one after another. -/
def hubRun (world : AuthWorld N) (steps : List HubStep) : AuthWorld N :=
  steps.foldl (fun world step => hubOnce settings outside step world) world

/-- A request is let in with a token of the identity provider. -/
def Admits (request : Dependencies.Request) (world : AuthWorld N) : Prop :=
  ∃ user, ((requireAdmin settings request).run (authExec outside) world).1 = .ok user ∧
    user.identitySource ≠ localIssuer

def LogsIn (request : LoginRequest) (world : AuthWorld N) : Prop :=
  ∃ response, ((localLogin settings request).run (authExec outside) world).1 = .ok response

/-- The row of the break-glass account is absent or disabled. -/
def Off (world : AuthWorld N) : Prop :=
  ∀ row ∈ world.store.localAdmins, row.username = bootstrapUsername → row.enabled = false

/-- After every request that is let in the account is off, and nobody logs in with it
until the CLI is run. -/
structure Promised (world : AuthWorld N) (steps : List HubStep) : Prop where
  off : ∀ n request, steps[n]? = some (.adminRequest request) →
    Admits settings outside request (hubRun settings outside world (steps.take n)) →
    Off (hubRun settings outside world (steps.take (n + 1)))
  refused : ∀ (n m : Nat) request login, n < m → steps[n]? = some (.adminRequest request) →
    Admits settings outside request (hubRun settings outside world (steps.take n)) →
    (∀ k, n < k → k < m → steps[k]? ≠ some .createAdmin) → steps[m]? = some (.localLogin login) →
    ¬ LogsIn settings outside login (hubRun settings outside world (steps.take m))

/-- Whenever a request is let in, the process has not yet made its check, or the
account is off anyway. -/
def Watched (world : AuthWorld N) (steps : List HubStep) : Prop :=
  ∀ n request, steps[n]? = some (.adminRequest request) →
    Admits settings outside request (hubRun settings outside world (steps.take n)) →
    (hubRun settings outside world (steps.take n)).process.disableState = .pending ∨
      Off (hubRun settings outside world (steps.take n))

/-! Verifying a token touches neither the store nor the state of the check. -/

def Aside : AuthOp → Prop
  | .store _ => False
  | .setDisableState _ => False
  | _ => True

variable {settings outside} {world : AuthWorld N}

/-- What a world shares with another. -/
structure Alike (before after : AuthWorld N) : Prop where
  store : after.store = before.store
  disableState : after.process.disableState = before.process.disableState

theorem alike_aside (before : AuthWorld N) (op : AuthOp) (world : AuthWorld N) (aside : Aside op)
    (alike : Alike before world) : Alike before (authExec outside op world).2 := by
  cases op with
  | store statement => exact aside.elim
  | setDisableState state => exact aside.elim
  | fetch url =>
      rcases answered : outside.fetch url world.outside with ⟨_ | response, next⟩ <;>
        simp only [authExec, answered] <;> exact ⟨alike.store, alike.disableState⟩
  | _ => exact ⟨alike.store, alike.disableState⟩

theorem aside_refuse {α : Type} (now : Int) (text : String) : (refuse now text : Auth α).Only Aside := by
  apply only_bind (only_perform trivial)
  exact fun _ => trivial

theorem aside_fetch_payload : (fetchPayload settings).Only Aside := by
  apply only_bind (only_perform trivial)
  intro response
  apply only_bind (only_require _ _)
  intro _
  split <;> trivial

theorem aside_refetch : (refetch settings).Only Aside := by
  apply only_bind (only_perform trivial)
  intro now
  apply only_bind (only_perform trivial)
  intro jwks
  split
  · trivial
  · apply only_bind
    · apply only_handle aside_fetch_payload
      intro error
      split
      · exact aside_refuse _ _
      · trivial
    · intro payload
      split
      · exact aside_refuse _ _
      · split
        · exact aside_refuse _ _
        · apply only_bind (only_perform trivial)
          intro _
          apply only_bind (only_lift _)
          exact fun _ => trivial

theorem aside_get_keys : (getKeys settings).Only Aside := by
  apply only_bind (only_perform trivial)
  intro now
  apply only_bind (only_perform trivial)
  intro jwks
  split
  · trivial
  · apply only_bind (only_require _ _)
    intro _
    apply only_bind (only_perform trivial)
    intro _
    apply only_bind
    · apply only_handle aside_refetch
      intro error
      apply only_bind (only_perform trivial)
      exact fun _ => trivial
    · intro value
      apply only_bind (only_perform trivial)
      exact fun _ => trivial

theorem aside_warm : (warm settings).Only Aside := by
  apply only_handle
  · exact only_bind aside_get_keys fun _ => trivial
  · intro error
    split <;> trivial

theorem aside_keys_or_invalid : (keysOrInvalid settings).Only Aside := by
  apply only_handle aside_get_keys
  intro error
  split <;> trivial

theorem aside_key_for (kid : Json) : (keyFor settings kid).Only Aside := by
  apply only_bind aside_keys_or_invalid
  intro jwks
  apply only_bind (only_lift _)
  intro found
  split
  · trivial
  · apply only_bind (only_perform trivial)
    intro _
    apply only_bind aside_keys_or_invalid
    intro jwks
    apply only_bind (only_lift _)
    intro found
    split <;> trivial

theorem aside_decode (token audience : String) (issuers : List String) :
    (decodeAndVerify settings token audience issuers).Only Aside := by
  apply only_bind (only_require _ _)
  intro _
  apply only_bind (only_lift _)
  intro header
  apply only_bind (only_require _ _)
  intro _
  apply only_bind (aside_key_for _)
  intro key
  apply only_bind (only_perform trivial)
  intro instant
  apply only_bind (only_lift _)
  intro claims
  apply only_bind (only_require _ _)
  exact fun _ => trivial

theorem aside_siam (token : String) : (verifySiamToken settings token).Only Aside := by
  apply only_bind
  · apply only_handle (aside_decode _ _ _)
    intro error
    split <;> trivial
  · exact fun _ => trivial

theorem aside_local (token : String) (admin : LocalAdminSettings) :
    (verifyLocalToken settings token admin).Only Aside := by
  apply only_bind
  · apply only_handle
    · apply only_bind (only_require _ _)
      intro _
      apply only_bind (only_perform trivial)
      intro instant
      apply only_bind (only_lift _)
      intro claims
      apply only_bind (only_require _ _)
      exact fun _ => trivial
    · intro error
      split <;> trivial
  · exact fun _ => trivial

theorem aside_admin (request : Dependencies.Request) : (verifyAdminSurfaceToken settings request).Only Aside := by
  apply only_bind (only_lift _)
  intro token
  apply only_bind (only_lift _)
  intro issuer
  split
  · split
    · trivial
    · exact aside_local token _
  · exact aside_siam token

/-! The check of one request. -/

/-- What the check leaves, by the state it found. -/
structure Checked (settings : AuthSettings) (before : AuthWorld N) (outcome : Except PyError Unit)
    (after : AuthWorld N) : Prop where
  single : Single bootstrapUsername before → Single bootstrapUsername after
  off : AllOff before → AllOff after
  pending : outcome = .ok () → before.process.disableState = .pending →
    settings.localAdmin.isSome = true → Single bootstrapUsername before → AllOff after
  decided : before.process.disableState ≠ .pending → after.store = before.store

theorem harmless_check (siamUsername : String) :
    (maybeAutoDisableLocalAdmin settings siamUsername).Only Harmless := by
  apply only_bind (only_perform trivial)
  intro state
  split
  · trivial
  · split
    · exact only_perform trivial
    · apply only_bind (SingleAdmin.harmless_disable siamUsername)
      exact fun _ => only_perform trivial

theorem check_checked (siamUsername : String) (world : AuthWorld N) :
    Leaves (authExec outside) (maybeAutoDisableLocalAdmin settings siamUsername) world
      (Checked settings world) := by
  have single (one : Single bootstrapUsername world) :
      Leaves (authExec outside) (maybeAutoDisableLocalAdmin settings siamUsername) world
        fun _ after => Single bootstrapUsername after :=
    leaves_only (Single bootstrapUsername) (harmless_check siamUsername) one single_harmless
  have off (none : AllOff world) :
      Leaves (authExec outside) (maybeAutoDisableLocalAdmin settings siamUsername) world
        fun _ after => AllOff after :=
    leaves_only AllOff (harmless_check siamUsername) none off_harmless
  have pending (state : world.process.disableState = .pending)
      (configured : settings.localAdmin.isSome = true) (one : Single bootstrapUsername world) :
      Leaves (authExec outside) (maybeAutoDisableLocalAdmin settings siamUsername) world
        fun outcome after => outcome = .ok () → AllOff after := by
    obtain ⟨admin, found⟩ := Option.isSome_iff_exists.mp configured
    rw [maybeAutoDisableLocalAdmin, Prog.bind_eq, leaves_bind, leaves_perform]
    simp only [authExec, state, ne_eq, not_true_eq_false, if_false, found]
    rw [Prog.bind_eq, leaves_bind]
    apply leaves_mono (disabled_all one siamUsername)
    intro outcome after off
    cases outcome with
    | error error => rintro ⟨⟩
    | ok transitioned =>
        dsimp only
        rw [leaves_perform]
        exact fun _ => off transitioned rfl
  have decided (state : world.process.disableState ≠ .pending) :
      Leaves (authExec outside) (maybeAutoDisableLocalAdmin settings siamUsername) world
        fun _ after => after.store = world.store := by
    rw [maybeAutoDisableLocalAdmin, Prog.bind_eq, leaves_bind, leaves_perform]
    simp only [authExec]
    rw [if_pos state]
    rfl
  exact ⟨single, off, fun outcome state configured one => pending state configured one outcome, decided⟩

/-- What a request leaves, by the state it found. -/
structure Requested (settings : AuthSettings) (before : AuthWorld N)
    (outcome : Except PyError VerifiedUser) (after : AuthWorld N) : Prop where
  single : Single bootstrapUsername before → Single bootstrapUsername after
  off : AllOff before → AllOff after
  pending : (∃ user, outcome = .ok user ∧ user.identitySource ≠ localIssuer) →
    before.process.disableState = .pending → settings.localAdmin.isSome = true →
      Single bootstrapUsername before → AllOff after
  decided : before.process.disableState ≠ .pending → after.store = before.store

theorem requested_alike {outcome : Except PyError VerifiedUser} {before after : AuthWorld N}
    (alike : Alike before after)
    (own : ∀ user, outcome = .ok user → user.identitySource = localIssuer) :
    Requested settings before outcome after := by
  constructor
  · intro single
    rw [Single, alike.store]
    exact single
  · intro off
    rw [AllOff, alike.store]
    exact off
  · rintro ⟨user, returned, foreign⟩
    exact absurd (own user returned) foreign
  · exact fun _ => alike.store

theorem requested_checked {outcome : Except PyError VerifiedUser} {checked : Except PyError Unit}
    {before between after : AuthWorld N} (alike : Alike before between)
    (done : Checked settings between checked after)
    (returned : ∀ user, outcome = .ok user → checked = .ok ()) :
    Requested settings before outcome after := by
  obtain ⟨store, disableState⟩ := alike
  constructor
  · intro single
    apply done.single
    rw [Single, store]
    exact single
  · intro off
    apply done.off
    rw [AllOff, store]
    exact off
  · rintro ⟨user, same, _⟩ pending configured single
    apply done.pending (returned user same) (disableState.trans pending) configured
    rw [Single, store]
    exact single
  · intro settled
    rw [← disableState] at settled
    exact (done.decided settled).trans store

theorem request_requested (request : Dependencies.Request) (world : AuthWorld N) :
    Leaves (authExec outside) (requireAdmin settings request) world (Requested settings world) := by
  have verified : Leaves (authExec outside) (verifyAdminSurfaceToken settings request) world
      fun _ after => Alike world after :=
    leaves_only (Alike world) (aside_admin request) ⟨rfl, rfl⟩ (alike_aside world)
  rw [requireAdmin, Prog.bind_eq, leaves_bind]
  apply leaves_mono verified
  intro outcome between alike
  cases outcome with
  | error error => exact requested_alike alike fun _ same => by cases same
  | ok user =>
      dsimp only
      split
      · next foreign =>
          apply Prog.leaves_require_then
          · intro _
            rw [Prog.bind_eq, leaves_bind]
            apply leaves_mono (check_checked user.username between)
            intro checked after done
            cases checked with
            | error error => exact requested_checked alike done fun _ same => by cases same
            | ok _ => exact requested_checked alike done fun _ _ => rfl
          · exact fun _ => requested_alike alike fun _ same => by cases same
      · next own =>
          apply requested_alike alike
          intro other same
          cases same
          exact not_not.mp own

/-! A login where no row is enabled. -/

theorem refuse_fails {α : Type} (request : LoginRequest) (outcome : LoginOutcome) (world : AuthWorld N) :
    Leaves (authExec outside) (refuseLogin request outcome : Auth α) world fun answer _ =>
      ∀ value, answer ≠ .ok value := by
  have recorded : Leaves (authExec outside) (recordLoginEvent request.username request.clientIp
      request.userAgent outcome request.requestId) world fun _ _ => True := trivial
  rw [refuseLogin, Prog.bind_eq, leaves_bind]
  apply leaves_mono recorded
  intro written after _
  cases written with
  | error error => exact fun value same => by cases same
  | ok _ => exact fun value same => by cases same

theorem login_refused {admin : LocalAdminSettings} (request : LoginRequest) (off : AllOff world) :
    Leaves (authExec outside) (login settings admin request) world fun answer _ =>
      ∀ value, answer ≠ .ok value := by
  -- The rate limits do not touch the rows.
  have hit (limit : Nat) (key : String) {world : AuthWorld N} (off : AllOff world)
      {next : Bool → Auth LocalAdminLoginResult}
      (rest : ∀ allowed after, AllOff after →
        Leaves (authExec outside) (next allowed) after fun answer _ => ∀ value, answer ≠ .ok value) :
      Leaves (authExec outside) ((hitAndCheck limit key).bind next) world fun answer _ =>
        ∀ value, answer ≠ .ok value := by
    apply Prog.leaves_yields_then AllOff (Prog.yields_of_only (harmless_hit limit key)) off off_harmless
    · exact fun value after _ off => rest value after off
    · exact fun error _ _ value same => by cases same
  apply hit _ _ off
  intro ipAllowed first off
  split
  · exact refuse_fails _ _ _
  · apply hit _ _ off
    intro userAllowed second off
    split
    · exact refuse_fails _ _ _
    · rw [Prog.bind_eq, leaves_bind]
      apply leaves_mono (fetch_read request.username second)
      rintro outcome third ⟨same, read⟩
      cases outcome with
      | error error => exact fun value same => by cases same
      | ok row =>
          dsimp only
          rw [clock, Prog.bind_eq, leaves_bind, leaves_perform]
          simp only [authExec]
          split
          · exact refuse_fails _ _ _
          · next row =>
              -- The row is one of those that are all disabled.
              have found : rowOf second.store.localAdmins request.username = some row :=
                (read (some row) rfl).symm
              have disabled : row.enabled = false := by
                apply off row
                exact (List.mem_filter.mp (List.mem_of_head? found)).1
              rw [if_pos disabled]
              exact refuse_fails _ _ _

theorem not_logs_in (request : LoginRequest) (off : AllOff world) :
    ¬ LogsIn settings outside request world := by
  rintro ⟨response, returned⟩
  have fails : Leaves (authExec outside) (localLogin settings request) world fun answer _ =>
      ∀ value, answer ≠ .ok value := by
    unfold localLogin
    split
    · exact fun value same => by cases same
    · next admin found =>
        rw [Prog.bind_eq, leaves_bind, Prog.leaves_handle]
        apply leaves_mono (login_refused request off)
        intro answer after refused
        cases answer with
        | ok result => exact absurd rfl (refused result)
        | error error =>
            dsimp only
            split
            · exact fun value same => by cases same
            · exact fun value same => by cases same
  exact fails response returned

/-! Steps one after another. -/

/-- What holds between the steps. -/
structure Standing (settings : AuthSettings) (world : AuthWorld N) : Prop where
  single : Single bootstrapUsername world
  unconfigured : settings.localAdmin.isSome = false → AllOff world

theorem off_iff (single : Single bootstrapUsername world) : Off world ↔ AllOff world := by
  constructor
  · intro off row member
    apply off row member
    rcases single with empty | ⟨only, rows, named⟩
    · rw [empty] at member
      cases member
    · rw [rows, List.mem_singleton] at member
      rw [member]
      exact named
  · exact fun off row member _ => off row member

theorem harmless_local_login (request : LoginRequest) : (localLogin settings request).Only Harmless := by
  unfold localLogin
  split
  · trivial
  · apply only_bind
    · apply only_handle (harmless_login request)
      intro error
      split <;> trivial
    · intro result
      apply only_bind (only_perform trivial)
      exact fun _ => trivial

/-- What a step other than a run of the CLI keeps. -/
structure Kept (before after : AuthWorld N) : Prop where
  single : Single bootstrapUsername before → Single bootstrapUsername after
  off : AllOff before → AllOff after

theorem kept_step (step : HubStep) (world : AuthWorld N) (other : step ≠ .createAdmin) :
    Kept world (hubOnce settings outside step world) := by
  cases step with
  | createAdmin => exact absurd rfl other
  | localLogin request =>
      constructor
      · exact fun single => leaves_only (Single bootstrapUsername) (harmless_local_login request)
          single single_harmless
      · exact fun off => leaves_only AllOff (harmless_local_login request) off off_harmless
  | adminRequest request =>
      have requested : Requested settings world _ _ :=
        @request_requested N settings outside request world
      exact ⟨requested.single, requested.off⟩
  | restart =>
      have alike : Alike _ (hubOnce settings outside .restart world) :=
        leaves_only (Alike _) aside_warm ⟨rfl, rfl⟩ (alike_aside _)
      constructor
      · intro single
        rw [Single, alike.store]
        exact single
      · intro off
        rw [AllOff, alike.store]
        exact off

theorem standing_step (step : HubStep) (standing : Standing settings world) :
    Standing settings (hubOnce settings outside step world) := by
  by_cases cli : step = .createAdmin
  · subst cli
    constructor
    · exact single_created standing.single
    · intro unconfigured
      have refused : Leaves (authExec outside) (createAdmin settings bootstrapUsername) world
          fun _ after => AllOff after := by
        apply Prog.leaves_require_then
        · intro configured
          rw [unconfigured] at configured
          cases configured
        · exact fun _ => standing.unconfigured unconfigured
      exact refused
  · have kept := @kept_step N settings outside step world cli
    exact ⟨kept.single standing.single, fun unconfigured => kept.off (standing.unconfigured unconfigured)⟩

theorem standing_run {steps : List HubStep} (standing : Standing settings world) :
    Standing settings (hubRun settings outside world steps) := by
  induction steps generalizing world with
  | nil => exact standing
  | cons step rest ih => exact ih (standing_step step standing)

theorem run_snoc (world : AuthWorld N) (steps : List HubStep) (n : Nat) {step : HubStep}
    (there : steps[n]? = some step) :
    hubRun settings outside world (steps.take (n + 1)) =
      hubOnce settings outside step (hubRun settings outside world (steps.take n)) := by
  rw [List.take_add_one, there, hubRun, List.foldl_append]
  rfl

/-- The account stays off until the CLI is run. -/
theorem off_between {steps : List HubStep} {n m : Nat} (before : n ≤ m)
    (quiet : ∀ k, n ≤ k → k < m → steps[k]? ≠ some .createAdmin)
    (off : AllOff (hubRun settings outside world (steps.take n))) :
    AllOff (hubRun settings outside world (steps.take m)) := by
  induction m, before using Nat.le_induction with
  | base => exact off
  | succ m before ih =>
      have earlier := ih fun k after within => quiet k after (by omega)
      cases there : steps[m]? with
      | none =>
          rw [List.take_add_one, there]
          simpa using earlier
      | some step =>
          rw [run_snoc world steps m there]
          apply (kept_step step _ _).off earlier
          intro cli
          rw [cli] at there
          exact quiet m before (Nat.lt_succ_self m) there

theorem off_of_watchful {request : Dependencies.Request} (standing : Standing settings world)
    (admitted : Admits settings outside request world)
    (watchful : world.process.disableState = .pending ∨ Off world) :
    AllOff (hubOnce settings outside (.adminRequest request) world) := by
  have requested : Requested settings world _ _ := @request_requested N settings outside request world
  rcases watchful with pending | off
  · cases configured : settings.localAdmin.isSome with
    | true => exact requested.pending admitted pending configured standing.single
    | false => exact requested.off (standing.unconfigured configured)
  · exact requested.off ((off_iff standing.single).mp off)

/-- The promise is kept exactly in the runs in which no request is let in while the
account is on and the process takes it for checked. -/
theorem auto_disable_iff {world : AuthWorld N} (empty : world.store.localAdmins = [])
    (steps : List HubStep) :
    Promised settings outside world steps ↔ Watched settings outside world steps := by
  have start : Standing settings world := by
    constructor
    · exact .inl empty
    · intro _ row member
      rw [empty] at member
      cases member
  constructor
  · intro promised n request there admitted
    by_cases pending : (hubRun settings outside world (steps.take n)).process.disableState = .pending
    · exact .inl pending
    · right
      have requested : Requested settings (hubRun settings outside world (steps.take n)) _ _ :=
        @request_requested N settings outside request _
      have off := promised.off n request there admitted
      rw [run_snoc world steps n there, Off, hubOnce, requested.decided pending] at off
      exact off
  · intro watched
    have off (n : Nat) (request : Dependencies.Request) (there : steps[n]? = some (.adminRequest request))
        (admitted : Admits settings outside request (hubRun settings outside world (steps.take n))) :
        AllOff (hubRun settings outside world (steps.take (n + 1))) := by
      rw [run_snoc world steps n there]
      exact off_of_watchful (standing_run start) admitted (watched n request there admitted)
    constructor
    · intro n request there admitted
      exact fun row member _ => off n request there admitted row member
    · intro n m request login before there admitted quiet _
      apply not_logs_in
      apply off_between before _ (off n request there admitted)
      exact fun k after within => quiet k (by omega) within

/-! An emergency re-enable, with and without a restart after it. -/

open Verification (sampleAuth stillAuth warmWorld bearing)

/-- The endpoint is up. -/
def publishing : AuthOutside Unit :=
  { stillAuth with
    fetch := fun _ state =>
      (.ok ⟨200, "", .ok (.obj [("keys", .arr [.obj [("kid", .str "k")]])])⟩, state) }

def emergency (after : List HubStep) : List HubStep :=
  [.createAdmin, .adminRequest (bearing "full"), .createAdmin] ++ after

/-- The check is not made again, and the account stays open. -/
theorem emergency_stays_on :
    Admits sampleAuth publishing (bearing "full")
        (hubRun sampleAuth publishing warmWorld (emergency [])) ∧
      ¬ Promised sampleAuth publishing warmWorld (emergency [.adminRequest (bearing "full")]) ∧
        LogsIn sampleAuth publishing ⟨"admin", "password", "10.0.0.1", "curl", none⟩
          (hubRun sampleAuth publishing warmWorld (emergency [.adminRequest (bearing "full")])) := by
  have admitted : Admits sampleAuth publishing (bearing "full")
      (hubRun sampleAuth publishing warmWorld (emergency [])) := ⟨_, rfl, by decide⟩
  refine ⟨admitted, ?_, _, rfl⟩
  intro promised
  have off := promised.off 3 (bearing "full") rfl admitted
  have on := off _ List.mem_cons_self rfl
  cases on

theorem restart_rearms :
    Promised sampleAuth publishing warmWorld (emergency [.restart, .adminRequest (bearing "full")]) := by
  apply (auto_disable_iff rfl _).mpr
  intro n request there _
  match n with
  | 0 | 2 | 3 => cases there
  | 1 | 4 => exact .inl rfl
  | n + 5 => cases there

end Lehen.AutoDisable
