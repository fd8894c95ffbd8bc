import Lehen.LocalCalls
import Lehen.Schedule
import Lehen.Verification

/-!
Logins on one account that overlap. Each reads the counter of failed attempts and
writes it back later; where no login reads it in between, every attempt is counted.
-/

namespace Lehen.Guessing

open AuthState Jwt LocalAdminService LocalCalls Schedule Verification
open Storage (Time)
open Prog (Monitor only_bind only_mono only_perform follows_only follows_perform_then follows_yields_then
  yields_of_only)

variable {N : Type} (settings : AuthSettings) (admin : LocalAdminSettings) (outside : AuthOutside N)
  (username : String)

abbrev LoginTask := Task LoginRequest AuthOp AuthOp.Res PyError LocalAdminLoginResult

abbrev LoginPool (N : Type) :=
  Pool (AuthWorld N) LoginRequest AuthOp AuthOp.Res PyError LocalAdminLoginResult

/-- Logins started and resumed as the events say. -/
def loginRun (world : AuthWorld N) (events : List (Event LoginRequest)) : LoginPool N :=
  (⟨world, []⟩ : LoginPool N).play (authExec outside) AuthState.instant (login settings admin) events

/-! What was written down. -/

def countsEvent (event : LocalAdminLoginEvent) : Bool :=
  event.username = username ∧ event.outcome = .badPassword

/-- How many calls on the account have recorded a bad password. -/
def recorded (store : AuthStore) : Nat := store.loginEvents.countP (countsEvent username)

/-- A failed attempt on the account that was stored. -/
def countsEntry : Entry → Bool
  | ⟨.store (.setFailedAttempts name _ _), .ok _⟩ => name = username
  | _ => false

def recordsEntry : Entry → Bool
  | ⟨.store (.insertLoginEvent event), .ok _⟩ => countsEvent username event
  | _ => false

/-- A call that has counted its attempt and has not recorded it. -/
def unrecorded (task : LoginTask) : Bool :=
  task.log.any (countsEntry username) && !task.log.any (recordsEntry username)

/-! How far a login is. -/

inductive Stage where
  | before
  | read (row : Option LocalAdminRow)
  | weighed (row : Option LocalAdminRow) (now : Time)
  | counted
  | closed

/-- The password is checked, and wrong. -/
def wrong (request : LoginRequest) (row : Option LocalAdminRow) (now : Time) : Bool :=
  match row with
  | some row => row.enabled && !isLocked row now && !verifyPassword settings request.password row.passwordHash
  | none => false

/-- Neither the rows nor the record of bad passwords. -/
def Idle : AuthOp → Prop
  | .store (.insertLoginEvent event) => event.outcome ≠ .badPassword
  | .store _ => False
  | _ => True

def Stage.next (stage : Stage) (op : AuthOp) (answer : Except PyError op.Res) : Stage :=
  match stage, op, answer with
  | .before, .store (.selectLocalAdmin _), .ok rows => .read rows.head?
  | .read row, .clock, .ok now => .weighed row now
  | .read _, _, _ => .closed
  | .weighed _ _, .store (.setFailedAttempts _ _ _), .ok _ => .counted
  | .weighed _ _, _, _ => .closed
  | .counted, .store (.insertLoginEvent event), .ok _ =>
      if event.outcome = .badPassword then .closed else .counted
  | stage, _, _ => stage

/-- What a login writes of a wrong password. -/
def attemptOp (row : LocalAdminRow) (now : Time) : AuthOp :=
  .store (.setFailedAttempts row.username (row.failedAttempts + 1) (lockAfter admin row now))

def Stage.Allows (request : LoginRequest) (stage : Stage) (op : AuthOp) : Prop :=
  match stage with
  | .before => Idle op ∨ op = .store (.selectLocalAdmin request.username)
  | .read _ => op = .clock
  | .weighed row now =>
      if wrong settings request row now = true then ∃ own, row = some own ∧ op = attemptOp admin own now
      else Idle op ∨ ∃ own, row = some own ∧ op = .store (.setSuccessfulLogin own.username now)
  | .counted => Idle op ∨ ∃ event, op = .store (.insertLoginEvent event) ∧
      event.username = request.username ∧ event.outcome = .badPassword
  | .closed => Idle op

/-- A login that has read goes on to its write. -/
def Stage.Ends (request : LoginRequest) : Stage → Prop
  | .read _ => False
  | .weighed row now => wrong settings request row now = false
  | _ => True

def stageMonitor (request : LoginRequest) : Monitor AuthOp AuthOp.Res PyError Stage :=
  { allowed := fun stage op => stage.Allows settings admin request op
    next := fun stage op answer => stage.next op answer }

def loginProtocol : Protocol LoginRequest AuthOp AuthOp.Res PyError LocalAdminLoginResult Stage :=
  { monitor := stageMonitor settings admin, initial := fun _ => .before
    post := fun request _ stage => stage.Ends settings request }

/-- What is left of a login at a stage keeps to the protocol. -/
def Keeps {α : Type} (request : LoginRequest) (stage : Stage) (body : Auth α) : Prop :=
  body.Follows (stageMonitor settings admin request) (fun _ stage => stage.Ends settings request) stage

variable {settings admin}

/-- At these stages idle operations are not noticed. -/
theorem idle_unnoticed {request : LoginRequest} {stage : Stage}
    (open_ : stage = .before ∨ stage = .counted ∨ stage = .closed) (op : AuthOp) (idle : Idle op) :
    (stageMonitor settings admin request).allowed stage op ∧
      ∀ answer, (stageMonitor settings admin request).next stage op answer = stage := by
  rcases open_ with rfl | rfl | rfl
  · refine ⟨.inl idle, fun answer => ?_⟩
    cases op with
    | store statement => cases statement <;> first | exact idle.elim | rfl
    | _ => rfl
  · refine ⟨.inl idle, fun answer => ?_⟩
    cases op with
    | store statement =>
        cases statement with
        | insertLoginEvent event =>
            cases answer with
            | ok value => exact if_neg idle
            | error error => rfl
        | _ => exact idle.elim
    | _ => rfl
  · exact ⟨idle, fun _ => rfl⟩

theorem keeps_idle {α : Type} {request : LoginRequest} {stage : Stage} {body : Auth α}
    (open_ : stage = .before ∨ stage = .counted ∨ stage = .closed) (only : body.Only Idle) :
    Keeps settings admin request stage body := by
  apply follows_only only (idle_unnoticed open_)
  rcases open_ with rfl | rfl | rfl <;> exact fun _ => trivial

theorem keeps_idle_then {α β : Type} {request : LoginRequest} {stage : Stage} {body : Auth α}
    {next : α → Auth β} (open_ : stage = .before ∨ stage = .counted ∨ stage = .closed)
    (only : body.Only Idle) (rest : ∀ value, Keeps settings admin request stage (next value)) :
    Keeps settings admin request stage (body.bind next) := by
  apply follows_yields_then (yields_of_only only) (idle_unnoticed open_) fun value _ => rest value
  rcases open_ with rfl | rfl | rfl <;> exact fun _ => trivial

theorem idle_uuid : uuid4.Only Idle := only_perform trivial

theorem idle_clock : clock.Only Idle := only_perform trivial

theorem idle_apart (op : AuthOp) (unstored : Unstored op) : Idle op := by
  cases op with
  | store statement => exact unstored.elim
  | _ => trivial

theorem idle_hit (limit : Nat) (key : String) : (hitAndCheck limit key).Only Idle :=
  only_mono (unstored_hit limit key) idle_apart

theorem idle_record {username clientIp userAgent : String} {outcome : LoginOutcome}
    {requestId : Option String} (fine : outcome ≠ .badPassword) :
    (recordLoginEvent username clientIp userAgent outcome requestId).Only Idle :=
  only_record idle_apart fun _ same badPassword => fine (same.symm.trans badPassword)

theorem idle_refuse {α : Type} {request : LoginRequest} {outcome : LoginOutcome}
    (fine : outcome ≠ .badPassword) : (refuseLogin request outcome : Auth α).Only Idle :=
  only_refuse idle_apart fun _ same badPassword => fine (same.symm.trans badPassword)

theorem keeps_refuse_bad {α : Type} (request : LoginRequest) :
    Keeps settings admin request .counted (refuseLogin request .badPassword : Auth α) := by
  have counted : Stage.counted = .before ∨ Stage.counted = .counted ∨ Stage.counted = .closed :=
    .inr (.inl rfl)
  unfold refuseLogin recordLoginEvent
  simp only [Prog.bind_eq, Prog.bind_assoc]
  apply keeps_idle_then counted idle_uuid
  intro id
  apply keeps_idle_then counted idle_clock
  intro ts
  apply keeps_idle_then counted (only_mono (unstored_request_id _) idle_apart)
  intro requestId
  apply follows_perform_then
  · exact .inr ⟨_, rfl, rfl, rfl⟩
  · exact fun _ => trivial
  · exact fun _ => trivial

/-- An idle program from the point where the row was weighed and found not wrong. -/
theorem keeps_weighed {α : Type} {request : LoginRequest} {row : Option LocalAdminRow} {now : Time}
    {body : Auth α} (right : wrong settings request row now = false) (only : body.Only Idle) :
    Keeps settings admin request (.weighed row now) body := by
  cases body with
  | ret value => exact right
  | raise error => exact right
  | await op resume =>
      constructor
      · have allowed : Stage.Allows settings admin request (.weighed row now) op := by
          unfold Stage.Allows
          dsimp only
          rw [right]
          exact .inl only.1
        exact allowed
      · intro answer
        have next : Stage.next (.weighed row now) op answer = .closed := by
          cases op with
          | store statement => cases statement <;> first | exact only.1.elim | rfl
          | _ => rfl
        have onward := @keeps_idle settings admin α request .closed (resume answer) (.inr (.inr rfl))
          (only.2 answer)
        rw [← next] at onward
        exact onward

/-- A wrong password is counted before it is refused. -/
theorem follows_failing {α : Type} {request : LoginRequest} {row : LocalAdminRow} {now : Time}
    (failing : wrong settings request (some row) now = true) :
    Keeps settings admin request (.weighed (some row) now)
      ((recordFailedAttempt admin row now).bind fun _ => (refuseLogin request .badPassword : Auth α)) := by
  apply follows_perform_then
  · have allowed : Stage.Allows settings admin request (.weighed (some row) now) (attemptOp admin row now) := by
      unfold Stage.Allows
      dsimp only
      rw [if_pos failing]
      exact ⟨row, rfl, rfl⟩
    exact allowed
  · exact fun _ => keeps_refuse_bad request
  · exact fun _ => trivial

/-- A success resets the counter, and is idle from there on. -/
theorem follows_succeeding {α : Type} {request : LoginRequest} {row : LocalAdminRow} {now : Time}
    {rest : Auth α} (fine : wrong settings request (some row) now = false) (only : rest.Only Idle) :
    Keeps settings admin request (.weighed (some row) now)
      ((recordSuccessfulLogin row now).bind fun _ => rest) := by
  apply follows_perform_then
  · have allowed : Stage.Allows settings admin request (.weighed (some row) now)
        (.store (.setSuccessfulLogin row.username now)) := by
      unfold Stage.Allows
      dsimp only
      rw [fine]
      exact .inr ⟨row, rfl, rfl⟩
    exact allowed
  · exact fun _ => keeps_idle (.inr (.inr rfl)) only
  · exact fun _ => trivial

theorem served_login (request : LoginRequest) :
    (loginProtocol settings admin).Served (login settings admin) request := by
  have before : Stage.before = .before ∨ Stage.before = .counted ∨ Stage.before = .closed := .inl rfl
  apply keeps_idle_then before (idle_hit _ _)
  intro ipAllowed
  split
  · exact keeps_idle before (idle_refuse nofun)
  · apply keeps_idle_then before (idle_hit _ _)
    intro userAllowed
    split
    · exact keeps_idle before (idle_refuse nofun)
    · unfold fetchRow
      simp only [Prog.bind_eq, Prog.bind_assoc, Prog.pure_eq, Prog.bind_ret]
      apply follows_perform_then
      · exact .inr rfl
      · intro rows
        apply follows_perform_then
        · rfl
        · intro now
          -- From here on the stage says what was read, and when.
          change Keeps settings admin request (.weighed rows.head? now) _
          cases rows.head? with
          | none => exact keeps_weighed rfl (idle_refuse nofun)
          | some row =>
              dsimp only
              split
              · next off =>
                  apply keeps_weighed
                  · simp [wrong, off]
                  · exact idle_refuse nofun
              · next on =>
                  split
                  · next locked =>
                      apply keeps_weighed
                      · simp [wrong, locked]
                      · exact idle_refuse nofun
                  · next unlocked =>
                      split
                      · next bad =>
                          apply follows_failing
                          simp_all [wrong]
                      · next good =>
                          apply follows_succeeding
                          · simp_all [wrong]
                          · apply only_bind
                            · apply only_bind (only_perform trivial)
                              exact fun _ => trivial
                            · intro token
                              apply only_bind
                              · exact idle_record nofun
                              · exact fun _ => only_bind idle_clock fun _ => trivial
        · exact fun _ => trivial
      · exact fun _ => trivial

/-! What one operation does. -/

section Operation

variable {outside username} {request : LoginRequest} {stage : Stage} {op : AuthOp} {world : AuthWorld N}

theorem idle_flags (idle : Idle op) (answer : Except PyError op.Res) :
    countsEntry username ⟨op, answer⟩ = false ∧ recordsEntry username ⟨op, answer⟩ = false := by
  cases op with
  | store statement =>
      cases statement with
      | insertLoginEvent event =>
          constructor
          · rfl
          · cases answer with
            | error error => rfl
            | ok value =>
                have different : event.outcome ≠ .badPassword := idle
                simp [recordsEntry, countsEvent, different]
      | _ => exact idle.elim
  | _ => exact ⟨rfl, rfl⟩

/-- Idle operations leave the rows and the record of bad passwords alone. -/
theorem idle_state (idle : Idle op) (world : AuthWorld N) :
    (authExec outside op world).2.store.localAdmins = world.store.localAdmins ∧
      recorded username (authExec outside op world).2.store = recorded username world.store := by
  cases op with
  | store statement =>
      cases statement with
      | insertLoginEvent event =>
          have different : event.outcome ≠ .badPassword := idle
          rcases auth_store outside (.insertLoginEvent event) world with ⟨error, _, same⟩ | ⟨_, same⟩
          · rw [same]
            exact ⟨rfl, rfl⟩
          · rw [same]
            refine ⟨rfl, ?_⟩
            simp [recorded, AuthStatement.apply, List.countP_append, countsEvent, different]
      | _ => exact idle.elim
  | _ =>
      rw [auth_elsewhere outside _ world fun _ same => by cases same]
      exact ⟨rfl, rfl⟩

/-- What the log of a login says of its stage. -/
def Told (stage : Stage) (counts records : Bool) : Prop :=
  match stage with
  | .counted => counts = true ∧ records = false
  | .closed => counts = records
  | _ => counts = false ∧ records = false

/-- The row a login is about to write over. -/
def Stage.held (settings : AuthSettings) (request : LoginRequest) : Stage → Option LocalAdminRow
  | .read row => row
  | .weighed row now => if wrong settings request row now = true then row else none
  | _ => none

/-- An operation that leaves the account and the stage's part in it alone. -/
structure Unmoved (outside : AuthOutside N) (username : String) (settings : AuthSettings)
    (request : LoginRequest) (stage : Stage) (op : AuthOp) (world : AuthWorld N) : Prop where
  row : rowOf (authExec outside op world).2.store.localAdmins username =
    rowOf world.store.localAdmins username
  recorded : recorded username (authExec outside op world).2.store = recorded username world.store
  counts : countsEntry username ⟨op, (authExec outside op world).1⟩ = false
  records : recordsEntry username ⟨op, (authExec outside op world).1⟩ = false
  held : ∀ row, (stage.next op (authExec outside op world).1).held settings request = some row →
    stage.held settings request = some row
  told : ∀ counts records, Told stage counts records →
    Told (stage.next op (authExec outside op world).1) counts records

theorem unmoved_idle (idle : Idle op)
    (held : ∀ row, (stage.next op (authExec outside op world).1).held settings request = some row →
      stage.held settings request = some row)
    (told : ∀ counts records, Told stage counts records →
      Told (stage.next op (authExec outside op world).1) counts records) :
    Unmoved outside username settings request stage op world where
  row := by rw [(idle_state idle world : _ ∧ recorded username _ = _).1]
  recorded := (idle_state idle world).2
  counts := (idle_flags idle _).1
  records := (idle_flags idle _).2
  held := held
  told := told

/-- A statement that failed. -/
theorem unmoved_failed {statement : AuthStatement} {error : PyError}
    (failed : (authExec outside (.store statement) world).1 = .error error)
    (held : ∀ row, (stage.next (.store statement) (.error error)).held settings request = some row →
      stage.held settings request = some row)
    (told : ∀ counts records, Told stage counts records →
      Told (stage.next (.store statement) (.error error)) counts records) :
    Unmoved outside username settings request stage (.store statement) world := by
  have same : (authExec outside (.store statement) world).2.store = world.store := by
    rcases auth_store outside statement world with ⟨_, _, same⟩ | ⟨answer, _⟩
    · exact same
    · rw [failed] at answer
      cases answer
  constructor
  · rw [same]
  · rw [same]
  · rw [failed]
    cases statement <;> rfl
  · rw [failed]
    cases statement <;> rfl
  · rw [failed]
    exact held
  · rw [failed]
    exact told

/-- The read of the account. -/
structure Looks (outside : AuthOutside N) (username : String) (settings : AuthSettings)
    (request : LoginRequest) (stage : Stage) (op : AuthOp) (world : AuthWorld N) : Prop where
  slow : AuthState.instant op = false
  before : stage = .before
  asked : op = .store (.selectLocalAdmin username)
  same : (authExec outside op world).2.store = world.store
  after : stage.next op (authExec outside op world).1 = .read (rowOf world.store.localAdmins username)

/-- The write of a failed attempt. -/
structure Counts (outside : AuthOutside N) (username : String) (settings : AuthSettings)
    (admin : LocalAdminSettings) (request : LoginRequest) (stage : Stage) (op : AuthOp)
    (world : AuthWorld N) : Prop where
  weighed : ∃ row now, stage = .weighed (some row) now ∧ stage.held settings request = some row ∧
    isLocked row now = false ∧
    rowOf (authExec outside op world).2.store.localAdmins username =
      (rowOf world.store.localAdmins username).map (countedRow admin row now) ∧
    ∀ attempts until_, op = .store (.setFailedAttempts username attempts (some until_)) →
      lockAfter admin row now = some until_
  recorded : recorded username (authExec outside op world).2.store = recorded username world.store
  counts : countsEntry username ⟨op, (authExec outside op world).1⟩ = true
  records : recordsEntry username ⟨op, (authExec outside op world).1⟩ = false
  after : stage.next op (authExec outside op world).1 = .counted

/-- The record of a bad password. -/
structure Records (outside : AuthOutside N) (username : String) (stage : Stage) (op : AuthOp)
    (world : AuthWorld N) : Prop where
  before : stage = .counted
  rows : (authExec outside op world).2.store.localAdmins = world.store.localAdmins
  recorded : recorded username (authExec outside op world).2.store = recorded username world.store + 1
  counts : countsEntry username ⟨op, (authExec outside op world).1⟩ = false
  records : recordsEntry username ⟨op, (authExec outside op world).1⟩ = true
  after : stage.next op (authExec outside op world).1 = .closed

/-- The first operations, and the read of the account. -/
theorem operation_before (allowed : Stage.Allows settings admin request .before op) :
    Unmoved outside request.username settings request .before op world ∨
      Looks outside request.username settings request .before op world := by
  rcases allowed with idle | rfl
  · have same : Stage.next .before op (authExec outside op world).1 = .before :=
      (@idle_unnoticed settings admin request .before (.inl rfl) op idle).2 _
    left
    apply unmoved_idle idle
    · rw [same]
      exact fun _ held => held
    · rw [same]
      exact fun _ _ told => told
  · rcases auth_store outside (.selectLocalAdmin request.username) world with ⟨error, failed, _⟩ | ⟨answer, same⟩
    · left
      exact unmoved_failed failed (fun _ held => held) fun _ _ told => told
    · right
      exact ⟨rfl, rfl, rfl, same, by rw [answer]; rfl⟩

/-- The write of a login whose password is wrong. -/
theorem operation_failing {row : LocalAdminRow} {now : Time} (name : row.username = request.username)
    (failing : wrong settings request (some row) now = true) :
    Unmoved outside request.username settings request (.weighed (some row) now) (attemptOp admin row now) world ∨
      Counts outside request.username settings admin request (.weighed (some row) now)
        (attemptOp admin row now) world := by
  have held : (Stage.weighed (some row) now).held settings request = some row := if_pos failing
  unfold attemptOp
  rw [name]
  rcases auth_store outside (.setFailedAttempts request.username (row.failedAttempts + 1)
    (lockAfter admin row now)) world with ⟨error, failed, _⟩ | ⟨answer, same⟩
  · left
    apply unmoved_failed failed
    · exact nofun
    · rintro counts records ⟨rfl, rfl⟩
      exact rfl
  · right
    constructor
    · refine ⟨row, now, rfl, held, ?_, ?_, ?_⟩
      · simp only [wrong, Bool.and_eq_true, Bool.not_eq_true'] at failing
        exact failing.1.2
      · rw [same]
        exact row_of_set counted_named _
      · intro attempts until_ written
        injection written with written
        injection written
    · rw [same]
      rfl
    · rw [answer]
      simp [countsEntry]
    · rw [answer]
      rfl
    · rw [answer]
      rfl

/-- What follows the read, where the write of a success fails. -/
theorem operation_weighed {row : Option LocalAdminRow} {now : Time}
    (named : ∀ found, (Stage.weighed row now).held settings request = some found →
      found.username = request.username)
    (allowed : Stage.Allows settings admin request (.weighed row now) op)
    (unsuccessful : ∀ name ts, op = .store (.setSuccessfulLogin name ts) →
      ∃ error, (authExec outside op world).1 = .error error) :
    Unmoved outside request.username settings request (.weighed row now) op world ∨
      Counts outside request.username settings admin request (.weighed row now) op world := by
  have allowed : if wrong settings request row now = true then
      ∃ found, row = some found ∧ op = attemptOp admin found now
    else Idle op ∨ ∃ found, row = some found ∧ op = .store (.setSuccessfulLogin found.username now) :=
    allowed
  split at allowed
  · next failing =>
      obtain ⟨found, rfl, rfl⟩ := allowed
      exact operation_failing (named found (if_pos failing)) failing
  · left
    rcases allowed with idle | ⟨found, rfl, rfl⟩
    · have closed : Stage.next (.weighed row now) op (authExec outside op world).1 = .closed := by
        cases op with
        | store statement => cases statement <;> first | exact idle.elim | rfl
        | _ => rfl
      apply unmoved_idle idle
      · rw [closed]
        exact nofun
      · rw [closed]
        rintro counts records ⟨rfl, rfl⟩
        exact rfl
    · obtain ⟨error, failed⟩ := unsuccessful _ _ rfl
      apply unmoved_failed failed
      · exact nofun
      · rintro counts records ⟨rfl, rfl⟩
        exact rfl

/-- The record of a bad password, after the attempt was counted. -/
theorem operation_counted (allowed : Stage.Allows settings admin request .counted op) :
    Unmoved outside request.username settings request .counted op world ∨
      Records outside request.username .counted op world := by
  rcases allowed with idle | ⟨event, rfl, name, bad⟩
  · have same : Stage.next .counted op (authExec outside op world).1 = .counted :=
      (@idle_unnoticed settings admin request .counted (.inr (.inl rfl)) op idle).2 _
    left
    apply unmoved_idle idle
    · rw [same]
      exact fun _ held => held
    · rw [same]
      exact fun _ _ told => told
  · rcases auth_store outside (.insertLoginEvent event) world with ⟨error, failed, _⟩ | ⟨answer, same⟩
    · left
      exact unmoved_failed failed (fun _ held => held) fun _ _ told => told
    · right
      have counted : countsEvent request.username event = true := by
        simp [countsEvent, name, bad]
      constructor
      · rfl
      · rw [same]
        rfl
      · rw [same]
        simp [recorded, AuthStatement.apply, List.countP_append, counted]
      · rfl
      · rw [answer]
        exact counted
      · rw [answer]
        exact if_pos bad

/-- What an allowed operation of a login on the account is, if it is no success. -/
theorem operation_cases (own : request.username = username)
    (named : ∀ row, stage.held settings request = some row → row.username = username)
    (allowed : stage.Allows settings admin request op)
    (unsuccessful : ∀ name ts, op = .store (.setSuccessfulLogin name ts) →
      ∃ error, (authExec outside op world).1 = .error error) :
    Unmoved outside username settings request stage op world ∨
      Looks outside username settings request stage op world ∨
      Counts outside username settings admin request stage op world ∨
      Records outside username stage op world := by
  subst own
  cases stage with
  | before => exact (operation_before allowed).imp_right .inl
  | read row =>
      -- The row that was read is held until the instant shows whether the attempt fails.
      obtain rfl : op = .clock := allowed
      left
      have idle : Idle .clock := trivial
      apply unmoved_idle idle
      · intro found held
        have weighed : (Stage.weighed row (outside.clock world.outside).1).held settings request =
            some found := held
        rw [Stage.held] at weighed
        split at weighed
        · exact weighed
        · cases weighed
      · exact fun _ _ told => told
  | weighed row now =>
      exact (operation_weighed named allowed unsuccessful).imp_right fun counts => .inr (.inl counts)
  | counted => exact (operation_counted allowed).imp_right fun records => .inr (.inr records)
  | closed =>
      left
      apply unmoved_idle allowed
      · exact fun _ held => held
      · exact fun _ _ told => told

end Operation

/-! Schedules. -/

/-- A login between its read and its write. -/
def Busy (settings : AuthSettings) (admin : LocalAdminSettings) (task : LoginTask) : Prop :=
  ∃ row, (task.seen (loginProtocol settings admin)).held settings task.request = some row

/-- The counter of the account is what it was, with the attempts recorded since then
and those that are counted and not recorded yet. -/
structure Tallied (settings : AuthSettings) (admin : LocalAdminSettings) (username : String)
    (start : AuthStore) (first : LocalAdminRow) (pool : LoginPool N) : Prop where
  own : ∀ (j : Nat) (task : LoginTask), pool.tasks[j]? = some task → task.request.username = username
  told : ∀ (j : Nat) (task : LoginTask), pool.tasks[j]? = some task →
    Told (task.seen (loginProtocol settings admin)) (task.log.any (countsEntry username))
      (task.log.any (recordsEntry username))
  current : ∀ (j : Nat) (task : LoginTask) row, pool.tasks[j]? = some task →
    (task.seen (loginProtocol settings admin)).held settings task.request = some row →
      rowOf pool.state.store.localAdmins username = some row
  alone : pool.Exclusive (Busy settings admin)
  tally : ∃ row, rowOf pool.state.store.localAdmins username = some row ∧
    row.failedAttempts + recorded username start =
      first.failedAttempts + recorded username pool.state.store +
        pool.tasks.countP (unrecorded username)
  locked : ∀ (j : Nat) (task : LoginTask) attempts until_, pool.tasks[j]? = some task →
    ⟨.store (.setFailedAttempts username attempts (some until_)), .ok ()⟩ ∈ task.log →
      ∃ row later, rowOf pool.state.store.localAdmins username = some row ∧
        row.lockedUntil = some later ∧ until_ ≤ later ∧
          admin.failedAttemptsThreshold ≤ row.failedAttempts

theorem count_set {α : Type} {entries : List α} {i : Nat} {old : α} (found : entries[i]? = some old)
    (counts : α → Bool) (entry : α) :
    (entries.set i entry).countP counts + (if counts old then 1 else 0) =
      entries.countP counts + if counts entry then 1 else 0 := by
  obtain ⟨bound, rfl⟩ := List.getElem?_eq_some_iff.mp found
  rw [List.countP_set bound]
  by_cases counted : counts entries[i]
  · have some_ : 0 < entries.countP counts :=
      List.countP_pos_iff.mpr ⟨_, List.getElem_mem bound, counted⟩
    rw [if_pos counted]
    omega
  · rw [if_neg counted]
    omega

section Performing

variable {outside username} {start : AuthStore} {first : LocalAdminRow} {pool : LoginPool N} {i : Nat}
  {task : LoginTask} {op : AuthOp} {resume : Except PyError op.Res → Auth LocalAdminLoginResult}

theorem seen_after (answer : Except PyError op.Res) (prog : Auth LocalAdminLoginResult) :
    (⟨task.request, task.log ++ [⟨op, answer⟩], prog⟩ : LoginTask).seen (loginProtocol settings admin) =
      (task.seen (loginProtocol settings admin)).next op answer := seen_perform task op prog answer

theorem unrecorded_after (request : LoginRequest) (entry : Entry) (prog : Auth LocalAdminLoginResult) :
    unrecorded username ⟨request, task.log ++ [entry], prog⟩ =
      ((task.log.any (countsEntry username) || countsEntry username entry) &&
        !(task.log.any (recordsEntry username) || recordsEntry username entry)) := by
  simp [unrecorded, List.any_append]

theorem own_after (tallied : Tallied settings admin username start first pool)
    (present : pool.tasks[i]? = some task) (j : Nat) (other : LoginTask)
    (after : (pool.perform (authExec outside) i task op resume).tasks[j]? = some other) :
    other.request.username = username := by
  rcases get_perform present after with ⟨_, rfl⟩ | ⟨_, before⟩
  · exact tallied.own i task present
  · exact tallied.own j other before

theorem tallied_unmoved (tallied : Tallied settings admin username start first pool)
    (present : pool.tasks[i]? = some task)
    (unmoved : Unmoved outside username settings task.request
      (task.seen (loginProtocol settings admin)) op pool.state) :
    Tallied settings admin username start first (pool.perform (authExec outside) i task op resume) where
  own := own_after tallied present
  told := by
    intro j other after
    rcases get_perform present after with ⟨_, rfl⟩ | ⟨_, before⟩
    · rw [seen_after, List.any_append, List.any_append]
      simp only [List.any_cons, List.any_nil, unmoved.counts, unmoved.records, Bool.or_false]
      exact unmoved.told _ _ (tallied.told i task present)
    · exact tallied.told j other before
  current := by
    intro j other row after held
    refine unmoved.row.trans ?_
    rcases get_perform present after with ⟨_, rfl⟩ | ⟨_, before⟩
    · rw [seen_after] at held
      exact tallied.current i task row present (unmoved.held row held)
    · exact tallied.current j other row before held
  alone := by
    apply exclusive_perform tallied.alone present
    rintro ⟨row, held⟩
    rw [seen_after] at held
    exact .inl ⟨row, unmoved.held row held⟩
  tally := by
    obtain ⟨row, found, tally⟩ := tallied.tally
    refine ⟨row, unmoved.row.trans found, ?_⟩
    -- An entry that counts and records nothing leaves the number of missing records.
    have counted := count_set present (unrecorded username) ⟨task.request,
      task.log ++ [⟨op, (authExec outside op pool.state).1⟩], resume (authExec outside op pool.state).1⟩
    rw [unrecorded_after, unmoved.counts, unmoved.records, Bool.or_false, Bool.or_false] at counted
    have same := Nat.add_right_cancel counted
    rw [Pool.perform, same, unmoved.recorded]
    exact tally
  locked := by
    intro j other attempts until_ after member
    have kept (present' : ∃ (k : Nat) (third : LoginTask), pool.tasks[k]? = some third ∧
        ⟨.store (.setFailedAttempts username attempts (some until_)), .ok ()⟩ ∈ third.log) :
        ∃ row later, rowOf (authExec outside op pool.state).2.store.localAdmins username = some row ∧
          row.lockedUntil = some later ∧ until_ ≤ later ∧
            admin.failedAttemptsThreshold ≤ row.failedAttempts := by
      obtain ⟨k, third, before, written⟩ := present'
      rw [unmoved.row]
      exact tallied.locked k third attempts until_ before written
    rcases get_perform present after with ⟨_, rfl⟩ | ⟨_, before⟩
    · rcases List.mem_append.mp member with earlier | last
      · exact kept ⟨i, task, present, earlier⟩
      · have counts := unmoved.counts
        rw [← List.mem_singleton.mp last] at counts
        simp [countsEntry] at counts
    · exact kept ⟨j, other, before, member⟩

/-- Reading the account while nobody is about to write it. -/
theorem tallied_looks (tallied : Tallied settings admin username start first pool)
    (present : pool.tasks[i]? = some task)
    (looks : Looks outside username settings task.request
      (task.seen (loginProtocol settings admin)) op pool.state)
    (nobody : ∀ (j : Nat) (other : LoginTask), pool.tasks[j]? = some other → ¬ Busy settings admin other) :
    Tallied settings admin username start first (pool.perform (authExec outside) i task op resume) where
  own := own_after tallied present
  told := by
    intro j other after
    rcases get_perform present after with ⟨_, rfl⟩ | ⟨_, before⟩
    · have told := tallied.told i task present
      rw [looks.before] at told
      rw [seen_after, looks.after, List.any_append, List.any_append, told.1, told.2]
      have asked := looks.asked
      subst asked
      exact ⟨rfl, rfl⟩
    · exact tallied.told j other before
  current := by
    intro j other row after held
    refine (congrArg (fun store => rowOf store.localAdmins username) looks.same).trans ?_
    rcases get_perform present after with ⟨_, rfl⟩ | ⟨_, before⟩
    · rw [seen_after, looks.after] at held
      exact held
    · exact absurd ⟨row, held⟩ (nobody j other before)
  alone := exclusive_perform tallied.alone present fun _ => .inr fun j other _ before => nobody j other before
  tally := by
    obtain ⟨row, found, tally⟩ := tallied.tally
    have told := tallied.told i task present
    rw [looks.before] at told
    have counted := count_set present (unrecorded username) ⟨task.request,
      task.log ++ [⟨op, (authExec outside op pool.state).1⟩], resume (authExec outside op pool.state).1⟩
    have asked := looks.asked
    subst asked
    rw [unrecorded_after, unrecorded, told.1, told.2] at counted
    have same := Nat.add_right_cancel counted
    refine ⟨row, ?_, ?_⟩
    · rw [Pool.perform, looks.same]
      exact found
    · rw [Pool.perform, same, looks.same]
      exact tally
  locked := by
    intro j other attempts until_ after member
    rw [Pool.perform, looks.same]
    rcases get_perform present after with ⟨_, rfl⟩ | ⟨_, before⟩
    · rcases List.mem_append.mp member with earlier | last
      · exact tallied.locked i task attempts until_ present earlier
      · have asked := looks.asked
        subst asked
        cases List.mem_singleton.mp last
    · exact tallied.locked j other attempts until_ before member

/-- The write of a failed attempt over the row it was read from. -/
theorem tallied_counts (tallied : Tallied settings admin username start first pool)
    (present : pool.tasks[i]? = some task)
    (counts : Counts outside username settings admin task.request
      (task.seen (loginProtocol settings admin)) op pool.state) :
    Tallied settings admin username start first (pool.perform (authExec outside) i task op resume) := by
  obtain ⟨row, now, weighed, held, unlocked, written, locks⟩ := counts.weighed
  have busy : Busy settings admin task := ⟨row, held⟩
  have before := tallied.current i task row present held
  have after : rowOf (authExec outside op pool.state).2.store.localAdmins username =
      some (countedRow admin row now row) := by
    rw [written, before]
    rfl
  have told := tallied.told i task present
  rw [weighed] at told
  -- Whoever else is busy would have read the same row.
  have others (j : Nat) (other : LoginTask) (different : j ≠ i)
      (found : pool.tasks[j]? = some other) : ¬ Busy settings admin other :=
    fun also => different (tallied.alone j i other task found present also busy)
  constructor
  · exact own_after tallied present
  · intro j other later
    rcases get_perform present later with ⟨_, rfl⟩ | ⟨_, earlier⟩
    · rw [seen_after, counts.after, List.any_append, List.any_append, told.1, told.2]
      simp only [List.any_cons, List.any_nil, counts.counts, counts.records]
      exact ⟨rfl, rfl⟩
    · exact tallied.told j other earlier
  · intro j other found later still
    rcases get_perform present later with ⟨_, rfl⟩ | ⟨different, earlier⟩
    · rw [seen_after, counts.after] at still
      cases still
    · exact absurd ⟨found, still⟩ (others j other different earlier)
  · exact exclusive_perform tallied.alone present fun _ => .inl busy
  · obtain ⟨own, found, tally⟩ := tallied.tally
    rw [before] at found
    obtain rfl := Option.some.inj found
    refine ⟨_, after, ?_⟩
    -- The attempt is counted, and its record is now what is missing.
    have counted := count_set present (unrecorded username) ⟨task.request,
      task.log ++ [⟨op, (authExec outside op pool.state).1⟩], resume (authExec outside op pool.state).1⟩
    rw [unrecorded_after, unrecorded, told.1, told.2, counts.counts, counts.records] at counted
    simp only [Bool.false_and, Bool.false_or, Bool.not_false, Bool.and_self, if_true,
      Bool.false_eq_true, if_false, Nat.add_zero] at counted
    simp only [Pool.perform, counted, counts.recorded, countedRow]
    omega
  · intro j other attempts until_ later member
    -- A lock that was written before has run out, so the new one ends later.
    have earlier_lock (k : Nat) (third : LoginTask) (found : pool.tasks[k]? = some third)
        (logged : ⟨.store (.setFailedAttempts username attempts (some until_)), .ok ()⟩ ∈ third.log) :
        ∃ own later, rowOf (authExec outside op pool.state).2.store.localAdmins username = some own ∧
          own.lockedUntil = some later ∧ until_ ≤ later ∧
            admin.failedAttemptsThreshold ≤ own.failedAttempts := by
      obtain ⟨own, last, there, lock, order, reached⟩ := tallied.locked k third attempts until_ found logged
      rw [before] at there
      obtain rfl := Option.some.inj there
      have passed : last ≤ now := by
        rw [isLocked, lock] at unlocked
        simpa using unlocked
      have more : admin.failedAttemptsThreshold ≤ row.failedAttempts + 1 := Nat.le_succ_of_le reached
      refine ⟨_, now + admin.lockoutDurationSeconds * 1000000, after, if_pos more, ?_, more⟩
      exact Nat.le_trans order (Nat.le_trans passed (Nat.le_add_right _ _))
    rcases get_perform present later with ⟨_, rfl⟩ | ⟨_, earlier⟩
    · rcases List.mem_append.mp member with earlier | last
      · exact earlier_lock i task present earlier
      · have same := List.mem_singleton.mp last
        have lock := locks attempts until_ (congrArg Sigma.fst same).symm
        refine ⟨_, until_, after, lock, Nat.le_refl _, ?_⟩
        unfold lockAfter at lock
        split at lock
        · next reached => exact reached
        · cases lock
    · exact earlier_lock j other earlier member

/-- The record of an attempt that was counted. -/
theorem tallied_records (tallied : Tallied settings admin username start first pool)
    (present : pool.tasks[i]? = some task)
    (records : Records outside username (task.seen (loginProtocol settings admin)) op pool.state) :
    Tallied settings admin username start first (pool.perform (authExec outside) i task op resume) := by
  have told := tallied.told i task present
  rw [records.before] at told
  have row : rowOf (authExec outside op pool.state).2.store.localAdmins username =
      rowOf pool.state.store.localAdmins username := by rw [records.rows]
  constructor
  · exact own_after tallied present
  · intro j other later
    rcases get_perform present later with ⟨_, rfl⟩ | ⟨_, earlier⟩
    · rw [seen_after, records.after, List.any_append, List.any_append, told.1, told.2]
      simp only [List.any_cons, List.any_nil, records.counts, records.records]
      exact rfl
    · exact tallied.told j other earlier
  · intro j other found later still
    refine row.trans ?_
    rcases get_perform present later with ⟨_, rfl⟩ | ⟨_, earlier⟩
    · rw [seen_after, records.after] at still
      cases still
    · exact tallied.current j other found earlier still
  · apply exclusive_perform tallied.alone present
    rintro ⟨found, still⟩
    rw [seen_after, records.after] at still
    cases still
  · obtain ⟨own, found, tally⟩ := tallied.tally
    refine ⟨own, row.trans found, ?_⟩
    -- The record comes to the attempts, and is missing no more.
    have counted := count_set present (unrecorded username) ⟨task.request,
      task.log ++ [⟨op, (authExec outside op pool.state).1⟩], resume (authExec outside op pool.state).1⟩
    rw [unrecorded_after, unrecorded, told.1, told.2, records.counts, records.records] at counted
    simp only [Bool.not_false, Bool.and_self, Bool.false_or, Bool.or_false, Bool.not_true,
      Bool.and_false, if_true, Bool.false_eq_true, if_false, Nat.add_zero] at counted
    simp only [Pool.perform, records.recorded]
    omega
  · intro j other attempts until_ later member
    rw [Pool.perform, row]
    rcases get_perform present later with ⟨_, rfl⟩ | ⟨_, earlier⟩
    · rcases List.mem_append.mp member with earlier | last
      · exact tallied.locked i task attempts until_ present earlier
      · have counts := records.counts
        rw [← List.mem_singleton.mp last] at counts
        simp [countsEntry] at counts
    · exact tallied.locked j other attempts until_ earlier member

/-- The next operation of a login that does not succeed. -/
theorem tallied_perform (tallied : Tallied settings admin username start first pool)
    (present : pool.tasks[i]? = some task)
    (allowed : (task.seen (loginProtocol settings admin)).Allows settings admin task.request op)
    (unsuccessful : ∀ name ts, op = .store (.setSuccessfulLogin name ts) →
      ∃ error, (authExec outside op pool.state).1 = .error error)
    (nobody : op = .store (.selectLocalAdmin username) → ∀ (j : Nat) (other : LoginTask), j ≠ i →
      pool.tasks[j]? = some other → ¬ Busy settings admin other) :
    Tallied settings admin username start first (pool.perform (authExec outside) i task op resume) := by
  have named (row : LocalAdminRow)
      (held : (task.seen (loginProtocol settings admin)).held settings task.request = some row) :
      row.username = username := row_of_username (tallied.current i task row present held)
  rcases operation_cases (tallied.own i task present) named allowed unsuccessful with
    unmoved | looks | counts | records
  · exact tallied_unmoved tallied present unmoved
  · apply tallied_looks tallied present looks
    intro j other found busy
    by_cases same : j = i
    · subst same
      rw [present] at found
      obtain rfl := Option.some.inj found
      obtain ⟨row, held⟩ := busy
      rw [looks.before] at held
      cases held
    · exact nobody looks.asked j other same found busy
  · exact tallied_counts tallied present counts
  · exact tallied_records tallied present records

end Performing

/-! Runs of logins on one account. -/

variable (settings admin)

/-- The turn stores a successful login. -/
def Succeeds (pool : LoginPool N) (i : Nat) : Prop :=
  ∃ task name ts, pool.tasks[i]? = some task ∧
    task.awaits (.store (.setSuccessfulLogin name ts)) ∧
      (outside.storeFails (.setSuccessfulLogin name ts) pool.state.outside).1 = none

/-- Logins on the account, of which none succeeds. -/
def Fails (pool : LoginPool N) : Event LoginRequest → Prop
  | .start request => request.username = username
  | .resume i => ¬ Succeeds outside pool i

/-- A login reads the account only while no other is about to write a failed attempt. -/
def ReadsAlone (pool : LoginPool N) (event : Event LoginRequest) : Prop :=
  ∀ i task, event = .resume i → pool.tasks[i]? = some task →
    task.awaits (.store (.selectLocalAdmin username)) →
      ∀ other ∈ pool.tasks, ∀ name attempts until_,
        ¬ other.awaits (.store (.setFailedAttempts name attempts until_))

/-- Between two events every login that has read the account has weighed it. -/
structure Steady (start : AuthStore) (first : LocalAdminRow) (pool : LoginPool N) : Prop where
  watched : pool.Watched (loginProtocol settings admin)
  tallied : Tallied settings admin username start first pool
  settled : ∀ (j : Nat) (task : LoginTask), pool.tasks[j]? = some task →
    ∀ row, task.seen (loginProtocol settings admin) ≠ .read row

/-- During a turn only the login whose turn it is may not have. -/
structure Turning (start : AuthStore) (first : LocalAdminRow) (i : Nat) (pool : LoginPool N) : Prop where
  watched : pool.Watched (loginProtocol settings admin)
  tallied : Tallied settings admin username start first pool
  settled : ∀ (j : Nat) (task : LoginTask), j ≠ i → pool.tasks[j]? = some task →
    ∀ row, task.seen (loginProtocol settings admin) ≠ .read row

variable {settings admin outside username} {start : AuthStore} {first : LocalAdminRow}

theorem turning_perform {pool : LoginPool N} {i : Nat} {task : LoginTask} {op : AuthOp}
    {resume : Except PyError op.Res → Auth LocalAdminLoginResult}
    (turning : Turning settings admin username start first i pool)
    (found : pool.tasks[i]? = some task) (left : task.prog = .await op resume)
    (unsuccessful : ∀ name ts, op = .store (.setSuccessfulLogin name ts) →
      ∃ error, (authExec outside op pool.state).1 = .error error)
    (nobody : op = .store (.selectLocalAdmin username) → ∀ (j : Nat) (other : LoginTask), j ≠ i →
      pool.tasks[j]? = some other → ¬ Busy settings admin other) :
    Turning settings admin username start first i
      (pool.perform (authExec outside) i task op resume) where
  watched := fun j => watched_at_perform (turning.watched j) found left
  tallied := tallied_perform turning.tallied found
    (follows_of_watched (turning.watched i) found left).1 unsuccessful nobody
  settled := by
    intro j other different after
    rcases get_perform found after with ⟨same, _⟩ | ⟨_, before⟩
    · exact absurd same different
    · exact turning.settled j other different before

/-- A login between its read and its write is about to write. -/
theorem writes_of_busy {pool : LoginPool N} (watched : pool.Watched (loginProtocol settings admin))
    {j : Nat} {task : LoginTask} (found : pool.tasks[j]? = some task) (busy : Busy settings admin task)
    (settled : ∀ row, task.seen (loginProtocol settings admin) ≠ .read row) :
    ∃ name attempts until_, task.awaits (.store (.setFailedAttempts name attempts until_)) := by
  obtain ⟨row, held⟩ := busy
  have follows := watched j task found
  unfold Task.Watched at follows
  cases seen : task.seen (loginProtocol settings admin) with
  | before =>
      rw [seen] at held
      cases held
  | read other => exact absurd seen (settled other)
  | counted =>
      rw [seen] at held
      cases held
  | closed =>
      rw [seen] at held
      cases held
  | weighed other now =>
      rw [seen] at held follows
      have failing : wrong settings task.request other now = true := by
        rw [Stage.held] at held
        split at held
        · assumption
        · cases held
      -- At this stage the program may neither end nor do anything else than write.
      cases left : task.prog with
      | ret value =>
          rw [left] at follows
          have ended : wrong settings task.request other now = false := follows
          rw [failing] at ended
          cases ended
      | raise error =>
          rw [left] at follows
          have ended : wrong settings task.request other now = false := follows
          rw [failing] at ended
          cases ended
      | await op resume =>
          rw [left] at follows
          have allowed : if wrong settings task.request other now = true then
              ∃ own, other = some own ∧ op = attemptOp admin own now
            else Idle op ∨ ∃ own, other = some own ∧
              op = .store (.setSuccessfulLogin own.username now) := follows.1
          rw [if_pos failing] at allowed
          obtain ⟨own, _, rfl⟩ := allowed
          exact ⟨_, _, _, resume, left⟩

/-- A login that has not begun has read nothing. -/
theorem steady_start {pool : LoginPool N} (steady : Steady settings admin username start first pool)
    {request : LoginRequest} (fails : Fails outside username pool (.start request)) :
    Steady settings admin username start first
      (pool.step (authExec outside) AuthState.instant (login settings admin) (.start request)) := by
  have tallied := steady.tallied
  have unseen (task : LoginTask) (new : task = ⟨request, [], login settings admin request⟩) :
      task.seen (loginProtocol settings admin) = .before := by
    subst new
    rfl
  constructor
  · exact watched_start steady.watched (served_login request)
  · constructor
    · intro j task found
      rcases get_start found with before | rfl
      · exact tallied.own j task before
      · exact fails
    · intro j task found
      rcases get_start found with before | rfl
      · exact tallied.told j task before
      · exact ⟨rfl, rfl⟩
    · intro j task row found held
      rcases get_start found with before | rfl
      · exact tallied.current j task row before held
      · cases held
    · apply exclusive_start tallied.alone
      rintro ⟨row, held⟩
      cases held
    · obtain ⟨row, found, tally⟩ := tallied.tally
      refine ⟨row, found, ?_⟩
      have none_yet : unrecorded username ⟨request, [], login settings admin request⟩ = false := rfl
      rw [Pool.step, List.countP_append, List.countP_singleton, none_yet]
      exact tally
    · intro j task attempts until_ found member
      rcases get_start found with before | rfl
      · exact tallied.locked j task attempts until_ before member
      · cases member
  · intro j task found row
    rcases get_start found with before | new
    · exact steady.settled j task before row
    · rw [unseen task new]
      exact fun same => by cases same

theorem steady_step {pool : LoginPool N} (steady : Steady settings admin username start first pool)
    {event : Event LoginRequest} (fails : Fails outside username pool event)
    (alone : ReadsAlone username pool event) :
    Steady settings admin username start first
      (pool.step (authExec outside) AuthState.instant (login settings admin) event) := by
  cases event with
  | start request => exact steady_start steady fails
  | resume i =>
      have turning : Turning settings admin username start first i pool :=
        ⟨steady.watched, steady.tallied, fun j task _ => steady.settled j task⟩
      have turned : Turning settings admin username start first i
          (pool.turn (authExec outside) AuthState.instant i) := by
        apply turn_kept (Turning settings admin username start first i) pool i turning
        · intro task op resume found left
          apply turning_perform turning found left
          · rintro name ts rfl
            rcases answered : outside.storeFails (.setSuccessfulLogin name ts) pool.state.outside with
              ⟨_ | text, next⟩
            · exact absurd ⟨task, name, ts, found, ⟨resume, left⟩, by rw [answered]⟩ fails
            · exact ⟨⟨.arcadeError, text⟩, by simp only [authExec, answered]⟩
          · rintro rfl j other different present busy
            obtain ⟨name, attempts, until_, awaits⟩ :=
              writes_of_busy steady.watched present busy (steady.settled j other present)
            exact alone i task rfl found ⟨resume, left⟩ other (List.mem_of_getElem? present) name attempts
              until_ awaits
        · intro pool task op resume found left quick held
          apply turning_perform held found left
          · rintro name ts rfl
            cases quick
          · rintro rfl
            cases quick
      refine ⟨turned.watched, turned.tallied, fun j task found row seen => ?_⟩
      by_cases same : j = i
      · subst same
        -- A login that has just read is about to look at the clock, which takes no time.
        have follows := turned.watched j task found
        unfold Task.Watched at follows
        rw [seen] at follows
        cases left : task.prog with
        | ret value =>
            rw [left] at follows
            exact follows.elim
        | raise error =>
            rw [left] at follows
            exact follows.elim
        | await op resume =>
            rw [left] at follows
            have clocked : op = .clock := follows.1
            subst clocked
            have slow := turn_settled found ⟨resume, left⟩
            cases slow
      · exact turned.settled j task same found row seen

/-- In logins on one account of which none succeeds, and none reads the account while
another is about to write it, every attempt is counted and no lock is lost: the counter
is the one at the start, with the recorded attempts and those not recorded yet, and the
account is locked at least as long as any attempt has locked it. -/
theorem attempts_tallied {world : AuthWorld N} {first : LocalAdminRow}
    (there : rowOf world.store.localAdmins username = some first) (events : List (Event LoginRequest))
    (disciplined : Disciplined (authExec outside) AuthState.instant (login settings admin)
      (fun pool event => Fails outside username pool event ∧ ReadsAlone username pool event)
      ⟨world, []⟩ events) :
    ∃ row, rowOf (loginRun settings admin outside world events).state.store.localAdmins username =
        some row ∧
      row.failedAttempts + recorded username world.store =
        first.failedAttempts +
          recorded username (loginRun settings admin outside world events).state.store +
            (loginRun settings admin outside world events).tasks.countP (unrecorded username) ∧
      ∀ task ∈ (loginRun settings admin outside world events).tasks, ∀ attempts until_,
        ⟨.store (.setFailedAttempts username attempts (some until_)), .ok ()⟩ ∈ task.log →
          ∃ later, row.lockedUntil = some later ∧ until_ ≤ later := by
  have nothing (j : Nat) (task : LoginTask) : (⟨world, []⟩ : LoginPool N).tasks[j]? ≠ some task := nofun
  have started : Steady settings admin username world.store first (⟨world, []⟩ : LoginPool N) := by
    constructor
    · exact fun j task found => absurd found (nothing j task)
    · constructor
      · exact fun j task found => absurd found (nothing j task)
      · exact fun j task found => absurd found (nothing j task)
      · exact fun j task _ found => absurd found (nothing j task)
      · exact exclusive_empty _ _
      · exact ⟨first, there, rfl⟩
      · exact fun j task _ _ found => absurd found (nothing j task)
    · exact fun j task found => absurd found (nothing j task)
  have steady : Steady settings admin username world.store first
      (loginRun settings admin outside world events) := by
    apply play_kept (Steady settings admin username world.store first) _ events disciplined started
    exact fun pool event steady permitted => steady_step steady permitted.1 permitted.2
  obtain ⟨row, found, tally⟩ := steady.tallied.tally
  refine ⟨row, found, tally, fun task member attempts until_ logged => ?_⟩
  obtain ⟨j, present⟩ := List.mem_iff_getElem?.mp member
  obtain ⟨own, later, there', lock, order, _⟩ := steady.tallied.locked j task attempts until_ present logged
  rw [found] at there'
  obtain rfl := Option.some.inj there'
  exact ⟨later, lock, order⟩

/-! Guesses at the password of an account that is locked after two. -/

def twoAttempts : LocalAdminSettings := { signingKey := [], failedAttemptsThreshold := 2 }

def adminRow : LocalAdminRow := ⟨"admin", "right", true, 0, none, none, 0, 0, none, none⟩

def guardedWorld : AuthWorld Unit := ⟨⟨[adminRow], [], []⟩, warmProcess, ()⟩

def guess : Event LoginRequest := .start ⟨"admin", "guess", "10.0.0.1", "curl", none⟩

def guesses (events : List (Event LoginRequest)) : LoginPool Unit :=
  loginRun sampleAuth twoAttempts stillAuth guardedWorld events

def failsCheck (pool : LoginPool Unit) : Event LoginRequest → Bool
  | .start request => request.username == "admin"
  | .resume i =>
      match pool.tasks[i]? with
      | some ⟨_, _, .await (.store (.setSuccessfulLogin _ _)) _⟩ => false
      | _ => true

def writing (task : LoginTask) : Bool :=
  match task.prog with
  | .await (.store (.setFailedAttempts _ _ _)) _ => true
  | _ => false

def aloneCheck (pool : LoginPool Unit) : Event LoginRequest → Bool
  | .start _ => true
  | .resume i =>
      match pool.tasks[i]? with
      | some ⟨_, _, .await (.store (.selectLocalAdmin _)) _⟩ => pool.tasks.all fun task => !writing task
      | _ => true

theorem fails_of_check (pool : LoginPool Unit) (event : Event LoginRequest)
    (checked : failsCheck pool event = true) : Fails stillAuth "admin" pool event := by
  cases event with
  | start request => exact beq_iff_eq.mp checked
  | resume i =>
      rintro ⟨⟨request, log, prog⟩, name, ts, found, ⟨resume, left⟩, _⟩
      have left : prog = _ := left
      subst left
      rw [failsCheck, found] at checked
      cases checked

theorem alone_of_check (pool : LoginPool Unit) (event : Event LoginRequest)
    (checked : aloneCheck pool event = true) : ReadsAlone "admin" pool event := by
  rintro i ⟨request, log, prog⟩ rfl found ⟨resume, left⟩ other member name attempts until_ ⟨_, writes⟩
  have left : prog = _ := left
  subst left
  rw [aloneCheck, found] at checked
  have idle := List.all_eq_true.mp checked other member
  rw [writing, writes] at idle
  cases idle

/-- Two guesses, of which the second reads what the first has written. -/
def aloneGuesses : List (Event LoginRequest) :=
  [guess, guess, .resume 0, .resume 1, .resume 0, .resume 0, .resume 1, .resume 0, .resume 1, .resume 1]

theorem alone_guesses_tallied :
    ∃ row, rowOf (guesses aloneGuesses).state.store.localAdmins "admin" = some row ∧
      row.failedAttempts = 2 ∧ ∃ later, row.lockedUntil = some later ∧ 900000000 ≤ later := by
  have disciplined : Disciplined (authExec stillAuth) AuthState.instant (login sampleAuth twoAttempts)
      (fun pool event => Fails stillAuth "admin" pool event ∧ ReadsAlone "admin" pool event)
      ⟨guardedWorld, []⟩ aloneGuesses := by
    have checked : along (authExec stillAuth) AuthState.instant (login sampleAuth twoAttempts)
        (fun pool event => failsCheck pool event && aloneCheck pool event)
        ⟨guardedWorld, []⟩ aloneGuesses = true := rfl
    apply disciplined_of_along _ _ checked
    intro pool event passed
    have both := Bool.and_eq_true_iff.mp passed
    exact ⟨fails_of_check pool event both.1, alone_of_check pool event both.2⟩
  obtain ⟨row, found, tally, locks⟩ := attempts_tallied rfl aloneGuesses disciplined
  have all_recorded : (guesses aloneGuesses).tasks.countP (unrecorded "admin") = 0 := rfl
  have two : recorded "admin" (guesses aloneGuesses).state.store = 2 := rfl
  have none_before : recorded "admin" guardedWorld.store = 0 := rfl
  refine ⟨row, found, ?_, ?_⟩
  · unfold guesses at all_recorded two
    rw [all_recorded, two, none_before] at tally
    exact tally
  · have second := List.mem_of_getElem? (show (guesses aloneGuesses).tasks[1]? = some _ from rfl)
    have stored : ((guesses aloneGuesses).tasks.get ⟨1, by decide⟩).log[8]? =
        some ⟨.store (.setFailedAttempts "admin" 2 (some 900000000)), .ok ()⟩ := rfl
    exact locks _ second 2 900000000 (List.mem_of_getElem? stored)

/-- Three guesses. The second reads the account before the others and writes it after them. -/
def overlappingGuesses : List (Event LoginRequest) :=
  [guess, guess, guess, .resume 1, .resume 1, .resume 0, .resume 0, .resume 0, .resume 0, .resume 2,
    .resume 2, .resume 2, .resume 2, .resume 1, .resume 1]

/-- Three attempts count as one, and the lock that one of them has set is gone. -/
theorem overlapping_guesses_lost :
    Disciplined (authExec stillAuth) AuthState.instant (login sampleAuth twoAttempts) (Fails stillAuth "admin")
        ⟨guardedWorld, []⟩ overlappingGuesses ∧
      recorded "admin" (guesses overlappingGuesses).state.store =
        recorded "admin" guardedWorld.store + 3 ∧
      ∃ row, rowOf guardedWorld.store.localAdmins "admin" = some adminRow ∧
        rowOf (guesses overlappingGuesses).state.store.localAdmins "admin" = some row ∧
        row.failedAttempts = adminRow.failedAttempts + 1 ∧ row.lockedUntil = none ∧
        ∃ task ∈ (guesses overlappingGuesses).tasks, ∃ until_,
          ⟨.store (.setFailedAttempts "admin" 2 (some until_)), .ok ()⟩ ∈ task.log := by
  refine ⟨?_, rfl, _, rfl, rfl, rfl, rfl, ?_⟩
  · have checked : along (authExec stillAuth) AuthState.instant (login sampleAuth twoAttempts) failsCheck
        ⟨guardedWorld, []⟩ overlappingGuesses = true := rfl
    exact disciplined_of_along _ _ checked fails_of_check
  · have third := List.mem_of_getElem? (show (guesses overlappingGuesses).tasks[2]? = some _ from rfl)
    have stored : ((guesses overlappingGuesses).tasks.get ⟨2, by decide⟩).log[8]? =
        some ⟨.store (.setFailedAttempts "admin" 2 (some 900000000)), .ok ()⟩ := rfl
    exact ⟨_, third, 900000000, List.mem_of_getElem? stored⟩

end Lehen.Guessing
