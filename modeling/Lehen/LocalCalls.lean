import Lehen.LocalAdminService

/-!
What a login of the local-admin service does where the database executes every
statement, and calls of the service one after another.
-/

namespace Lehen.LocalCalls

open AuthState Jwt LocalAdminService
open Storage (Time)
open Prog (Tells tells_ret tells_raise tells_await tells_bind tells_perform_then tells_mono only_bind
  only_perform only_mono)

/-! The helpers of a login, by what they use of the database. -/

def Unstored : AuthOp → Prop
  | .store _ => False
  | _ => True

theorem unstored_hit (limit : Nat) (key : String) : (hitAndCheck limit key).Only Unstored := by
  apply only_bind (only_perform trivial)
  intro now
  apply only_bind (only_perform trivial)
  intro bucket
  apply only_bind (only_perform trivial)
  exact fun _ => trivial

theorem unstored_request_id (requestId : Option String) : (requestIdOr requestId).Only Unstored := by
  cases requestId with
  | none => exact only_perform trivial
  | some text =>
      rw [requestIdOr]
      split
      · exact only_perform trivial
      · trivial

section Events

variable {allowed : AuthOp → Prop} (apart : ∀ op, Unstored op → allowed op) {outcome : LoginOutcome}
  (event : ∀ event, event.outcome = outcome → allowed (.store (.insertLoginEvent event)))

include apart event

theorem only_record {username clientIp userAgent : String} {requestId : Option String} :
    (recordLoginEvent username clientIp userAgent outcome requestId).Only allowed := by
  apply only_bind (only_perform (apart .uuid4 trivial))
  intro id
  apply only_bind (only_perform (apart .clock trivial))
  intro ts
  apply only_bind (only_mono (unstored_request_id requestId) apart)
  intro requestId
  exact only_perform (event _ rfl)

theorem only_refuse {α : Type} {request : LoginRequest} :
    (refuseLogin request outcome : Auth α).Only allowed := by
  apply only_bind (only_record apart event)
  exact fun _ => trivial

end Events

variable {N : Type} (settings : AuthSettings) (admin : LocalAdminSettings) (outside : AuthOutside N)

def rowOf (rows : List LocalAdminRow) (username : String) : Option LocalAdminRow :=
  (rows.filter fun row => row.username = username).head?

def bucketOf (world : AuthWorld N) (key : String) : List Int :=
  (world.process.events.lookup key).getD []

/-- What a login goes by. -/
structure Sight where
  ipAllowed : Bool
  userAllowed : Bool
  row : Option LocalAdminRow
  now : Time

def sight (request : LoginRequest) (world : AuthWorld N) : Sight :=
  let ip := outside.monotonic world.outside
  let user := outside.monotonic ip.2
  let selected := outside.storeFails (.selectLocalAdmin request.username) user.2
  { ipAllowed :=
      (hit admin.rateLimitPerMinute (bucketOf world ("ip:" ++ request.clientIp)) ip.1).2
    userAllowed :=
      (hit admin.rateLimitPerMinute (bucketOf world ("user:" ++ request.username)) user.1).2
    row := rowOf world.store.localAdmins request.username
    now := (outside.clock selected.2).1 }

/-- The first condition of a login that fails, or success. -/
def firstFailing (sight : Sight) (right : LocalAdminRow → Bool) : LoginOutcome :=
  if sight.ipAllowed = false ∨ sight.userAllowed = false then .rateLimited
  else
    match sight.row with
    | none => .noSuchUser
    | some row =>
        if row.enabled = false then .disabled
        else if isLocked row sight.now then .lockedOut
        else if right row = false then .badPassword
        else .success

/-- The outcome by the code's own check of the password. -/
def outcomeOf (request : LoginRequest) (world : AuthWorld N) : LoginOutcome :=
  firstFailing (sight admin outside request world) fun row =>
    verifyPassword settings request.password row.passwordHash

/-- When a row is locked until, after a failed attempt at an instant. -/
def lockAfter (row : LocalAdminRow) (now : Time) : Option Time :=
  if admin.failedAttemptsThreshold ≤ row.failedAttempts + 1 then
    some (now + admin.lockoutDurationSeconds * 1000000)
  else none

def countedRow (row : LocalAdminRow) (now : Time) (other : LocalAdminRow) : LocalAdminRow :=
  { other with failedAttempts := row.failedAttempts + 1, lockedUntil := lockAfter admin row now }

def clearedRow (now : Time) (other : LocalAdminRow) : LocalAdminRow :=
  { other with failedAttempts := 0, lockedUntil := none, lastLoginAt := some now }

/-- The rows a login leaves. -/
def rowsAfter (username : String) (sight : Sight) (outcome : LoginOutcome) (rows : List LocalAdminRow) :
    List LocalAdminRow :=
  match outcome, sight.row with
  | .badPassword, some row => setWhereUsername username (countedRow admin row sight.now) rows
  | .success, some _ => setWhereUsername username (clearedRow sight.now) rows
  | _, _ => rows

/-! What the operations of a call tell. -/

abbrev Entry := (op : AuthOp) × Except PyError op.Res

/-- Whose failed attempt was written down. -/
def attemptOf (entry : Entry) : Option String :=
  match entry.1 with
  | .store (.setFailedAttempts username _ _) => some username
  | _ => none

def clockOf : Entry → Option Time
  | ⟨.clock, .ok now⟩ => some now
  | _ => none

/-- The time a call went by, where it wrote a failed attempt of the user down. -/
def wrongAt (username : String) (log : List Entry) : Option Time :=
  if log.any fun entry => attemptOf entry = some username then log.findSome? clockOf else none

/-- Entries among which no failed attempt is. -/
def Quiet (log : List Entry) : Prop := ∀ entry ∈ log, attemptOf entry = none

def Untimed (log : List Entry) : Prop := ∀ entry ∈ log, clockOf entry = none

theorem wrong_at_quiet {log : List Entry} (quiet : Quiet log) (username : String) :
    wrongAt username log = none := by
  rw [wrongAt, if_neg]
  simp only [List.any_eq_true, decide_eq_true_eq, not_exists, not_and]
  intro entry member written
  rw [quiet entry member] at written
  cases written

theorem wrong_at_append {past tail : List Entry} (quiet : Quiet tail) {now : Time}
    (timed : past.findSome? clockOf = some now) (username : String) :
    wrongAt username (past ++ tail) = wrongAt username past := by
  have none_later : (tail.any fun entry => attemptOf entry = some username) = false := by
    rw [List.any_eq_false]
    intro entry member
    simp [quiet entry member]
  rw [wrongAt, wrongAt, List.any_append, none_later, Bool.or_false, List.findSome?_append, timed]
  rfl

/-! A login, operation by operation. -/

section Telling

variable {settings admin outside} {world : AuthWorld N} {past : List Entry} {α : Type}
  {post : Except PyError α → List Entry → AuthWorld N → Prop}

theorem store_executed (reliable : outside.Reliable) (statement : AuthStatement) (world : AuthWorld N) :
    authExec outside (.store statement) world =
      (.ok (statement.apply world.store).1,
        { world with
          store := (statement.apply world.store).2
          outside := (outside.storeFails statement world.outside).2 }) := by
  have never := reliable statement world.outside
  rcases answered : outside.storeFails statement world.outside with ⟨_ | text, later⟩
  · simp only [authExec, answered]
  · rw [answered] at never
    cases never

theorem tells_store_then (reliable : outside.Reliable) {statement : AuthStatement}
    {next : statement.Res → Auth α}
    (rest : Tells (authExec outside) (next (statement.apply world.store).1)
      (past ++ [⟨.store statement, .ok (statement.apply world.store).1⟩])
      { world with
        store := (statement.apply world.store).2
        outside := (outside.storeFails statement world.outside).2 } post) :
    Tells (authExec outside) ((Prog.perform (AuthOp.store statement) : Auth statement.Res).bind next)
      past world post := by
  have executed := store_executed reliable statement world
  have onward := congrArg Prod.snd executed
  dsimp only at onward
  rw [← onward] at rest
  exact tells_perform_then (congrArg Prod.fst executed) rest

/-- A statement at the end of a call. -/
theorem tells_store (reliable : outside.Reliable) {statement : AuthStatement}
    {post : Except PyError statement.Res → List Entry → AuthWorld N → Prop}
    (done : post (.ok (statement.apply world.store).1)
      (past ++ [⟨.store statement, .ok (statement.apply world.store).1⟩])
      { world with
        store := (statement.apply world.store).2
        outside := (outside.storeFails statement world.outside).2 }) :
    Tells (authExec outside) (command statement) past world post := by
  rw [command, Prog.perform, tells_await, store_executed reliable]
  exact (tells_ret _ _ _ _).mpr done

theorem tells_clock_then {next : Time → Auth α}
    (rest : Tells (authExec outside) (next (outside.clock world.outside).1)
      (past ++ [⟨.clock, .ok (outside.clock world.outside).1⟩])
      { world with outside := (outside.clock world.outside).2 } post) :
    Tells (authExec outside) (clock.bind next) past world post :=
  tells_perform_then rfl rest

theorem tells_uuid_then {next : String → Auth α}
    (rest : Tells (authExec outside) (next (outside.uuid4 world.outside).1)
      (past ++ [⟨.uuid4, .ok (outside.uuid4 world.outside).1⟩])
      { world with outside := (outside.uuid4 world.outside).2 } post) :
    Tells (authExec outside) (uuid4.bind next) past world post :=
  tells_perform_then rfl rest

theorem quiet_snoc {log : List Entry} {entry : Entry} (quiet : Quiet log)
    (silent : attemptOf entry = none) : Quiet (log ++ [entry]) := by
  intro other member
  rcases List.mem_append.mp member with before | last
  · exact quiet other before
  · rw [List.mem_singleton.mp last]
    exact silent

theorem quiet_nil : Quiet [] := fun _ member => absurd member List.not_mem_nil

theorem quiet_append {first second : List Entry} (quiet : Quiet first) (also : Quiet second) :
    Quiet (first ++ second) := by
  intro entry member
  rcases List.mem_append.mp member with before | later
  · exact quiet entry before
  · exact also entry later

/-- The hit of a limiter. -/
theorem tells_hit_then {key : String} {limit : Nat} {next : Bool → Auth α}
    (rest : ∀ tail, Quiet tail → Untimed tail →
      Tells (authExec outside)
        (next (hit limit (bucketOf world key) (outside.monotonic world.outside).1).2) (past ++ tail)
        { world with
          outside := (outside.monotonic world.outside).2
          process := { world.process with
            events := world.process.events.insert key
              (hit limit (bucketOf world key) (outside.monotonic world.outside).1).1 } } post) :
    Tells (authExec outside) ((hitAndCheck limit key).bind next) past world post := by
  unfold hitAndCheck
  simp only [Prog.bind_eq, Prog.bind_assoc, Prog.pure_eq, Prog.bind_ret]
  apply tells_perform_then rfl
  apply tells_perform_then rfl
  apply tells_perform_then rfl
  rw [List.append_assoc, List.append_assoc]
  apply rest
  · exact quiet_snoc (quiet_snoc (quiet_snoc quiet_nil rfl) rfl) rfl
  · intro entry member
    simp only [List.cons_append, List.nil_append, List.mem_cons, List.not_mem_nil, or_false] at member
    rcases member with rfl | rfl | rfl <;> rfl

theorem tells_request_id_then {requestId : Option String} {next : String → Auth α}
    (rest : ∀ text tail later, Quiet tail →
      Tells (authExec outside) (next text) (past ++ tail) { world with outside := later } post) :
    Tells (authExec outside) ((requestIdOr requestId).bind next) past world post := by
  have fresh : Tells (authExec outside) (uuid4.bind next) past world post := by
    apply tells_uuid_then
    exact rest _ _ _ (quiet_snoc quiet_nil rfl)
  cases requestId with
  | none => exact fresh
  | some text =>
      by_cases empty : text = ""
      · rw [requestIdOr, if_pos empty]
        exact fresh
      · have given := rest text [] world.outside quiet_nil
        rw [List.append_nil] at given
        rw [requestIdOr, if_neg empty]
        exact given

/-- The event of a call, in front of the rest. -/
theorem tells_event_then (reliable : outside.Reliable) {username clientIp userAgent : String}
    {outcome : LoginOutcome} {requestId : Option String} {next : Unit → Auth α}
    (rest : ∀ event tail after, Quiet tail → event.username = username → event.outcome = outcome →
      after.store = { world.store with loginEvents := world.store.loginEvents ++ [event] } →
        Tells (authExec outside) (next ()) (past ++ tail) after post) :
    Tells (authExec outside)
      ((recordLoginEvent username clientIp userAgent outcome requestId).bind next) past world post := by
  unfold recordLoginEvent
  simp only [Prog.bind_eq, Prog.bind_assoc]
  apply tells_uuid_then
  apply tells_clock_then
  apply tells_request_id_then
  intro text tail later quiet
  apply tells_store_then reliable
  simp only [List.append_assoc]
  apply rest ⟨_, _, username, clientIp, agentText userAgent, outcome, text⟩
  · apply quiet_append (quiet_snoc quiet_nil rfl)
    exact quiet_append (quiet_snoc quiet_nil rfl) (quiet_snoc quiet rfl)
  · rfl
  · rfl
  · rfl

theorem tells_refused (reliable : outside.Reliable) {request : LoginRequest} {outcome : LoginOutcome}
    (done : ∀ event tail after, Quiet tail → event.username = request.username →
      event.outcome = outcome →
      after.store = { world.store with loginEvents := world.store.loginEvents ++ [event] } →
        post (.error ⟨.localAdminAuthError, "authentication failed"⟩) (past ++ tail) after) :
    Tells (authExec outside) (refuseLogin request outcome) past world post := by
  apply tells_event_then reliable
  intro event tail after quiet name named stored
  exact (tells_raise _ _ _ _).mpr (done event tail after quiet name named stored)

end Telling

/-! The whole login. -/

/-- The token is one that is issued for the username of the login. -/
structure Issued (request : LoginRequest) (result : LocalAdminLoginResult) : Prop where
  username : result.username = request.username
  token : ∃ during : AuthWorld N,
    ((issueLocalAdminToken settings request.username admin.signingKey admin.tokenTtlSeconds).run
      (authExec outside) during).1 = .ok result.token

/-- What a login has done, by the condition that failed first. -/
structure LoginDone (request : LoginRequest) (world : AuthWorld N)
    (answer : Except PyError LocalAdminLoginResult) (log : List Entry) (after : AuthWorld N) : Prop where
  returned : outcomeOf settings admin outside request world = .success →
    ∃ result, answer = .ok result ∧ Issued settings admin outside request result
  refused : outcomeOf settings admin outside request world ≠ .success →
    answer = .error ⟨.localAdminAuthError, "authentication failed"⟩
  event : ∃ event : LocalAdminLoginEvent,
    after.store.loginEvents = world.store.loginEvents ++ [event] ∧
      event.username = request.username ∧
        event.outcome = outcomeOf settings admin outside request world
  rows : after.store.localAdmins = rowsAfter admin request.username (sight admin outside request world)
    (outcomeOf settings admin outside request world) world.store.localAdmins
  wrong : ∀ username, wrongAt username log =
    if request.username = username ∧ outcomeOf settings admin outside request world = .badPassword then
      some (sight admin outside request world).now
    else none

section Deciding

variable {settings admin outside} {request : LoginRequest} {world : AuthWorld N}

/-- A login that is refused before the password is checked. -/
theorem tells_unchecked (reliable : outside.Reliable) {outcome : LoginOutcome} {past : List Entry}
    {between : AuthWorld N} (same : between.store = world.store) (quiet : Quiet past)
    (decided : outcomeOf settings admin outside request world = outcome)
    (unsuccessful : outcome ≠ .success) (unchecked : outcome ≠ .badPassword) :
    Tells (authExec outside) (refuseLogin request outcome) past between
      (LoginDone settings admin outside request world) := by
  apply tells_refused reliable
  intro event tail after quiet' name named stored
  rw [same] at stored
  constructor
  · exact fun succeeded => absurd (decided.symm.trans succeeded) unsuccessful
  · exact fun _ => rfl
  · exact ⟨event, by rw [stored], name, named.trans decided.symm⟩
  · rw [stored, decided]
    cases outcome with
    | badPassword => exact absurd rfl unchecked
    | success => exact absurd rfl unsuccessful
    | _ => rfl
  · intro username
    rw [wrong_at_quiet (quiet_append quiet quiet'), if_neg]
    exact fun both => unchecked (decided.symm.trans both.2)

theorem keys_differ (clientIp username : String) : "user:" ++ username ≠ "ip:" ++ clientIp := by
  intro same
  have chars := congrArg String.toList same
  simp at chars

/-- The second limiter does not see the hit of the first. -/
theorem bucket_untouched (request : LoginRequest) (world : AuthWorld N) (bucket : List Int) (next : N) :
    bucketOf ({ world with
      outside := next
      process := { world.process with
        events := world.process.events.insert ("ip:" ++ request.clientIp) bucket } } : AuthWorld N)
      ("user:" ++ request.username) = bucketOf world ("user:" ++ request.username) := by
  unfold bucketOf
  rw [AList.lookup_insert_ne (keys_differ _ _)]

theorem row_of_username {rows : List LocalAdminRow} {username : String} {row : LocalAdminRow}
    (found : rowOf rows username = some row) : row.username = username := by
  have member := List.mem_of_head? found
  simpa using (List.mem_filter.mp member).2

/-- The time of a wrong guess is the one the login read first. -/
theorem wrong_of_attempt {past : List Entry} {entry : Entry} {now : Time} {username : String}
    (quiet : Quiet past) (timed : past.findSome? clockOf = some now)
    (attempt : attemptOf entry = some username) (other : String) :
    wrongAt other (past ++ [entry]) = if username = other then some now else none := by
  have before : (past.any fun entry => attemptOf entry = some other) = false := by
    rw [List.any_eq_false]
    intro entry member
    simp [quiet entry member]
  rw [wrongAt, List.any_append, before, List.findSome?_append, timed]
  simp [attempt]

theorem rows_after_wrong {sight : Sight} {row : LocalAdminRow} (read : sight.row = some row)
    (username : String) (rows : List LocalAdminRow) :
    rowsAfter admin username sight .badPassword rows =
      setWhereUsername username (countedRow admin row sight.now) rows := by
  unfold rowsAfter
  rw [read]

theorem rows_after_right {sight : Sight} {row : LocalAdminRow} (read : sight.row = some row)
    (username : String) (rows : List LocalAdminRow) :
    rowsAfter admin username sight .success rows =
      setWhereUsername username (clearedRow sight.now) rows := by
  unfold rowsAfter
  rw [read]

theorem timed_append {past : List Entry} {now : Time} (timed : past.findSome? clockOf = some now)
    (tail : List Entry) : (past ++ tail).findSome? clockOf = some now := by
  rw [List.findSome?_append, timed]
  rfl

theorem timed_after {first : List Entry} (untimed : Untimed first) (now : Time) :
    (first ++ [(⟨.clock, .ok now⟩ : Entry)]).findSome? clockOf = some now := by
  have nothing : first.findSome? clockOf = none := List.findSome?_eq_none_iff.mpr untimed
  rw [List.findSome?_append, nothing]
  rfl

/-- A password that was verified and wrong. -/
theorem tells_wrong (reliable : outside.Reliable) {row : LocalAdminRow} {now : Time}
    {between : AuthWorld N} {past : List Entry} (same : between.store = world.store)
    (quiet : Quiet past) (timed : past.findSome? clockOf = some now)
    (read : (sight admin outside request world).row = some row)
    (instant : (sight admin outside request world).now = now)
    (decided : outcomeOf settings admin outside request world = .badPassword) :
    Tells (authExec outside)
      ((recordFailedAttempt admin row now).bind fun _ => refuseLogin request .badPassword) past between
      (LoginDone settings admin outside request world) := by
  have own := row_of_username read
  apply tells_store_then reliable
  apply tells_refused reliable
  intro event tail after quiet' name named stored
  constructor
  · intro succeeded
    rw [decided] at succeeded
    cases succeeded
  · exact fun _ => rfl
  · refine ⟨event, ?_, name, named.trans decided.symm⟩
    rw [stored]
    simp only [AuthStatement.apply, same]
  · rw [decided, rows_after_wrong read, instant, stored]
    simp only [AuthStatement.apply, same, own]
    rfl
  · intro username
    rw [wrong_at_append quiet' (timed_append timed _), wrong_of_attempt quiet timed rfl, own, decided, instant]
    simp

/-- A password that was right. -/
theorem tells_right (reliable : outside.Reliable) {row : LocalAdminRow} {now : Time}
    {between : AuthWorld N} {past : List Entry} (same : between.store = world.store)
    (quiet : Quiet past) (read : (sight admin outside request world).row = some row)
    (instant : (sight admin outside request world).now = now)
    (decided : outcomeOf settings admin outside request world = .success) :
    Tells (authExec outside)
      ((recordSuccessfulLogin row now).bind fun _ =>
        (issueLocalAdminToken settings request.username admin.signingKey admin.tokenTtlSeconds).bind
          fun token =>
            (recordLoginEvent request.username request.clientIp request.userAgent .success
              request.requestId).bind fun _ =>
                clock.bind fun instant => .ret
                  { token, expiresAt := instant + admin.tokenTtlSeconds * 1000000
                    username := request.username }) past between
      (LoginDone settings admin outside request world) := by
  have own := row_of_username read
  unfold issueLocalAdminToken
  simp only [Prog.bind_eq, Prog.bind_assoc, Prog.pure_eq, Prog.bind_ret]
  apply tells_store_then reliable
  apply tells_clock_then
  apply tells_event_then reliable
  intro event tail after quiet' name named stored
  apply tells_clock_then
  rw [tells_ret]
  constructor
  · exact fun _ => ⟨_, rfl, rfl, _, rfl⟩
  · exact fun unsuccessful => absurd decided unsuccessful
  · refine ⟨event, ?_, name, named.trans decided.symm⟩
    simp only [stored, AuthStatement.apply, same]
  · rw [decided, rows_after_right read, instant]
    simp only [stored, AuthStatement.apply, same, own]
    rfl
  · intro username
    rw [wrong_at_quiet, decided, if_neg nofun]
    exact quiet_snoc (quiet_append (quiet_snoc (quiet_snoc quiet rfl) rfl) quiet') rfl

end Deciding

variable {settings admin outside} in
theorem login_tells (reliable : outside.Reliable) (request : LoginRequest) (world : AuthWorld N) :
    Tells (authExec outside) (login settings admin request) [] world
      (LoginDone settings admin outside request world) := by
  unfold login
  simp only [Prog.bind_eq]
  apply tells_hit_then
  intro first quiet untimed
  split
  · next closed =>
      have limited : outcomeOf settings admin outside request world = .rateLimited := by
        rw [outcomeOf, firstFailing, if_pos]
        exact .inl closed
      exact tells_unchecked reliable rfl quiet limited nofun nofun
  · next ipOpen =>
      apply tells_hit_then
      intro second quiet' untimed'
      rw [bucket_untouched]
      split
      · next closed =>
          have limited : outcomeOf settings admin outside request world = .rateLimited := by
            rw [outcomeOf, firstFailing, if_pos]
            exact .inr closed
          exact tells_unchecked reliable rfl (quiet_append quiet quiet') limited nofun nofun
      · next userOpen =>
          -- Both limits are passed, so the row decides.
          have open_ : ¬ ((sight admin outside request world).ipAllowed = false ∨
              (sight admin outside request world).userAllowed = false) := by
            rintro (closed | closed)
            · exact ipOpen closed
            · exact userOpen closed
          have before {row time : Entry} (silent : attemptOf row = none) (silent' : attemptOf time = none) :
              Quiet (first ++ second ++ [row] ++ [time]) :=
            quiet_snoc (quiet_snoc (quiet_append quiet quiet') silent) silent'
          have timed {row : Entry} (untimed'' : clockOf row = none) (now : Time) :
              (first ++ second ++ [row] ++ [(⟨.clock, .ok now⟩ : Entry)]).findSome? clockOf = some now := by
            apply timed_after
            intro entry member
            rcases List.mem_append.mp member with earlier | last
            · rcases List.mem_append.mp earlier with one | two
              · exact untimed entry one
              · exact untimed' entry two
            · rw [List.mem_singleton.mp last]
              exact untimed''
          unfold fetchRow
          simp only [Prog.bind_eq, Prog.bind_assoc, Prog.pure_eq, Prog.bind_ret]
          apply tells_store_then reliable
          apply tells_clock_then
          split
          · next missing =>
              have read : (sight admin outside request world).row = none := missing
              have decided : outcomeOf settings admin outside request world = .noSuchUser := by
                rw [outcomeOf, firstFailing, if_neg open_, read]
              exact tells_unchecked reliable rfl (before rfl rfl) decided nofun nofun
          · next row found =>
              have read : (sight admin outside request world).row = some row := found
              have decided : outcomeOf settings admin outside request world =
                  if row.enabled = false then .disabled
                  else if isLocked row (sight admin outside request world).now then .lockedOut
                  else if verifyPassword settings request.password row.passwordHash = false then
                    .badPassword
                  else .success := by
                rw [outcomeOf, firstFailing, if_neg open_, read]
              split
              · next off =>
                  have disabled := decided.trans (if_pos off)
                  exact tells_unchecked reliable rfl (before rfl rfl) disabled nofun nofun
              · next on =>
                  have enabled := decided.trans (if_neg on)
                  split
                  · next locked =>
                      have lockedOut := enabled.trans (if_pos locked)
                      exact tells_unchecked reliable rfl (before rfl rfl) lockedOut nofun nofun
                  · next unlocked =>
                      have free := enabled.trans (if_neg unlocked)
                      split
                      · next wrong =>
                          have bad := free.trans (if_pos wrong)
                          exact tells_wrong reliable rfl (before rfl rfl) (timed rfl _) read rfl bad
                      · next right =>
                          have good := free.trans (if_neg right)
                          exact tells_right reliable rfl (before rfl rfl) read rfl good

/-! What an outcome says. -/

theorem first_failing_bad {sight : Sight} {right : LocalAdminRow → Bool}
    (decided : firstFailing sight right = .badPassword) :
    ∃ row, sight.row = some row ∧ isLocked row sight.now = false := by
  unfold firstFailing at decided
  split at decided
  · cases decided
  · split at decided
    · cases decided
    · next row read =>
        split at decided
        · cases decided
        · split at decided
          · cases decided
          · next unlocked => exact ⟨row, read, by simpa using unlocked⟩

/-- What a login needs to succeed. -/
structure Accepted (sight : Sight) (right : LocalAdminRow → Bool) : Prop where
  ipAllowed : sight.ipAllowed = true
  userAllowed : sight.userAllowed = true
  row : ∃ row, sight.row = some row ∧ row.enabled = true ∧ isLocked row sight.now = false ∧
    right row = true

theorem first_failing_success_iff {sight : Sight} {right : LocalAdminRow → Bool} :
    firstFailing sight right = .success ↔ Accepted sight right := by
  constructor
  · intro decided
    unfold firstFailing at decided
    split at decided
    · cases decided
    · next open_ =>
        simp only [not_or, Bool.not_eq_false] at open_
        split at decided
        · cases decided
        · next row read =>
            split at decided
            · cases decided
            · next on =>
                split at decided
                · cases decided
                · next unlocked =>
                    split at decided
                    · cases decided
                    · next good =>
                        refine ⟨open_.1, open_.2, row, read, ?_, ?_, ?_⟩ <;> simp_all
  · rintro ⟨ip, user, row, read, on, unlocked, good⟩
    simp [firstFailing, ip, user, read, on, unlocked, good]

/-! The rows of the calls. -/

theorem row_of_set {set : LocalAdminRow → LocalAdminRow} {username : String}
    (keeps : ∀ row, row.username = username → (set row).username = username)
    (rows : List LocalAdminRow) :
    rowOf (setWhereUsername username set rows) username = (rowOf rows username).map set := by
  induction rows with
  | nil => rfl
  | cons row rest ih =>
      simp only [rowOf, setWhereUsername, List.map_cons] at ih ⊢
      by_cases own : row.username = username
      · simp [own, keeps row own]
      · simp [own, ih]

theorem row_of_set_other {set : LocalAdminRow → LocalAdminRow} {username other : String}
    (keeps : ∀ row, row.username = username → (set row).username = username)
    (different : other ≠ username) (rows : List LocalAdminRow) :
    rowOf (setWhereUsername username set rows) other = rowOf rows other := by
  induction rows with
  | nil => rfl
  | cons row rest ih =>
      simp only [rowOf, setWhereUsername, List.map_cons] at ih ⊢
      by_cases own : row.username = username
      · simp [own, keeps row own, different.symm, ih]
      · by_cases others : row.username = other
        · simp [others, different]
        · simp [own, others, ih]

theorem row_of_append {rows : List LocalAdminRow} {username : String} {doc : LocalAdminRow}
    (missing : rowOf rows username = none) (named : doc.username = username) :
    rowOf (rows ++ [doc]) username = some doc := by
  unfold rowOf at missing ⊢
  rw [List.filter_append, List.head?_append, missing]
  simp [named]

theorem row_of_append_other {rows : List LocalAdminRow} {other : String} {doc : LocalAdminRow}
    (different : doc.username ≠ other) : rowOf (rows ++ [doc]) other = rowOf rows other := by
  simp [rowOf, List.filter_append, different]

theorem counted_named {admin : LocalAdminSettings} {row : LocalAdminRow} {now : Time} {username : String} :
    ∀ other : LocalAdminRow, other.username = username →
      (countedRow admin row now other).username = username := fun _ named => named

theorem cleared_named {now : Time} {username : String} : ∀ other : LocalAdminRow,
    other.username = username → (clearedRow now other).username = username := fun _ named => named

variable {settings admin outside} in
/-- The row of a username after a login. -/
theorem row_of_login {request : LoginRequest} {world after : AuthWorld N} {log : List Entry}
    {answer : Except PyError LocalAdminLoginResult}
    (done : LoginDone settings admin outside request world answer log after) (username : String) :
    rowOf after.store.localAdmins username =
      if request.username = username then
        match outcomeOf settings admin outside request world with
        | .badPassword => (rowOf world.store.localAdmins username).map fun row =>
            countedRow admin row (sight admin outside request world).now row
        | .success => (rowOf world.store.localAdmins username).map
            (clearedRow (sight admin outside request world).now)
        | _ => rowOf world.store.localAdmins username
      else rowOf world.store.localAdmins username := by
  have seen : (sight admin outside request world).row = rowOf world.store.localAdmins request.username :=
    rfl
  rw [done.rows]
  by_cases own : request.username = username
  · subst own
    rw [if_pos rfl]
    -- Only a wrong password and a success write the row.
    cases decided : outcomeOf settings admin outside request world with
    | badPassword =>
        obtain ⟨row, read, _⟩ := first_failing_bad decided
        rw [rows_after_wrong read, row_of_set counted_named, ← seen, read]
        rfl
    | success =>
        obtain ⟨row, read, _⟩ := (first_failing_success_iff.mp decided).row
        rw [rows_after_right read, row_of_set cleared_named]
    | _ => rfl
  · rw [if_neg own]
    cases decided : outcomeOf settings admin outside request world with
    | badPassword =>
        obtain ⟨row, read, _⟩ := first_failing_bad decided
        rw [rows_after_wrong read, row_of_set_other counted_named fun same => own same.symm]
    | success =>
        obtain ⟨row, read, _⟩ := (first_failing_success_iff.mp decided).row
        rw [rows_after_right read, row_of_set_other cleared_named fun same => own same.symm]
    | _ => rfl

structure RotateDone (username password : String) (world : AuthWorld N) (answer : Except PyError Unit)
    (log : List Entry) (after : AuthWorld N) : Prop where
  returned : answer = .ok ()
  quiet : Quiet log
  own : ∃ now, rowOf after.store.localAdmins username =
    some (freshRow username (outside.hashPassword password world.outside).1
      (rowOf world.store.localAdmins username) now)
  others : ∀ other, other ≠ username →
    rowOf after.store.localAdmins other = rowOf world.store.localAdmins other

variable {outside} in
theorem rotate_tells (reliable : outside.Reliable) (username password : String) (world : AuthWorld N) :
    Tells (authExec outside) (bootstrapSetPassword username password) [] world
      (RotateDone outside username password world) := by
  -- The rotation is recorded after the row, whether that was there or not.
  have recorded {after : AuthWorld N} {past : List Entry} (quiet : Quiet past)
      (own : ∃ now, rowOf after.store.localAdmins username =
        some (freshRow username (outside.hashPassword password world.outside).1
          (rowOf world.store.localAdmins username) now))
      (others : ∀ other, other ≠ username →
        rowOf after.store.localAdmins other = rowOf world.store.localAdmins other)
      (now : Time) (previousExisted : Bool) :
      Tells (authExec outside) (uuid4.bind fun id =>
        command (.insertRotation { id, ts := now, username, previousExisted })) past after
        (RotateDone outside username password world) := by
    apply tells_uuid_then
    apply tells_store reliable
    exact ⟨rfl, quiet_snoc (quiet_snoc quiet rfl) rfl, own, others⟩
  unfold bootstrapSetPassword fetchRow
  simp only [Prog.bind_eq, Prog.bind_assoc, Prog.pure_eq, Prog.bind_ret]
  apply tells_perform_then rfl
  apply tells_clock_then
  apply tells_store_then reliable
  unfold saveRow
  split
  · next existed =>
      obtain ⟨row, found⟩ := Option.isSome_iff_exists.mp existed
      have before : rowOf world.store.localAdmins username = some row := found
      have named (now : Time) (row : LocalAdminRow) (_ : row.username = username) :
          (freshRow username (outside.hashPassword password world.outside).1
            (rowOf world.store.localAdmins username) now).username = username := rfl
      have replaced (now : Time) : rowOf (setWhereUsername username (fun _ => freshRow username
            (outside.hashPassword password world.outside).1 (rowOf world.store.localAdmins username) now)
          world.store.localAdmins) username =
          some (freshRow username (outside.hashPassword password world.outside).1
            (rowOf world.store.localAdmins username) now) := by
        rw [row_of_set (named now), before]
        rfl
      apply tells_store_then reliable
      apply recorded
      · exact quiet_snoc (quiet_snoc (quiet_snoc (quiet_snoc quiet_nil rfl) rfl) rfl) rfl
      · exact ⟨_, replaced _⟩
      · exact fun other different => row_of_set_other (named _) different _
  · next fresh =>
      have missing : rowOf world.store.localAdmins username = none :=
        Option.not_isSome_iff_eq_none.mp fresh
      apply tells_store_then reliable
      apply recorded
      · exact quiet_snoc (quiet_snoc (quiet_snoc (quiet_snoc quiet_nil rfl) rfl) rfl) rfl
      · exact ⟨_, row_of_append missing rfl⟩
      · exact fun other different => row_of_append_other fun same => different same.symm

/-- What a login reads of a row, but for the switch. -/
def account (row : LocalAdminRow) : String × Nat × Option Time :=
  (row.passwordHash, row.failedAttempts, row.lockedUntil)

theorem account_of_set {set : LocalAdminRow → LocalAdminRow} {username : String}
    (keeps : ∀ row, (set row).username = row.username) (same : ∀ row, account (set row) = account row)
    (rows : List LocalAdminRow) (other : String) :
    (rowOf (setWhereUsername username set rows) other).map account = (rowOf rows other).map account := by
  by_cases own : other = username
  · subst own
    rw [row_of_set fun row named => (keeps row).trans named, Option.map_map]
    congr 1
    funext row
    exact same row
  · rw [row_of_set_other (fun row named => (keeps row).trans named) own]

structure DisableDone (world : AuthWorld N) (answer : Except PyError Bool) (log : List Entry)
    (after : AuthWorld N) : Prop where
  returned : ∃ disabled, answer = .ok disabled
  quiet : Quiet log
  rows : ∀ username, (rowOf after.store.localAdmins username).map account =
    (rowOf world.store.localAdmins username).map account

variable {outside} in
theorem disable_tells (reliable : outside.Reliable) (siamUsername : String) (world : AuthWorld N) :
    Tells (authExec outside) (disableOnSiamAdminLogin siamUsername) [] world (DisableDone world) := by
  unfold disableOnSiamAdminLogin fetchRow
  simp only [Prog.bind_eq, Prog.bind_assoc, Prog.pure_eq, Prog.bind_ret]
  apply tells_store_then reliable
  split
  · rw [tells_ret]
    exact ⟨⟨_, rfl⟩, quiet_snoc quiet_nil rfl, fun _ => rfl⟩
  · next row found =>
      split
      · rw [tells_ret]
        exact ⟨⟨_, rfl⟩, quiet_snoc quiet_nil rfl, fun _ => rfl⟩
      · apply tells_clock_then
        apply tells_store_then reliable
        apply tells_event_then reliable
        intro event tail after quiet name named stored
        rw [tells_ret]
        refine ⟨⟨_, rfl⟩, ?_, ?_⟩
        · exact quiet_append (quiet_snoc (quiet_snoc (quiet_snoc quiet_nil rfl) rfl) rfl) quiet
        · intro username
          rw [stored]
          apply account_of_set
          · exact fun _ => rfl
          · exact fun _ => rfl

/-! Calls one after another. -/

inductive LocalCall where
  | login (request : LoginRequest)
  | rotate (username password : String)
  | disable (siamUsername : String)

/-- A call with its result, where it has one. -/
def serveLocal : LocalCall → Auth (Option LocalAdminLoginResult)
  | .login request => do
      let result ← login settings admin request
      return some result
  | .rotate username password => do
      bootstrapSetPassword username password
      return none
  | .disable siamUsername => do
      let _ ← disableOnSiamAdminLogin siamUsername
      return none

/-- The world a call leaves, whether it returns or raises. -/
def callOnce (call : LocalCall) (world : AuthWorld N) : AuthWorld N :=
  ((serveLocal settings admin call).run (authExec outside) world).2

variable {settings admin outside} in
theorem login_called (reliable : outside.Reliable) (request : LoginRequest) (world : AuthWorld N) :
    Tells (authExec outside) (serveLocal settings admin (.login request)) [] world
      fun answer log after => ∃ own, LoginDone settings admin outside request world own log after ∧
        answer = own.map some := by
  simp only [serveLocal, Prog.bind_eq, tells_bind]
  apply tells_mono (login_tells reliable request world)
  intro outcome log after done
  cases outcome with
  | ok result => exact (tells_ret _ _ _ _).mpr ⟨_, done, rfl⟩
  | error error => exact ⟨_, done, rfl⟩

variable {settings admin outside} in
theorem rotate_called (reliable : outside.Reliable) (username password : String) (world : AuthWorld N) :
    Tells (authExec outside) (serveLocal settings admin (.rotate username password)) [] world
      fun answer log after => RotateDone outside username password world (.ok ()) log after ∧
        answer = .ok none := by
  simp only [serveLocal, Prog.bind_eq, tells_bind]
  apply tells_mono (rotate_tells reliable username password world)
  intro outcome log after done
  obtain rfl := done.returned
  exact (tells_ret _ _ _ _).mpr ⟨done, rfl⟩

variable {settings admin outside} in
theorem disable_called (reliable : outside.Reliable) (siamUsername : String) (world : AuthWorld N) :
    Tells (authExec outside) (serveLocal settings admin (.disable siamUsername)) [] world
      fun _ log after => ∃ disabled, DisableDone world (.ok disabled) log after := by
  simp only [serveLocal, Prog.bind_eq, tells_bind]
  apply tells_mono (disable_tells reliable siamUsername world)
  intro outcome log after done
  obtain ⟨disabled, rfl⟩ := done.returned
  exact (tells_ret _ _ _ _).mpr ⟨disabled, done⟩

def callAll (calls : List LocalCall) (world : AuthWorld N) : AuthWorld N :=
  calls.foldl (fun world call => callOnce settings admin outside call world) world

end Lehen.LocalCalls
