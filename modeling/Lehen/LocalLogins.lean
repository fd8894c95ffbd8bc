import Lehen.LocalCalls
import Lehen.Verification
import Mathlib.Data.List.Induction

/-!
Which logins of the local-admin service return a token, after any calls of the
service, and what every login leaves behind.
-/

namespace Lehen.LocalLogins

open AuthState LocalAdminService LocalCalls Verification

variable {N : Type} (settings : AuthSettings) (admin : LocalAdminSettings) (outside : AuthOutside N)

/-- argon2: a hash is a text that verifies the password it was made of and no other. -/
structure Hashing : Prop where
  verifies : ∀ password state tried,
    settings.passwordMatches (outside.hashPassword password state).1 tried = true ↔ tried = password
  filled : ∀ password state, (outside.hashPassword password state).1 ≠ ""

/-- The password a call sets for a username. -/
def rotationOf (username : String) : LocalCall → Option String
  | .rotate name password => if name = username then some password else none
  | _ => none

/-- The password of the latest rotation. -/
def latestPassword (username : String) (calls : List LocalCall) : Option String :=
  calls.reverse.findSome? (rotationOf username)

/-- What a login has answered and left, by the conditions in their order. `latest` is
the password of the latest rotation of the username. -/
structure Answered (latest : Option String) (request : LoginRequest) (before : AuthWorld N)
    (answer : Except PyError LocalAdminLoginResult) (after : AuthWorld N) : Prop where
  token : (∃ result, answer = .ok result) ↔
    Accepted (sight admin outside request before) fun _ => latest = some request.password
  issued : ∀ result, answer = .ok result → Issued settings admin outside request result
  refused : ∀ error, answer = .error error → error = ⟨.localAdminAuthError, "authentication failed"⟩
  event : ∃ event, after.store.loginEvents = before.store.loginEvents ++ [event] ∧
    event.username = request.username ∧
      event.outcome = firstFailing (sight admin outside request before)
        fun _ => latest = some request.password
  rows : after.store.localAdmins = rowsAfter admin request.username (sight admin outside request before)
    (firstFailing (sight admin outside request before) fun _ => latest = some request.password)
    before.store.localAdmins

/-! The hash of a row. -/

/-- A row is there when its password was set, with a hash of the latest one. -/
def Hashed (username : String) (latest : Option String) (world : AuthWorld N) : Prop :=
  match latest with
  | none => rowOf world.store.localAdmins username = none
  | some password => ∃ row state, rowOf world.store.localAdmins username = some row ∧
      row.passwordHash = (outside.hashPassword password state).1

variable {settings admin outside}

theorem latest_snoc (username : String) (calls : List LocalCall) (call : LocalCall) :
    latestPassword username (calls ++ [call]) =
      (rotationOf username call).or (latestPassword username calls) := by
  rw [latestPassword, List.reverse_append, List.reverse_singleton, List.singleton_append,
    List.findSome?_cons]
  cases rotationOf username call <;> rfl

theorem hashed_of_kept {username : String} {latest : Option String} {before after : AuthWorld N}
    (hashed : Hashed outside username latest before)
    (kept : (rowOf after.store.localAdmins username).map LocalAdminRow.passwordHash =
      (rowOf before.store.localAdmins username).map LocalAdminRow.passwordHash) :
    Hashed outside username latest after := by
  cases latest with
  | none =>
      have missing : rowOf before.store.localAdmins username = none := hashed
      rw [missing] at kept
      exact Option.map_eq_none_iff.mp kept
  | some password =>
      obtain ⟨row, state, found, hash⟩ := hashed
      rw [found] at kept
      obtain ⟨own, found', same⟩ := Option.map_eq_some_iff.mp kept
      exact ⟨own, state, found', same.trans hash⟩

theorem login_keeps_hash (reliable : outside.Reliable) (request : LoginRequest) (world : AuthWorld N)
    (username : String) :
    (rowOf (callOnce settings admin outside (.login request) world).store.localAdmins username).map
        LocalAdminRow.passwordHash =
      (rowOf world.store.localAdmins username).map LocalAdminRow.passwordHash := by
  obtain ⟨own, done, _⟩ := @login_called N settings admin outside reliable request world
  have after := row_of_login done username
  rw [callOnce, after]
  split
  · split <;> cases rowOf world.store.localAdmins username <;> rfl
  · rfl

theorem hashed_once (reliable : outside.Reliable) {username : String} {latest : Option String}
    {world : AuthWorld N} (hashed : Hashed outside username latest world) (call : LocalCall) :
    Hashed outside username ((rotationOf username call).or latest)
      (callOnce settings admin outside call world) := by
  cases call with
  | login request => exact hashed_of_kept hashed (login_keeps_hash reliable request world username)
  | rotate name password =>
      obtain ⟨done, _⟩ := @rotate_called N settings admin outside reliable name password world
      by_cases own : name = username
      · subst own
        obtain ⟨now, fresh⟩ := done.own
        rw [rotationOf, if_pos rfl]
        exact ⟨_, world.outside, fresh, rfl⟩
      · rw [rotationOf, if_neg own]
        apply hashed_of_kept hashed
        exact congrArg _ (done.others username fun same => own same.symm)
  | disable siamUsername =>
      obtain ⟨disabled, done⟩ := @disable_called N settings admin outside reliable siamUsername world
      apply hashed_of_kept hashed
      have same := congrArg (Option.map Prod.fst) (done.rows username)
      rw [Option.map_map, Option.map_map] at same
      exact same

theorem hashed_all (reliable : outside.Reliable) (username : String) {world : AuthWorld N}
    (fresh : world.store.localAdmins = []) (calls : List LocalCall) :
    Hashed outside username (latestPassword username calls)
      (callAll settings admin outside calls world) := by
  induction calls using List.reverseRecOn with
  | nil =>
      have missing : rowOf world.store.localAdmins username = none := by rw [fresh]; rfl
      exact missing
  | append_singleton calls call ih =>
      rw [latest_snoc, callAll, List.foldl_append]
      exact hashed_once reliable ih call

/-! The check of the password. -/

theorem verify_latest (hashing : Hashing settings outside) {username : String} {latest : Option String}
    {world : AuthWorld N} (hashed : Hashed outside username latest world) {row : LocalAdminRow}
    (found : rowOf world.store.localAdmins username = some row) (tried : String) :
    verifyPassword settings tried row.passwordHash = decide (latest = some tried) := by
  cases latest with
  | none =>
      have missing : rowOf world.store.localAdmins username = none := hashed
      rw [found] at missing
      cases missing
  | some password =>
      obtain ⟨own, state, found', hash⟩ := hashed
      rw [found] at found'
      obtain rfl := Option.some.inj found'
      have verified := hashing.verifies password state tried
      rw [verifyPassword, hash]
      by_cases same : password = tried
      · subst same
        simp [hashing.filled password state, verified.mpr rfl]
      · have unverified : settings.passwordMatches (outside.hashPassword password state).1 tried = false :=
          Bool.eq_false_iff.mpr fun matched => same (verified.mp matched).symm
        simp [unverified, same]

theorem first_failing_congr {sight : Sight} {right right' : LocalAdminRow → Bool}
    (same : ∀ row, sight.row = some row → right row = right' row) :
    firstFailing sight right = firstFailing sight right' := by
  unfold firstFailing
  split
  · rfl
  · split
    · rfl
    · next row read => rw [same row read]

/-- Every login after any calls of the service, from a database without local admins. -/
theorem login_answered (reliable : outside.Reliable) (hashing : Hashing settings outside)
    {world : AuthWorld N} (fresh : world.store.localAdmins = []) (calls : List LocalCall)
    (request : LoginRequest) :
    Answered settings admin outside (latestPassword request.username calls) request
      (callAll settings admin outside calls world)
      ((login settings admin request).run (authExec outside)
        (callAll settings admin outside calls world)).1
      ((login settings admin request).run (authExec outside)
        (callAll settings admin outside calls world)).2 := by
  have hashed := @hashed_all N settings admin outside reliable request.username world fresh calls
  have done : LoginDone settings admin outside request (callAll settings admin outside calls world) _ _ _ :=
    login_tells reliable request (callAll settings admin outside calls world)
  -- The stored hash is that of the latest password, so verifying is comparing.
  have decided : outcomeOf settings admin outside request (callAll settings admin outside calls world) =
      firstFailing (sight admin outside request (callAll settings admin outside calls world)) fun _ =>
        decide (latestPassword request.username calls = some request.password) :=
    first_failing_congr fun row read => verify_latest hashing hashed read request.password
  constructor
  · rw [← first_failing_success_iff, ← decided]
    constructor
    · rintro ⟨result, answer⟩
      by_contra unsuccessful
      rw [done.refused unsuccessful] at answer
      cases answer
    · intro succeeded
      obtain ⟨result, answer, _⟩ := done.returned succeeded
      exact ⟨result, answer⟩
  · intro result answer
    by_cases succeeded : outcomeOf settings admin outside request
        (callAll settings admin outside calls world) = .success
    · obtain ⟨_, returned, issued⟩ := done.returned succeeded
      obtain rfl := Except.ok.inj (returned.symm.trans answer)
      exact issued
    · rw [done.refused succeeded] at answer
      cases answer
  · intro error answer
    by_cases succeeded : outcomeOf settings admin outside request
        (callAll settings admin outside calls world) = .success
    · obtain ⟨result, returned, _⟩ := done.returned succeeded
      rw [returned] at answer
      cases answer
    · rw [done.refused succeeded] at answer
      exact (Except.error.inj answer).symm
  · obtain ⟨event, recorded, name, named⟩ := done.event
    exact ⟨event, recorded, name, named.trans decided⟩
  · rw [← decided]
    exact done.rows

/-! A rotation, a disabling and another rotation. -/

def hashingAuth : AuthSettings :=
  { sampleAuth with passwordMatches := fun hash password => hash == "$argon2id$" ++ password }

def hashingOutside : AuthOutside Unit :=
  { stillAuth with hashPassword := fun password state => ("$argon2id$" ++ password, state) }

theorem prefix_hashing : Hashing hashingAuth hashingOutside where
  verifies := by
    intro password state tried
    constructor
    · intro matched
      have chars := congrArg String.toList (beq_iff_eq.mp matched)
      simp only [hashingOutside, String.toList_append] at chars
      exact (String.toList_inj.mp (List.append_cancel_left chars)).symm
    · rintro rfl
      exact beq_self_eq_true _
  filled := by
    intro password state empty
    have chars := congrArg String.toList empty
    simp [hashingOutside] at chars

def twoRotations : List LocalCall :=
  [.rotate "admin" "one", .disable "ann", .rotate "admin" "two"]

def trying (password : String) : LoginRequest := ⟨"admin", password, "10.0.0.1", "curl", none⟩

/-- After the second rotation its password is accepted. -/
theorem second_password_accepted :
    ∃ result, ((login hashingAuth { signingKey := [] } (trying "two")).run (authExec hashingOutside)
        (callAll hashingAuth { signingKey := [] } hashingOutside twoRotations warmWorld)).1 = .ok result ∧
      Issued hashingAuth { signingKey := [] } hashingOutside (trying "two") result := by
  have answered := @login_answered Unit hashingAuth { signingKey := [] } hashingOutside
    (fun _ _ => rfl) prefix_hashing warmWorld rfl twoRotations (trying "two")
  obtain ⟨result, answer⟩ := answered.token.mpr ⟨rfl, rfl, _, rfl, rfl, rfl, rfl⟩
  exact ⟨result, answer, answered.issued result answer⟩

end Lehen.LocalLogins
