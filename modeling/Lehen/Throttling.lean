import Lehen.LocalCalls
import Lehen.Verification

/-!
How fast the password of a local admin can be guessed: after the threshold the
wrong guesses are a lockout apart.
-/

namespace Lehen.Throttling

open AuthState LocalAdminService LocalCalls Verification
open Storage (Time)

variable {N : Type} (settings : AuthSettings) (admin : LocalAdminSettings) (outside : AuthOutside N)

/-! What a run is for the lock of one account. -/

inductive Mark where
  | wrong (now : Time)
  | reset
  deriving DecidableEq, Repr

/-- The time of a login on the account that verified its password and found it wrong. -/
def wrongGuess (username : String) (call : LocalCall) (world : AuthWorld N) : Option Time :=
  match call with
  | .login request =>
      if request.username = username ∧ outcomeOf settings admin outside request world = .badPassword then
        some (sight admin outside request world).now
      else none
  | .rotate _ _ | .disable _ => none

/-- Such a login, or a call that cleared the counter. -/
def markOf (username : String) (call : LocalCall) (world : AuthWorld N) : Option Mark :=
  match wrongGuess settings admin outside username call world with
  | some now => some (.wrong now)
  | none =>
      match call, ((serveLocal settings admin call).run (authExec outside) world).1 with
      | .login request, .ok _ => if request.username = username then some .reset else none
      | .rotate name _, .ok _ => if name = username then some .reset else none
      | _, _ => none

def marks (username : String) : List LocalCall → AuthWorld N → List Mark
  | [], _ => []
  | call :: rest, world =>
      (markOf settings admin outside username call world).toList ++
        marks username rest (callOnce settings admin outside call world)

/-- From the threshold on, the next guess is a lockout later. -/
def Spaced (times : List Time) : Prop :=
  ∀ (k : Nat) (earlier later : Time), admin.failedAttemptsThreshold ≤ k + 1 →
    times[k]? = some earlier → times[k + 1]? = some later →
      earlier + admin.lockoutDurationSeconds * 1000000 ≤ later

/-! The row after some wrong guesses. -/

/-- The row has counted the guesses since the last reset, and is locked after the last. -/
structure Counted (username : String) (times : List Time) (world : AuthWorld N) : Prop where
  row : ∃ row, rowOf world.store.localAdmins username = some row ∧ row.failedAttempts = times.length ∧
    ∀ last, times.getLast? = some last → admin.failedAttemptsThreshold ≤ times.length →
      row.lockedUntil = some (last + admin.lockoutDurationSeconds * 1000000)
  spaced : Spaced admin times

variable {settings admin outside}

theorem spaced_snoc {times : List Time} {now : Time} (spaced : Spaced admin times)
    (late : ∀ last, times.getLast? = some last → admin.failedAttemptsThreshold ≤ times.length →
      last + admin.lockoutDurationSeconds * 1000000 ≤ now) : Spaced admin (times ++ [now]) := by
  intro k earlier later reached first second
  have bound : k + 1 < (times ++ [now]).length := (List.getElem?_eq_some_iff.mp second).1
  rw [List.length_append, List.length_singleton] at bound
  by_cases inner : k + 1 < times.length
  · rw [List.getElem?_append_left (by omega)] at first
    rw [List.getElem?_append_left inner] at second
    exact spaced k earlier later reached first second
  · -- The later guess is the new one, the earlier the last before it.
    have last : times.length = k + 1 := by omega
    rw [List.getElem?_append_right (by omega), last, Nat.sub_self] at second
    obtain rfl : now = later := by simpa using second
    rw [List.getElem?_append_left (by omega)] at first
    apply late earlier
    · rw [List.getLast?_eq_getElem?, last]
      exact first
    · omega

/-- What a call does to the row of the account, told by its mark. -/
def Marked (admin : LocalAdminSettings) (before after : Option LocalAdminRow) : Option Mark → Prop
  | some (.wrong now) => ∃ row, before = some row ∧ isLocked row now = false ∧
      after = some (countedRow admin row now row)
  | some .reset => ∃ row, after = some row ∧ row.failedAttempts = 0
  | none => after.map account = before.map account

theorem login_marked (reliable : outside.Reliable) (username : String) (request : LoginRequest)
    (world : AuthWorld N) :
    Marked admin (rowOf world.store.localAdmins username)
      (rowOf (callOnce settings admin outside (.login request) world).store.localAdmins username)
      (markOf settings admin outside username (.login request) world) := by
  obtain ⟨own, done, answered⟩ :=
    @login_called N settings admin outside reliable request world
  have after := row_of_login done username
  unfold callOnce markOf
  rw [after, wrongGuess]
  by_cases mine : request.username = username
  · subst mine
    rw [if_pos rfl]
    -- The mark of a call on the account is what it has written.
    cases decided : outcomeOf settings admin outside request world with
    | badPassword =>
        obtain ⟨row, read, unlocked⟩ := first_failing_bad decided
        have before : rowOf world.store.localAdmins request.username = some row := read
        rw [before, if_pos ⟨rfl, rfl⟩]
        exact ⟨row, rfl, unlocked, rfl⟩
    | success =>
        obtain ⟨result, returned, _⟩ := done.returned decided
        obtain ⟨row, read, _⟩ := (first_failing_success_iff.mp decided).row
        have before : rowOf world.store.localAdmins request.username = some row := read
        rw [before, answered, returned]
        simp only [reduceCtorEq, and_false, if_false, if_true, Except.map]
        exact ⟨_, rfl, rfl⟩
    | _ =>
        have refused := done.refused (by rw [decided]; exact nofun)
        rw [answered, refused]
        simp only [reduceCtorEq, and_false, if_false, Except.map]
        exact rfl
  · rw [if_neg mine, if_neg fun both => mine both.1]
    rcases own with error | result
    · rw [answered]
      exact rfl
    · rw [answered]
      simp only [Except.map, if_neg mine]
      exact rfl

theorem marked (reliable : outside.Reliable) (username : String) (call : LocalCall) (world : AuthWorld N) :
    Marked admin (rowOf world.store.localAdmins username)
      (rowOf (callOnce settings admin outside call world).store.localAdmins username)
      (markOf settings admin outside username call world) := by
  cases call with
  | login request => exact login_marked reliable username request world
  | rotate name password =>
      obtain ⟨done, answered⟩ := @rotate_called N settings admin outside reliable name password world
      unfold callOnce markOf
      rw [wrongGuess, answered]
      by_cases own : name = username
      · subst own
        obtain ⟨now, fresh⟩ := done.own
        rw [fresh]
        simp only [if_true]
        exact ⟨_, rfl, rfl⟩
      · rw [done.others username fun same => own same.symm]
        simp only [if_neg own]
        exact rfl
  | disable siamUsername =>
      obtain ⟨disabled, done⟩ := @disable_called N settings admin outside reliable siamUsername world
      unfold callOnce markOf
      rw [wrongGuess]
      exact done.rows username

/-- The wrong guesses are the calls that write a failed attempt of the account down. -/
theorem wrong_guess_written (reliable : outside.Reliable) (username : String) (call : LocalCall)
    (world : AuthWorld N) :
    wrongGuess settings admin outside username call world =
      wrongAt username ((serveLocal settings admin call).trace (authExec outside) world) := by
  cases call with
  | login request =>
      obtain ⟨own, done, _⟩ := @login_called N settings admin outside reliable request world
      exact (done.wrong username).symm
  | rotate name password =>
      obtain ⟨done, _⟩ := @rotate_called N settings admin outside reliable name password world
      exact (wrong_at_quiet done.quiet username).symm
  | disable siamUsername =>
      obtain ⟨disabled, done⟩ := @disable_called N settings admin outside reliable siamUsername world
      exact (wrong_at_quiet done.quiet username).symm

/-! Runs. -/

/-- The guesses since the last reset, after a call. -/
def countOn (times : List Time) : Option Mark → List Time
  | some (.wrong now) => times ++ [now]
  | some .reset => []
  | none => times

/-- One call, from a row that has counted its guesses. -/
theorem counted_once {username : String} {times : List Time} {before after : AuthWorld N}
    (counted : Counted admin username times before) {mark : Option Mark}
    (marked : Marked admin (rowOf before.store.localAdmins username)
      (rowOf after.store.localAdmins username) mark) :
    Counted admin username (countOn times mark) after := by
  obtain ⟨row, found, length, lock⟩ := counted.row
  match mark with
  | some (.wrong now) =>
      -- A guess is checked only while the account is open, so the lock of the guesses before has
      -- run out.
      obtain ⟨own, before', unlocked, after'⟩ := marked
      rw [found] at before'
      obtain rfl := Option.some.inj before'
      rw [countOn]
      constructor
      · refine ⟨_, after', ?_, ?_⟩
        · simp [countedRow, length]
        · intro last final reached
          obtain rfl : now = last := by simpa using final
          rw [List.length_append, List.length_singleton, ← length] at reached
          exact if_pos reached
      · apply spaced_snoc counted.spaced
        intro last final reached
        have until_ := lock last final reached
        rw [isLocked, until_] at unlocked
        simpa using unlocked
  | some .reset =>
      obtain ⟨own, after', zero⟩ := marked
      exact ⟨⟨own, after', zero, nofun⟩, nofun⟩
  | none =>
      have marked : (rowOf after.store.localAdmins username).map account =
          (rowOf before.store.localAdmins username).map account := marked
      rw [found] at marked
      cases found' : rowOf after.store.localAdmins username with
      | none =>
          rw [found'] at marked
          cases marked
      | some own =>
          rw [found'] at marked
          have same : account own = account row := Option.some.inj marked
          injection same with _ counters
          injection counters with attempts locks
          refine ⟨⟨own, found', attempts.trans length, fun last final reached => ?_⟩, counted.spaced⟩
          exact locks.trans (lock last final reached)

/-- Guesses up to the next reset are spaced, along with those before them. -/
theorem spaced_onward (reliable : outside.Reliable) (username : String) (calls : List LocalCall)
    {world : AuthWorld N} {times more : List Time} {rest : List Mark}
    (counted : Counted admin username times world)
    (split : marks settings admin outside username calls world = more.map .wrong ++ rest) :
    Spaced admin (times ++ more) := by
  induction calls generalizing world times more with
  | nil =>
      cases more with
      | nil =>
          rw [List.append_nil]
          exact counted.spaced
      | cons now later => cases split
  | cons call calls ih =>
      have once := counted_once counted (@marked N settings admin outside reliable username call world)
      rw [marks] at split
      cases told : markOf settings admin outside username call world with
      | none =>
          rw [told] at split once
          exact ih once split
      | some mark =>
          rw [told] at split once
          cases more with
          | nil =>
              rw [List.append_nil]
              exact counted.spaced
          | cons now later =>
              injection split with same onward
              subst same
              have spaced := ih once onward
              rw [countOn, List.append_assoc] at spaced
              exact spaced

/-- From the threshold on, guesses a number of places apart are as many lockouts apart. -/
theorem spaced_apart {times : List Time} (spaced : Spaced admin times) {k count : Nat}
    {first last : Time} (reached : admin.failedAttemptsThreshold ≤ k + 1)
    (found : times[k]? = some first) (found' : times[k + count]? = some last) :
    first + count * (admin.lockoutDurationSeconds * 1000000) ≤ last := by
  induction count generalizing last with
  | zero =>
      rw [Nat.add_zero, found] at found'
      obtain rfl := Option.some.inj found'
      rw [Nat.zero_mul]
      exact Nat.le_refl _
  | succ count ih =>
      have bound : k + count + 1 < times.length := (List.getElem?_eq_some_iff.mp found').1
      have before := List.getElem?_eq_getElem (Nat.lt_of_succ_lt bound)
      have earlier := ih before
      have late : admin.failedAttemptsThreshold ≤ k + count + 1 := by omega
      calc first + (count + 1) * (admin.lockoutDurationSeconds * 1000000)
          = first + count * (admin.lockoutDurationSeconds * 1000000) +
              admin.lockoutDurationSeconds * 1000000 := by
            rw [Nat.add_mul, Nat.one_mul, Nat.add_assoc]
        _ ≤ times[k + count] + admin.lockoutDurationSeconds * 1000000 := Nat.add_le_add_right earlier _
        _ ≤ last := spaced (k + count) _ last late before found'

/-- The wrong guesses between two resets: from the threshold on each is a lockout
after the one before, so that there is at most one for each lockout. -/
theorem guesses_spaced (reliable : outside.Reliable) (username : String) (calls : List LocalCall)
    (world : AuthWorld N) {before rest : List Mark} {times : List Time}
    (split : marks settings admin outside username calls world =
      before ++ .reset :: (times.map .wrong ++ rest)) :
    Spaced admin times ∧
      ∀ (k count : Nat) (first last : Time), admin.failedAttemptsThreshold ≤ k + 1 →
        times[k]? = some first → times[k + count]? = some last →
          first + count * (admin.lockoutDurationSeconds * 1000000) ≤ last := by
  have spaced : Spaced admin times := by
    induction calls generalizing world before with
    | nil =>
        cases before <;> cases split
    | cons call calls ih =>
        have once := @marked N settings admin outside reliable username call world
        rw [marks] at split
        cases told : markOf settings admin outside username call world with
        | none =>
            rw [told] at split
            exact ih _ split
        | some mark =>
            rw [told] at split once
            cases before with
            | nil =>
                injection split with same onward
                subst same
                obtain ⟨row, found, zero⟩ := once
                have start : Counted admin username [] (callOnce settings admin outside call world) :=
                  ⟨⟨row, found, zero, nofun⟩, nofun⟩
                exact spaced_onward reliable username calls start onward
            | cons first before =>
                injection split with _ onward
                exact ih _ onward
  exact ⟨spaced, fun k count first last reached found found' => spaced_apart spaced reached found found'⟩

/-! Four wrong guesses, of which the third meets the lock. -/

/-- Every reading of the clock is 400 seconds after the one before. -/
def tickingAuth : AuthOutside Nat :=
  { storeFails := fun _ state => (none, state)
    fetch := fun _ state => (.error "connection refused", state)
    clock := fun state => (state * 400000000, state + 1)
    monotonic := fun state => (0, state)
    uuid4 := fun state => ("00000000-0000-4000-8000-000000000000", state)
    tokenUrlsafe := fun _ state => ("password", state)
    hashPassword := fun password state => (password, state) }

def twoAttempts : LocalAdminSettings := { signingKey := [], failedAttemptsThreshold := 2 }

def guessing (password : String) : LocalCall := .login ⟨"admin", password, "10.0.0.1", "curl", none⟩

def fourGuesses : List LocalCall :=
  [.rotate "admin" "right", guessing "a", guessing "b", guessing "c", guessing "d"]

theorem four_guesses_spaced : Spaced twoAttempts [400000000, 1200000000, 2800000000] :=
  (@guesses_spaced Nat sampleAuth twoAttempts tickingAuth (fun _ _ => rfl) "admin" fourGuesses
    ⟨.empty, warmProcess, 0⟩ [] [] [400000000, 1200000000, 2800000000] rfl).1

end Lehen.Throttling
