import Lehen.CacheTurns
import Lehen.Jwt

/-!
Requests through `decode_and_verify` that share one cache, interleaved at their awaits.
A turn is told by what it does to the cache.
-/

namespace Lehen.TokenCalls

open AuthState Jwks Jwt Schedule CacheTurns

variable {N : Type} (settings : AuthSettings) (outside : AuthOutside N) (time : N → Int)

structure VerifyRequest where
  token : String
  expectedAudience : String
  issuers : List String

def verify (request : VerifyRequest) : Auth (Dict Json) :=
  decodeAndVerify settings request.token request.expectedAudience request.issuers

abbrev VerifyTask := Task VerifyRequest AuthOp AuthOp.Res PyError (Dict Json)

abbrev VerifyPool (N : Type) := Pool (AuthWorld N) VerifyRequest AuthOp AuthOp.Res PyError (Dict Json)

/-! `decode_and_verify` from where it has called `get_keys`. -/

/-- The `kid` of a token that has one. -/
def kidOf (token : String) : Except PyError Json :=
  if token ≠ "" then
    match settings.jose.getUnverifiedHeader token with
    | .error exc => .error ⟨.invalidTokenError, s!"malformed token header: {exc.text}"⟩
    | .ok header =>
        if ((header.lookup "kid").getD .null).truthy = true then .ok ((header.lookup "kid").getD .null)
        else .error ⟨.invalidTokenError, "token has no \x27kid\x27 in header"⟩
  else .error ⟨.invalidTokenError, "empty token"⟩

def withKey (request : VerifyRequest) (key : Json) : Auth (Dict Json) := do
  let instant ← clock
  let claims ← Prog.lift ((settings.jose.decode request.token (.jwk key)
    (expectedOf request.issuers request.expectedAudience) (Storage.unixSeconds instant)).mapError
      decodeError)
  Prog.require (1 < request.issuers.length → issuerText claims ∈ request.issuers)
    { kind := .invalidTokenError
      text := s!"claim verification failed: issuer {Json.reprString (issuerText claims)} not in " ++
        "accepted set" }
  return claims

def invalidOf (exc : PyError) : PyError :=
  if exc.kind = .jwksFetchError then ⟨.invalidTokenError, s!"cannot validate token: {exc.text}"⟩ else exc

/-- What follows the second look for the key. -/
def afterRefetch (request : VerifyRequest) (kid : Json) (outcome : Except PyError (Dict Json)) :
    Auth (Dict Json) :=
  match outcome with
  | .error exc => .raise (invalidOf exc)
  | .ok jwks =>
      match findKey jwks kid with
      | .error error => .raise error
      | .ok (some key) => withKey settings request key
      | .ok none => invalidToken s!"no JWKS key matches kid={kid.toStr}"

/-- What follows the first. -/
def afterLookup (request : VerifyRequest) (kid : Json) (outcome : Except PyError (Dict Json)) :
    Auth (Dict Json) :=
  match outcome with
  | .error exc => .raise (invalidOf exc)
  | .ok jwks =>
      match findKey jwks kid with
      | .error error => .raise error
      | .ok (some key) => withKey settings request key
      | .ok none => invalidate.bind fun _ => (getKeys settings).resolve (afterRefetch settings request kid)

variable {settings}

theorem keys_or_invalid_resolves {α : Type} (next : Dict Json → Auth α) :
    (keysOrInvalid settings).bind next = (getKeys settings).resolve fun
      | .error exc => .raise (invalidOf exc)
      | .ok jwks => next jwks := by
  rw [keysOrInvalid, Prog.handle_resolve, Prog.bind_resolve, Prog.resolve_resolve]
  congr 1
  funext outcome
  cases outcome with
  | ok jwks => rfl
  | error exc =>
      by_cases fetch : exc.kind = .jwksFetchError
      · simp only [invalidOf, if_pos fetch]
        rfl
      · simp only [invalidOf, if_neg fetch]
        rfl

theorem verify_begins (request : VerifyRequest) :
    verify settings request =
      match kidOf settings request.token with
      | .error error => .raise error
      | .ok kid => (getKeys settings).resolve (afterLookup settings request kid) := by
  unfold verify decodeAndVerify kidOf
  by_cases token : request.token ≠ ""
  · simp only [Prog.bind_eq, Prog.require, if_pos token, Prog.bind_ret]
    cases settings.jose.getUnverifiedHeader request.token with
    | error exc => rfl
    | ok header =>
        simp only [Except.mapError, Prog.lift, Prog.bind_ret]
        by_cases named : ((header.lookup "kid").getD .null).truthy = true
        · simp only [if_pos named, Prog.bind_ret]
          simp only [keyFor, Prog.bind_eq, Prog.bind_assoc]
          rw [keys_or_invalid_resolves]
          congr 1
          funext outcome
          cases outcome with
          | error exc => rfl
          | ok jwks =>
              cases found : findKey jwks ((header.lookup "kid").getD .null) with
              | error error =>
                  simp only [afterLookup, found]
                  rfl
              | ok key =>
                  cases key with
                  | some key =>
                      simp only [afterLookup, found]
                      rfl
                  | none =>
                      simp only [afterLookup, found, Prog.bind_ret, Prog.bind_assoc, Prog.lift]
                      congr 1
                      funext _
                      rw [keys_or_invalid_resolves]
                      congr 1
                      funext outcome
                      cases outcome with
                      | error exc => rfl
                      | ok jwks =>
                          cases again : findKey jwks ((header.lookup "kid").getD .null) with
                          | error error =>
                              simp only [afterRefetch, again]
                              rfl
                          | ok key => cases key <;> simp only [afterRefetch, again] <;> rfl
        · simp only [if_neg named]
          rfl
  · simp only [Prog.bind_eq, Prog.require, if_neg token]
    rfl

/-! What the rest of a request does once the call has its outcome. -/

/-- The world after a look at the wall clock. -/
def clocked (outside : AuthOutside N) (world : AuthWorld N) : AuthWorld N :=
  { world with outside := (outside.clock world.outside).2 }

def forgotten (world : AuthWorld N) : AuthWorld N :=
  world.withJwks fun jwks => { jwks with keys := none, fetchedAt := 0, negativeUntil := 0 }

/-- The claims of a token under a key, at an instant of the wall clock. -/
def claimsAt (settings : AuthSettings) (request : VerifyRequest) (key : Json) (instant : Storage.Time) :
    Except PyError (Dict Json) :=
  match settings.jose.decode request.token (.jwk key)
      (expectedOf request.issuers request.expectedAudience) (Storage.unixSeconds instant) with
  | .error exc => .error (decodeError exc)
  | .ok claims =>
      if 1 < request.issuers.length → issuerText claims ∈ request.issuers then .ok claims
      else
        .error
          { kind := .invalidTokenError
            text := s!"claim verification failed: issuer {Json.reprString (issuerText claims)} not in " ++
              "accepted set" }

variable {outside}

theorem settle_with_key (request : VerifyRequest) (key : Json) (log : List Entry) (world : AuthWorld N) :
    settle (authExec outside) AuthState.instant request log (withKey settings request key) world =
      (⟨request, log ++ [⟨.clock, .ok (outside.clock world.outside).1⟩],
        Prog.lift (claimsAt settings request key (outside.clock world.outside).1)⟩,
        clocked outside world) := by
  have reads : settle (authExec outside) AuthState.instant request log (withKey settings request key) world =
      settle (authExec outside) AuthState.instant request (log ++ [⟨.clock, .ok (outside.clock world.outside).1⟩])
        ((Prog.lift ((settings.jose.decode request.token (.jwk key)
            (expectedOf request.issuers request.expectedAudience)
            (Storage.unixSeconds (outside.clock world.outside).1)).mapError decodeError)).bind
          fun claims => (Prog.require (1 < request.issuers.length → issuerText claims ∈ request.issuers)
            { kind := .invalidTokenError
              text := s!"claim verification failed: issuer {Json.reprString (issuerText claims)} not in " ++
                "accepted set" }).bind fun _ => .ret claims) (clocked outside world) := rfl
  rw [reads, claimsAt]
  cases settings.jose.decode request.token (.jwk key)
      (expectedOf request.issuers request.expectedAudience)
      (Storage.unixSeconds (outside.clock world.outside).1) with
  | error exc => rfl
  | ok claims =>
      by_cases issued : 1 < request.issuers.length → issuerText claims ∈ request.issuers
      · simp only [Except.mapError, Prog.lift, Prog.bind_ret, Prog.require, if_pos issued]
        rfl
      · simp only [Except.mapError, Prog.lift, Prog.bind_ret, Prog.require, if_neg issued]
        rfl

/-! The places a request can be at. -/

/-- What may follow a call of `get_keys`. -/
def Follows (settings : AuthSettings) (request : VerifyRequest) (kid : Json)
    (finish : Except PyError (Dict Json) → Auth (Dict Json)) : Prop :=
  finish = afterLookup settings request kid ∨ finish = afterRefetch settings request kid

inductive Shape (settings : AuthSettings) : VerifyTask → Prop
  | fresh (request : VerifyRequest) (kid : Json) (named : kidOf settings request.token = .ok kid) :
      Shape settings ⟨request, [], (getKeys settings).resolve (afterLookup settings request kid)⟩
  | queued (request : VerifyRequest) (kid : Json) (named : kidOf settings request.token = .ok kid)
      (log : List Entry) (finish : Except PyError (Dict Json) → Auth (Dict Json))
      (follows : Follows settings request kid finish) :
      Shape settings ⟨request, log, (locked (refetch settings)).resolve finish⟩
  | asking (request : VerifyRequest) (kid : Json) (named : kidOf settings request.token = .ok kid)
      (log : List Entry) (began : Int) (finish : Except PyError (Dict Json) → Auth (Dict Json))
      (follows : Follows settings request kid finish) :
      Shape settings ⟨request, log, (release (ask settings began)).resolve finish⟩
  | finished (task : VerifyTask) (ended : ¬ task.running) : Shape settings task

/-- The cache is as it was or forgotten, and time has not gone back. -/
def Onward (time : N → Int) (world after : AuthWorld N) : Prop :=
  (after.process.jwks = world.process.jwks ∨ after.process.jwks = (forgotten world).process.jwks) ∧
    time world.outside ≤ time after.outside

/-- What a request does after its call: it is over, or waits for the lock once more. -/
structure Settled (settings : AuthSettings) (time : N → Int) (request : VerifyRequest)
    (world : AuthWorld N) (next : VerifyTask) (after : AuthWorld N) : Prop where
  own : next.request = request
  shape : Shape settings next
  place : ¬ next.running ∨ next.awaits .acquireLock
  onward : Onward time world after

/-- Neither clock runs backwards. -/
structure MonotoneClocks (outside : AuthOutside N) (time : N → Int) : Prop
    extends Monotone outside time where
  clock : ∀ state, time state ≤ time (outside.clock state).2

variable {time}

theorem lifted_ended (request : VerifyRequest) (log : List Entry) (outcome : Except PyError (Dict Json)) :
    ¬ (⟨request, log, Prog.lift outcome⟩ : VerifyTask).running := by
  rintro ⟨op, resume, left⟩
  cases outcome <;> cases left

theorem settled_lift (request : VerifyRequest) (log : List Entry)
    (outcome : Except PyError (Dict Json)) (world : AuthWorld N) :
    Settled settings time request world ⟨request, log, Prog.lift outcome⟩ world where
  own := rfl
  shape := .finished _ (lifted_ended request log outcome)
  place := .inl (lifted_ended request log outcome)
  onward := ⟨.inl rfl, le_refl _⟩

theorem settled_with_key (monotone : MonotoneClocks outside time) (request : VerifyRequest)
    (key : Json) (log : List Entry) (world : AuthWorld N) :
    Settled settings time request world
      (settle (authExec outside) AuthState.instant request log (withKey settings request key) world).1
      (settle (authExec outside) AuthState.instant request log (withKey settings request key) world).2 := by
  rw [settle_with_key]
  constructor
  · rfl
  · exact .finished _ (lifted_ended _ _ _)
  · exact .inl (lifted_ended _ _ _)
  · exact ⟨.inl rfl, monotone.clock world.outside⟩

theorem settled_refetch (monotone : MonotoneClocks outside time) (request : VerifyRequest) (kid : Json)
    (outcome : Except PyError (Dict Json)) (log : List Entry) (world : AuthWorld N) :
    Settled settings time request world
      (settle (authExec outside) AuthState.instant request log (afterRefetch settings request kid outcome) world).1
      (settle (authExec outside) AuthState.instant request log (afterRefetch settings request kid outcome)
        world).2 := by
  cases outcome with
  | error exc => exact settled_lift request log (.error (invalidOf exc)) world
  | ok jwks =>
      unfold afterRefetch
      cases found : findKey jwks kid with
      | error error =>
          simp only [found]
          exact settled_lift request log (.error error) world
      | ok key =>
          cases key with
          | some key =>
              simp only [found]
              exact settled_with_key monotone request key log world
          | none =>
              simp only [found]
              exact settled_lift request log (.error _) world

theorem onward_trans {world middle after : AuthWorld N} (first : Onward time world middle)
    (second : Onward time middle after) : Onward time world after := by
  refine ⟨?_, first.2.trans second.2⟩
  rcases second.1 with same | forgot
  · rw [same]
    exact first.1
  · right
    rw [forgot]
    rcases first.1 with same | forgot'
    · simp only [forgotten, AuthWorld.withJwks, same]
    · simp only [forgotten, AuthWorld.withJwks, forgot']

theorem onward_ticked (monotone : Monotone outside time) (world : AuthWorld N) :
    Onward time world (ticked outside world) := by
  have early := monotone.early world.outside
  exact ⟨.inl rfl, early.trans (monotone.late world.outside)⟩

theorem settled_onward {request : VerifyRequest} {world middle after : AuthWorld N} {next : VerifyTask}
    (first : Onward time world middle) (settled : Settled settings time request middle next after) :
    Settled settings time request world next after where
  own := settled.own
  shape := settled.shape
  place := settled.place
  onward := onward_trans first settled.onward

/-- What follows a call settles whatever its outcome is. -/
def Settles (settings : AuthSettings) (outside : AuthOutside N) (time : N → Int)
    (request : VerifyRequest) (finish : Except PyError (Dict Json) → Auth (Dict Json)) : Prop :=
  ∀ outcome log world, Settled settings time request world
    (settle (authExec outside) AuthState.instant request log (finish outcome) world).1
    (settle (authExec outside) AuthState.instant request log (finish outcome) world).2

/-- A call that begins. -/
theorem settled_call (monotone : Monotone outside time) {request : VerifyRequest} {kid : Json}
    (named : kidOf settings request.token = .ok kid)
    {finish : Except PyError (Dict Json) → Auth (Dict Json)} (follows : Follows settings request kid finish)
    (settles : Settles settings outside time request finish) (log : List Entry) (world : AuthWorld N) :
    Settled settings time request world
      (settle (authExec outside) AuthState.instant request log ((getKeys settings).resolve finish) world).1
      (settle (authExec outside) AuthState.instant request log ((getKeys settings).resolve finish) world).2 := by
  have ticks := onward_ticked monotone world
  rw [settle_get_keys]
  rcases @look_cases settings world.process.jwks (reading outside world) with
    ⟨keys, _, looks⟩ | ⟨_, _, text, looks⟩ | ⟨_, _, looks⟩
  · rw [looks]
    exact settled_onward ticks (settles (.ok keys) _ _)
  · rw [looks]
    exact settled_onward ticks (settles (.error (noAnswer text)) _ _)
  · rw [looks]
    exact ⟨rfl, .queued request kid named _ finish follows, .inr ⟨_, rfl⟩, ticks⟩

theorem settled_lookup (monotone : MonotoneClocks outside time) {request : VerifyRequest} {kid : Json}
    (named : kidOf settings request.token = .ok kid) :
    Settles settings outside time request (afterLookup settings request kid) := by
  intro outcome log world
  cases outcome with
  | error exc => exact settled_lift request log (.error (invalidOf exc)) world
  | ok jwks =>
      unfold afterLookup
      cases found : findKey jwks kid with
      | error error =>
          simp only [found]
          exact settled_lift request log (.error error) world
      | ok key =>
          cases key with
          | some key =>
              simp only [found]
              exact settled_with_key monotone request key log world
          | none =>
              simp only [found]
              have forgets : Onward time world (forgotten world) := ⟨.inr rfl, le_refl _⟩
              exact settled_onward forgets (settled_call monotone.toMonotone named (.inr rfl)
                (fun outcome log world => settled_refetch monotone request kid outcome log world) _ _)

theorem settled_follows (monotone : MonotoneClocks outside time) {request : VerifyRequest} {kid : Json}
    (named : kidOf settings request.token = .ok kid)
    {finish : Except PyError (Dict Json) → Auth (Dict Json)}
    (follows : Follows settings request kid finish) : Settles settings outside time request finish := by
  rcases follows with rfl | rfl
  · exact settled_lookup monotone named
  · exact fun outcome log world => settled_refetch monotone request kid outcome log world

/-! What a turn does to the cache. -/

def Asking (settings : AuthSettings) (task : VerifyTask) : Prop :=
  task.awaits (.fetch settings.provider.jwksUrl)

inductive Effect (settings : AuthSettings) (outside : AuthOutside N) (time : N → Int)
    (world : AuthWorld N) (task next : VerifyTask) (after : AuthWorld N) : Prop
  | calm (quiet : ¬ Asking settings next) (onward : Onward time world after)
  | takes (waits : task.awaits .acquireLock) (quiet : ¬ Asking settings next)
      (onward : Onward time (setLocked (ticked outside world) false) after)
  | asks (waits : task.awaits .acquireLock) (asking : Asking settings next)
      (stale : freshKeys settings world.process.jwks (reading outside world) = none)
      (same : after = setLocked (ticked outside world) true)
  | keeps (asked : Asking settings task) (quiet : ¬ Asking settings next) (began : Int)
      (document : Dict Json)
      (held : documentOf settings (answered settings outside world).1 = some document)
      (onward : Onward time
        (setLocked (keep (answered settings outside world).2 document began) false) after)
  | fails (asked : Asking settings task) (quiet : ¬ Asking settings next) (began : Int)
      (missing : documentOf settings (answered settings outside world).1 = none)
      (onward : Onward time (setLocked (close (answered settings outside world).2 began) false) after)

theorem quiet_of_settled {request : VerifyRequest} {world after : AuthWorld N} {next : VerifyTask}
    (settled : Settled settings time request world next after) : ¬ Asking settings next := by
  rintro ⟨resume, left⟩
  rcases settled.place with ended | ⟨resume', left'⟩
  · exact ended ⟨_, _, left⟩
  · rw [left] at left'
    cases left'

/-- A turn of a request: what becomes of it, and of the cache. -/
theorem turn_effect (monotone : MonotoneClocks outside time) {task : VerifyTask}
    (shape : Shape settings task) (world : AuthWorld N) :
    Shape settings (task.turn (authExec outside) AuthState.instant world).1 ∧
      Effect settings outside time world task (task.turn (authExec outside) AuthState.instant world).1
        (task.turn (authExec outside) AuthState.instant world).2 := by
  cases shape with
  | fresh request kid named =>
      have settled := settled_call monotone.toMonotone named (.inl rfl) (settled_lookup monotone named) []
        world
      exact ⟨settled.shape, .calm (quiet_of_settled settled) settled.onward⟩
  | queued request kid named log finish follows =>
      have settles := settled_follows monotone named follows
      rw [turn_queued]
      cases held : freshKeys settings (setLocked world true).process.jwks (reading outside world) with
      | some keys =>
          have settled := settles (.ok keys) (log ++ ⟨.acquireLock, .ok ()⟩ ::
            (lookedAt (reading outside world) (setLocked world true).process.jwks ++
              [⟨.releaseLock, .ok ()⟩])) (setLocked (ticked outside world) false)
          exact ⟨settled.shape, .takes ⟨_, rfl⟩ (quiet_of_settled settled) settled.onward⟩
      | none =>
          exact ⟨.asking request kid named _ _ finish follows, .asks ⟨_, rfl⟩ ⟨_, rfl⟩ held rfl⟩
  | asking request kid named log began finish follows =>
      have settles := settled_follows monotone named follows
      rcases turn_asking request log world began with
        ⟨document, held, turns⟩ | ⟨missing, text, turns⟩
      · rw [turns]
        have settled := settles (counted document) (log ++
          [⟨.fetch settings.provider.jwksUrl, (answered settings outside world).1⟩,
            ⟨.keepJwks document began, .ok ()⟩, ⟨.releaseLock, .ok ()⟩])
          (setLocked (keep (answered settings outside world).2 document began) false)
        exact ⟨settled.shape, .keeps ⟨_, rfl⟩ (quiet_of_settled settled) began document held settled.onward⟩
      · rw [turns]
        have settled := settles (.error (noAnswer text)) (log ++
          [⟨.fetch settings.provider.jwksUrl, (answered settings outside world).1⟩,
            ⟨.refuseJwks (began + negativeTtlSeconds * microseconds), .ok ()⟩, ⟨.releaseLock, .ok ()⟩])
          (setLocked (close (answered settings outside world).2 began) false)
        exact ⟨settled.shape, .fails ⟨_, rfl⟩ (quiet_of_settled settled) began missing settled.onward⟩
  | finished _ ended =>
      have stays : task.turn (authExec outside) AuthState.instant world = (task, world) := by
        unfold Task.turn
        split
        · next op resume left => exact absurd ⟨_, _, left⟩ ended
        · rfl
      rw [stays]
      exact ⟨.finished _ ended, .calm (fun ⟨_, left⟩ => ended ⟨_, _, left⟩) ⟨.inl rfl, le_refl _⟩⟩

/-! Pools of requests. -/

/-- Whoever asks has the lock, and has found nothing fresh. -/
structure LockSound (settings : AuthSettings) (time : N → Int) (pool : VerifyPool N) : Prop where
  shaped : ∀ (i : Nat) (task : VerifyTask), pool.tasks[i]? = some task → Shape settings task
  held : ∀ (i : Nat) (task : VerifyTask), pool.tasks[i]? = some task → Asking settings task →
    pool.state.process.jwks.locked = true
  alone : pool.Exclusive (Asking settings)
  stale : ∀ (i : Nat) (task : VerifyTask), pool.tasks[i]? = some task → Asking settings task →
    pool.state.process.jwks.keys = none ∨ pool.state.process.jwks.fetchedAt +
      settings.provider.jwksTtlSeconds * microseconds ≤ time pool.state.outside
  counting : 0 ≤ time pool.state.outside

theorem start_shape (request : VerifyRequest) : Shape settings ⟨request, [], verify settings request⟩ := by
  rw [verify_begins]
  cases named : kidOf settings request.token with
  | error error => exact .finished _ fun ⟨_, _, left⟩ => by cases left
  | ok kid => exact .fresh request kid named

theorem start_quiet (request : VerifyRequest) :
    ¬ Asking settings ⟨request, [], verify settings request⟩ := by
  rintro ⟨resume, left⟩
  dsimp only at left
  rw [verify_begins] at left
  cases named : kidOf settings request.token with
  | error error =>
      rw [named] at left
      cases left
  | ok kid =>
      rw [named] at left
      cases left

/-- An event that resumes a request is a turn of that request. -/
theorem resume_effect (monotone : MonotoneClocks outside time) {pool : VerifyPool N}
    (sound : LockSound settings time pool) (i : Nat) :
    (pool.tasks[i]? = none ∧
        pool.step (authExec outside) AuthState.instant (verify settings) (.resume i) = pool) ∨
      ∃ task next after, pool.tasks[i]? = some task ∧ Shape settings next ∧
        next = (task.turn (authExec outside) AuthState.instant pool.state).1 ∧
        Effect settings outside time pool.state task next after ∧
        pool.step (authExec outside) AuthState.instant (verify settings) (.resume i) =
          ⟨after, pool.tasks.set i next⟩ := by
  cases found : pool.tasks[i]? with
  | none =>
      left
      refine ⟨rfl, ?_⟩
      simp only [Pool.step, Pool.turn, found]
  | some task =>
      right
      obtain ⟨shape, effect⟩ := turn_effect monotone (sound.shaped i task found) pool.state
      refine ⟨task, _, _, rfl, shape, rfl, effect, ?_⟩
      simp only [Pool.step, Pool.turn, found]

/-- A turn after which nobody asks. -/
theorem sound_idle {pool : VerifyPool N} {i : Nat} {next : VerifyTask} {after : AuthWorld N}
    (sound : LockSound settings time pool) (shape : Shape settings next)
    (later : time pool.state.outside ≤ time after.outside) (quiet : ¬ Asking settings next)
    (nobody : ∀ (j : Nat) (other : VerifyTask), j ≠ i → pool.tasks[j]? = some other →
      ¬ Asking settings other) : LockSound settings time ⟨after, pool.tasks.set i next⟩ := by
  have idle (j : Nat) (other : VerifyTask) (present : (pool.tasks.set i next)[j]? = some other) :
      ¬ Asking settings other := by
    rcases get_set present with ⟨_, rfl⟩ | ⟨different, before⟩
    · exact quiet
    · exact nobody j other different before
  constructor
  · intro j other present
    rcases get_set present with ⟨_, rfl⟩ | ⟨_, before⟩
    · exact shape
    · exact sound.shaped j other before
  · exact fun j other present asking => absurd asking (idle j other present)
  · exact fun j k other third present _ asking _ => absurd asking (idle j other present)
  · exact fun j other present asking => absurd asking (idle j other present)
  · exact sound.counting.trans later

theorem onward_kept {world after : AuthWorld N} (onward : Onward time world after) :
    after.process.jwks.locked = world.process.jwks.locked ∧
      (after.process.jwks.keys = none ∨ after.process.jwks.keys = world.process.jwks.keys ∧
        after.process.jwks.fetchedAt = world.process.jwks.fetchedAt) := by
  rcases onward.1 with same | forgot
  · rw [same]
    exact ⟨rfl, .inr ⟨rfl, rfl⟩⟩
  · rw [forgot]
    exact ⟨rfl, .inl rfl⟩

theorem stale_keys {jwks : JwksState} {now : Int} (stale : freshKeys settings jwks now = none) :
    jwks.keys = none ∨
      jwks.fetchedAt + settings.provider.jwksTtlSeconds * microseconds ≤ now := by
  unfold freshKeys at stale
  split at stale
  · split at stale
    · cases stale
    · right
      omega
  · next absent => exact .inl absent

/-- A request that has not begun has asked nobody. -/
theorem sound_start {pool : VerifyPool N} (sound : LockSound settings time pool) (request : VerifyRequest) :
    LockSound settings time
      (pool.step (authExec outside) AuthState.instant (verify settings) (.start request)) := by
  have quiet := @start_quiet settings request
  constructor
  · intro j other present
    rcases get_start present with before | rfl
    · exact sound.shaped j other before
    · exact start_shape request
  · intro j other present asking
    rcases get_start present with before | rfl
    · exact sound.held j other before asking
    · exact absurd asking quiet
  · exact exclusive_start sound.alone quiet
  · intro j other present asking
    rcases get_start present with before | rfl
    · exact sound.stale j other before asking
    · exact absurd asking quiet
  · exact sound.counting

/-- A turn that leaves the lock as it is, and the cache as it is or empty. -/
theorem sound_calm {pool : VerifyPool N} {i : Nat} {next : VerifyTask} {after : AuthWorld N}
    (sound : LockSound settings time pool) (shape : Shape settings next) (quiet : ¬ Asking settings next)
    (onward : Onward time pool.state after) : LockSound settings time ⟨after, pool.tasks.set i next⟩ := by
  obtain ⟨lock, keys⟩ := onward_kept onward
  constructor
  · intro j other present
    rcases get_set present with ⟨_, rfl⟩ | ⟨_, before⟩
    · exact shape
    · exact sound.shaped j other before
  · intro j other present asking
    rcases get_set present with ⟨_, rfl⟩ | ⟨_, before⟩
    · exact absurd asking quiet
    · exact lock.trans (sound.held j other before asking)
  · intro j k other third present present' asking asking'
    rcases get_set present with ⟨_, rfl⟩ | ⟨_, before⟩
    · exact absurd asking quiet
    · rcases get_set present' with ⟨_, rfl⟩ | ⟨_, before'⟩
      · exact absurd asking' quiet
      · exact sound.alone j k other third before before' asking asking'
  · intro j other present asking
    rcases get_set present with ⟨_, rfl⟩ | ⟨_, before⟩
    · exact absurd asking quiet
    · rcases keys with absent | ⟨same, age⟩
      · exact .inl absent
      · dsimp only
        rw [same, age]
        rcases sound.stale j other before asking with absent | late
        · exact .inl absent
        · exact .inr (late.trans onward.2)
  · exact sound.counting.trans onward.2

/-- A turn that takes the lock, finds nothing fresh and asks, while nobody else does. -/
theorem sound_asks (monotone : MonotoneClocks outside time) {pool : VerifyPool N} {i : Nat} {next : VerifyTask}
    (sound : LockSound settings time pool) (shape : Shape settings next)
    (stale : freshKeys settings pool.state.process.jwks (reading outside pool.state) = none)
    (unlocked : ∀ (j : Nat) (other : VerifyTask), pool.tasks[j]? = some other → ¬ Asking settings other) :
    LockSound settings time ⟨setLocked (ticked outside pool.state) true, pool.tasks.set i next⟩ := by
  have nobody {j : Nat} {other : VerifyTask} (present : (pool.tasks.set i next)[j]? = some other)
      (asks : Asking settings other) : j = i := by
    rcases get_set present with ⟨same, _⟩ | ⟨_, before⟩
    · exact same
    · exact absurd asks (unlocked j other before)
  constructor
  · intro j other present
    rcases get_set present with ⟨_, rfl⟩ | ⟨_, before⟩
    · exact shape
    · exact sound.shaped j other before
  · exact fun _ _ _ _ => rfl
  · intro j k other third present present' asks asks'
    rw [nobody present asks, nobody present' asks']
  · intro j other present asks
    rcases stale_keys stale with absent | late
    · exact .inl absent
    · exact .inr (late.trans (monotone.late pool.state.outside))
  · exact sound.counting.trans (onward_ticked monotone.toMonotone pool.state).2

theorem sound_step (monotone : MonotoneClocks outside time) {pool : VerifyPool N}
    {event : Event VerifyRequest} (sound : LockSound settings time pool)
    (free : LockFree pool event) :
    LockSound settings time (pool.step (authExec outside) AuthState.instant (verify settings) event) := by
  cases event with
  | start request => exact sound_start sound request
  | resume i =>
      rcases resume_effect monotone sound i with
        ⟨_, same⟩ | ⟨task, next, after, found, shape, _, effect, step⟩
      · rw [same]
        exact sound
      · rw [step]
        have ticks := onward_ticked monotone.toMonotone pool.state
        have fetched := @fetched_later _ settings outside time monotone.toMonotone pool.state
        have unlocked (waits : task.awaits .acquireLock) (j : Nat) (other : VerifyTask)
            (present : pool.tasks[j]? = some other) : ¬ Asking settings other := by
          intro asking
          have held := sound.held j other present asking
          rw [free i task rfl found waits] at held
          cases held
        have alone (asked : Asking settings task) (j : Nat) (other : VerifyTask) (different : j ≠ i)
            (present : pool.tasks[j]? = some other) : ¬ Asking settings other :=
          fun asking => different (sound.alone j i other task present found asking asked)
        cases effect with
        | calm quiet onward => exact sound_calm sound shape quiet onward
        | takes waits quiet onward =>
            exact sound_idle sound shape (ticks.2.trans onward.2) quiet
              fun j other _ present => unlocked waits j other present
        | asks waits asking stale same =>
            subst same
            exact sound_asks monotone sound shape stale (unlocked waits)
        | keeps asked quiet began document held onward =>
            exact sound_idle sound shape (fetched.trans onward.2) quiet (alone asked)
        | fails asked quiet began missing onward =>
            exact sound_idle sound shape (fetched.trans onward.2) quiet (alone asked)

end Lehen.TokenCalls
