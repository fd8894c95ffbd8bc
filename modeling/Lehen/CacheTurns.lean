import Lehen.Jwks
import Lehen.Schedule

/-!
What `get_keys` does between two awaits. It looks at the clock and the cache, waits
for the lock, looks again, and waits for the endpoint. What follows the call is a
parameter.
-/

namespace Lehen.CacheTurns

open AuthState Jwks Schedule
open Storage (HttpResponse)

variable {N Req α : Type} (settings : AuthSettings) (outside : AuthOutside N)

abbrev Entry := (op : AuthOp) × Except PyError op.Res

/-! What a call makes of the cache and of an answer of the endpoint. -/

/-- The document an answer holds, or the error that `fetchPayload` makes of it. -/
def payloadOf (answer : Except PyError HttpResponse) : Except PyError Json :=
  match answer with
  | .error error => .error error
  | .ok response =>
      if 200 ≤ response.status ∧ response.status < 300 then
        response.json.mapError fun text => ⟨.jsonDecodeError, text⟩
      else .error ⟨.httpError, settings.statusError response.status settings.provider.jwksUrl⟩

/-- The key set that an answer holds. -/
def documentOf (answer : Except PyError HttpResponse) : Option (Dict Json) :=
  match payloadOf settings answer with
  | .error _ => none
  | .ok payload => (asDict payload).filter fun document => (document.lookup "keys").isSome

/-- What a call returns of a key set it has fetched. -/
def counted (document : Dict Json) : Except PyError (Dict Json) :=
  match document.lookup "keys" with
  | some keys => (keyCount keys).map fun _ => document
  | none => .ok document

def noAnswer (text : String) : PyError := ⟨.jwksFetchError, text⟩

/-- `getKeys` from where it has looked at the cache. -/
def look (jwks : JwksState) (now : Int) : Auth (Dict Json) :=
  match freshKeys settings jwks now with
  | some keys => .ret keys
  | none => do
      Prog.require (¬ now < jwks.negativeUntil)
        (noAnswer "recent JWKS fetch failed; in negative-cache window")
      locked (refetch settings)

/-- What is done with the answer to a request that began at the instant. -/
def take (now : Int) (outcome : Except PyError Json) : Auth (Dict Json) :=
  ((Prog.lift outcome).handle fun exc =>
    if exc.kind = .httpError ∨ exc.kind.isValueError then
      refuse now s!"failed to fetch JWKS from {settings.provider.jwksUrl}: {exc.text}"
    else throw exc).bind fun payload =>
      match asDict payload with
      | none => refuse now s!"JWKS response from {settings.provider.jwksUrl} is malformed"
      | some document =>
          match document.lookup "keys" with
          | none => refuse now s!"JWKS response from {settings.provider.jwksUrl} is malformed"
          | some keys => do
              Prog.perform (AuthOp.keepJwks document now)
              let _ ← Prog.lift (keyCount keys)
              return document

/-- `refetch` from where it begins a request. -/
def ask (now : Int) : Auth (Dict Json) :=
  .await (.fetch settings.provider.jwksUrl) fun answer => take settings now (payloadOf settings answer)

/-- What is done under the lock, and its release. -/
def release {α : Type} (body : Auth α) : Auth α := do
  let value ← body.handle fun error => do
    Prog.perform AuthOp.releaseLock
    throw error
  Prog.perform AuthOp.releaseLock
  return value

theorem payload_asked : fetchPayload settings =
    .await (.fetch settings.provider.jwksUrl) fun answer => Prog.lift (payloadOf settings answer) := by
  unfold fetchPayload fetch Prog.perform
  simp only [Prog.bind_eq, Prog.bind_await]
  congr 1
  funext answer
  cases answer with
  | error error => rfl
  | ok response =>
      by_cases fine : 200 ≤ response.status ∧ response.status < 300
      · simp only [payloadOf, Prog.require, Prog.bind_ret, if_pos fine]
        cases response.json <;> rfl
      · simp only [payloadOf, Prog.require, Prog.bind_ret, if_neg fine]
        rfl

theorem refetch_asks : refetch settings =
    (monotonic.bind fun now => (Prog.perform AuthOp.readJwks).bind fun jwks =>
      match freshKeys settings jwks now with
      | some keys => .ret keys
      | none => ask settings now) := by
  unfold refetch ask take
  rw [payload_asked]
  rfl

theorem refuse_bind {α β : Type} (now : Int) (text : String) (next : α → Auth β) :
    (refuse now text).bind next = refuse now text := by
  unfold refuse Prog.perform
  simp only [Prog.bind_eq, Prog.bind_await]
  congr 1
  funext answer
  cases answer <;> rfl

/-- What was counted is what was fetched. -/
theorem counted_ok {document keys : Dict Json} (returned : counted document = .ok keys) :
    keys = document := by
  unfold counted at returned
  split at returned
  · next value _ =>
      cases counts : keyCount value with
      | error error =>
          rw [counts] at returned
          cases returned
      | ok count =>
          rw [counts] at returned
          cases returned
          rfl
  · cases returned
    rfl

/-- A key set that was fetched is kept. -/
theorem take_kept {answer : Except PyError HttpResponse} {document : Dict Json}
    (held : documentOf settings answer = some document) (now : Int) :
    take settings now (payloadOf settings answer) =
      (Prog.perform (AuthOp.keepJwks document now)).bind fun _ => Prog.lift (counted document) := by
  unfold documentOf at held
  cases outcome : payloadOf settings answer with
  | error error =>
      rw [outcome] at held
      cases held
  | ok payload =>
      rw [outcome] at held
      obtain ⟨dict, present⟩ := Option.filter_eq_some_iff.mp held
      obtain ⟨keys, found⟩ := Option.isSome_iff_exists.mp present
      have counts : counted document = (keyCount keys).map fun _ => document := by
        rw [counted, found]
      simp only [take, Prog.lift, Prog.handle, Prog.bind_ret, dict, found, counts]
      simp only [Prog.bind_eq]
      congr 1
      funext _
      cases keyCount keys <;> rfl

/-- An answer without a key set closes the endpoint for a while. -/
theorem take_refused {answer : Except PyError HttpResponse}
    (missing : documentOf settings answer = none)
    (failed : ∀ error, answer = .error error → error.kind = .httpError) (now : Int) :
    ∃ text, take settings now (payloadOf settings answer) = refuse now text := by
  unfold documentOf at missing
  cases outcome : payloadOf settings answer with
  | error error =>
      have caught : error.kind = .httpError ∨ error.kind.isValueError = true := by
        cases answer with
        | error own =>
            cases outcome
            exact .inl (failed _ rfl)
        | ok response =>
            rw [payloadOf] at outcome
            split at outcome
            · cases decoded : response.json with
              | error text =>
                  rw [decoded] at outcome
                  cases outcome
                  exact .inr rfl
              | ok payload =>
                  rw [decoded] at outcome
                  cases outcome
            · cases outcome
              exact .inl rfl
      refine ⟨s!"failed to fetch JWKS from {settings.provider.jwksUrl}: {error.text}", ?_⟩
      simp only [take, Prog.lift, Prog.handle, if_pos caught, refuse_bind]
  | ok payload =>
      rw [outcome] at missing
      simp only [take, Prog.lift, Prog.handle, Prog.bind_ret]
      cases dict : asDict payload with
      | none => exact ⟨_, rfl⟩
      | some document =>
          have absent : document.lookup "keys" = none := by
            simpa [dict, Option.filter] using missing
          simp only [absent]
          exact ⟨_, rfl⟩


section Turns

variable {settings} {outside} {finish : Except PyError (Dict Json) → Auth α} (request : Req)
  (log : List Entry) (world : AuthWorld N)

variable (outside) in
def reading : Int := (outside.monotonic world.outside).1

variable (outside) in
/-- The world after a look at the clock. -/
def ticked : AuthWorld N := { world with outside := (outside.monotonic world.outside).2 }

def setLocked (locked : Bool) : AuthWorld N := world.withJwks fun jwks => { jwks with locked }

variable (settings outside) in
/-- The endpoint's answer, and the world after it. -/
def answered : Except PyError HttpResponse × AuthWorld N :=
  authExec outside (.fetch settings.provider.jwksUrl) world

/-- A fetch that fails has failed on its way. -/
theorem fetch_failed {url : String} (error : PyError)
    (failing : (authExec outside (.fetch url) world).1 = .error error) : error.kind = .httpError := by
  simp only [authExec] at failing
  split at failing
  · cases failing
  · cases failing
    rfl

theorem answered_process : (answered settings outside world).2.process = world.process := by
  unfold answered
  rcases reached : outside.fetch settings.provider.jwksUrl world.outside with ⟨text | response, next⟩ <;>
    simp only [authExec, reached]

def keep (document : Dict Json) (now : Int) : AuthWorld N :=
  world.withJwks fun jwks => { jwks with keys := some document, fetchedAt := now }

def close (now : Int) : AuthWorld N :=
  world.withJwks fun jwks => { jwks with negativeUntil := now + negativeTtlSeconds * microseconds }

/-- The entries of a look at the clock and the cache. -/
def lookedAt (now : Int) (jwks : JwksState) : List Entry :=
  [⟨.monotonic, .ok now⟩, ⟨.readJwks, .ok jwks⟩]

/-- A call that begins looks at the clock and the cache at once. -/
theorem settle_get_keys :
    settle (authExec outside) AuthState.instant request log ((getKeys settings).resolve finish) world =
      settle (authExec outside) AuthState.instant request
        (log ++ lookedAt (reading outside world) world.process.jwks)
        ((look settings world.process.jwks (reading outside world)).resolve finish)
        (ticked outside world) := by
  have looks : settle (authExec outside) AuthState.instant request log ((getKeys settings).resolve finish) world =
      settle (authExec outside) AuthState.instant request
        ((log ++ [(⟨.monotonic, .ok (reading outside world)⟩ : Entry)]) ++
          [⟨.readJwks, .ok world.process.jwks⟩])
        ((look settings world.process.jwks (reading outside world)).resolve finish)
        (ticked outside world) := rfl
  rw [looks, List.append_assoc]
  rfl

/-- Three things may come of the look. -/
theorem look_cases (jwks : JwksState) (now : Int) :
    (∃ keys, freshKeys settings jwks now = some keys ∧ look settings jwks now = .ret keys) ∨
      (freshKeys settings jwks now = none ∧ now < jwks.negativeUntil ∧
        ∃ text, look settings jwks now = .raise (noAnswer text)) ∨
      (freshKeys settings jwks now = none ∧ jwks.negativeUntil ≤ now ∧
        look settings jwks now = locked (refetch settings)) := by
  unfold look
  cases freshKeys settings jwks now with
  | some keys => exact .inl ⟨keys, rfl, rfl⟩
  | none =>
      by_cases closed : now < jwks.negativeUntil
      · right
        left
        exact ⟨rfl, closed, _, by simp only [Prog.require, closed, not_true_eq_false, if_false]; rfl⟩
      · right
        right
        exact ⟨rfl, Int.not_lt.mp closed, by
          simp only [Prog.require, closed, not_false_eq_true, if_true]; rfl⟩

/-- Who takes the lock looks again, and returns or begins a request. -/
theorem turn_queued :
    (⟨request, log, (locked (refetch settings)).resolve finish⟩ :
        Task Req AuthOp AuthOp.Res PyError α).turn (authExec outside) AuthState.instant world =
      match freshKeys settings (setLocked world true).process.jwks (reading outside world) with
      | some keys =>
          settle (authExec outside) AuthState.instant request
            (log ++ ⟨.acquireLock, .ok ()⟩ ::
              (lookedAt (reading outside world) (setLocked world true).process.jwks ++
                [⟨.releaseLock, .ok ()⟩]))
            (finish (.ok keys)) (setLocked (ticked outside world) false)
      | none =>
          (⟨request, log ++ ⟨.acquireLock, .ok ()⟩ ::
              lookedAt (reading outside world) (setLocked world true).process.jwks,
            (release (ask settings (reading outside world))).resolve finish⟩,
            setLocked (ticked outside world) true) := by
  have looks : (⟨request, log, (locked (refetch settings)).resolve finish⟩ :
        Task Req AuthOp AuthOp.Res PyError α).turn (authExec outside) AuthState.instant world =
      settle (authExec outside) AuthState.instant request
        (((log ++ [⟨.acquireLock, .ok ()⟩]) ++ [⟨.monotonic, .ok (reading outside world)⟩]) ++
          [⟨.readJwks, .ok (setLocked world true).process.jwks⟩])
        ((release (match freshKeys settings (setLocked world true).process.jwks
            (reading outside world) with
          | some keys => Prog.ret keys
          | none => ask settings (reading outside world))).resolve finish)
        (setLocked (ticked outside world) true) := by
    rw [refetch_asks]
    rfl
  rw [looks, List.append_assoc, List.append_assoc]
  cases freshKeys settings (setLocked world true).process.jwks (reading outside world) with
  | some keys =>
      have ends (past : List Entry) : settle (authExec outside) AuthState.instant request past
          ((release (Prog.ret keys : Auth (Dict Json))).resolve finish)
            (setLocked (ticked outside world) true) =
        settle (authExec outside) AuthState.instant request (past ++ [⟨.releaseLock, .ok ()⟩]) (finish (.ok keys))
          (setLocked (ticked outside world) false) := rfl
      dsimp only
      rw [ends, List.append_assoc]
      rfl
  | none => rfl

/-- Whose request is answered stores what the answer says and gives the lock back. -/
theorem turn_asking (now : Int) :
    (∃ document, documentOf settings (answered settings outside world).1 = some document ∧
      (⟨request, log, (release (ask settings now)).resolve finish⟩ :
          Task Req AuthOp AuthOp.Res PyError α).turn (authExec outside) AuthState.instant world =
        settle (authExec outside) AuthState.instant request
          (log ++ [⟨.fetch settings.provider.jwksUrl, (answered settings outside world).1⟩,
            ⟨.keepJwks document now, .ok ()⟩, ⟨.releaseLock, .ok ()⟩])
          (finish (counted document))
          (setLocked (keep (answered settings outside world).2 document now) false)) ∨
    (documentOf settings (answered settings outside world).1 = none ∧
      ∃ text, (⟨request, log, (release (ask settings now)).resolve finish⟩ :
          Task Req AuthOp AuthOp.Res PyError α).turn (authExec outside) AuthState.instant world =
        settle (authExec outside) AuthState.instant request
          (log ++ [⟨.fetch settings.provider.jwksUrl, (answered settings outside world).1⟩,
            ⟨.refuseJwks (now + negativeTtlSeconds * microseconds), .ok ()⟩, ⟨.releaseLock, .ok ()⟩])
          (finish (.error (noAnswer text)))
          (setLocked (close (answered settings outside world).2 now) false)) := by
  have takes : (⟨request, log, (release (ask settings now)).resolve finish⟩ :
        Task Req AuthOp AuthOp.Res PyError α).turn (authExec outside) AuthState.instant world =
      settle (authExec outside) AuthState.instant request
        (log ++ [⟨.fetch settings.provider.jwksUrl, (answered settings outside world).1⟩])
        ((release (take settings now (payloadOf settings (answered settings outside world).1))).resolve
          finish) (answered settings outside world).2 := rfl
  cases held : documentOf settings (answered settings outside world).1 with
  | some document =>
      left
      refine ⟨document, rfl, ?_⟩
      rw [takes, take_kept settings held]
      -- The lock is given back whether the keys can be counted or not.
      have ends (past : List Entry) : settle (authExec outside) AuthState.instant request past
          ((release ((Prog.perform (AuthOp.keepJwks document now)).bind fun _ =>
            Prog.lift (counted document))).resolve finish) (answered settings outside world).2 =
        settle (authExec outside) AuthState.instant request
          ((past ++ [⟨.keepJwks document now, .ok ()⟩]) ++ [⟨.releaseLock, .ok ()⟩])
          (finish (counted document))
          (setLocked (keep (answered settings outside world).2 document now) false) := by
        cases counted document <;> rfl
      rw [ends, List.append_assoc, List.append_assoc]
      rfl
  | none =>
      right
      obtain ⟨text, refuses⟩ := take_refused settings held (fetch_failed world) now
      refine ⟨rfl, text, ?_⟩
      rw [takes, refuses]
      have ends (past : List Entry) : settle (authExec outside) AuthState.instant request past
          ((release (refuse now text)).resolve finish) (answered settings outside world).2 =
        settle (authExec outside) AuthState.instant request
          ((past ++ [⟨.refuseJwks (now + negativeTtlSeconds * microseconds), .ok ()⟩]) ++
            [⟨.releaseLock, .ok ()⟩])
          (finish (.error (noAnswer text)))
          (setLocked (close (answered settings outside world).2 now) false) := rfl
      rw [ends, List.append_assoc, List.append_assoc]
      rfl

end Turns

/-- The monotonic clock does not run backwards. -/
structure Monotone (outside : AuthOutside N) (time : N → Int) : Prop where
  early : ∀ state, time state ≤ (outside.monotonic state).1
  late : ∀ state, (outside.monotonic state).1 ≤ time (outside.monotonic state).2
  fetched : ∀ url state, time state ≤ time (outside.fetch url state).2

variable {settings outside} {time : N → Int}

theorem fetched_later (monotone : Monotone outside time) (world : AuthWorld N) :
    time world.outside ≤ time (answered settings outside world).2.outside := by
  unfold answered
  have later := monotone.fetched settings.provider.jwksUrl world.outside
  rcases reached : outside.fetch settings.provider.jwksUrl world.outside with ⟨text | response, next⟩
  · rw [reached] at later
    simp only [authExec, reached]
    exact later
  · rw [reached] at later
    simp only [authExec, reached]
    exact later

/-! The lock is given to those who wait for it only while nobody has it. -/

def LockFree (pool : Pool (AuthWorld N) Req AuthOp AuthOp.Res PyError α) (event : Event Req) : Prop :=
  ∀ i task, event = .resume i → pool.tasks[i]? = some task → task.awaits .acquireLock →
    pool.state.process.jwks.locked = false

def lockCheck (pool : Pool (AuthWorld N) Req AuthOp AuthOp.Res PyError α) : Event Req → Bool
  | .start _ => true
  | .resume i =>
      match pool.tasks[i]? with
      | some ⟨_, _, .await .acquireLock _⟩ => !pool.state.process.jwks.locked
      | _ => true

theorem free_of_check (pool : Pool (AuthWorld N) Req AuthOp AuthOp.Res PyError α) (event : Event Req)
    (checked : lockCheck pool event = true) : LockFree pool event := by
  rintro i ⟨request, log, prog⟩ rfl found ⟨resume, left⟩
  have left : prog = _ := left
  subst left
  rw [lockCheck, found] at checked
  simpa using checked

end Lehen.CacheTurns
