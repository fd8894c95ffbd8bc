import Lehen.CacheTurns
import Lehen.Verification

/-!
Answers of the JWKS endpoint that hold no key set, and what a verification makes of
them. The cache looks for the entry `keys` but not at what it is.
-/

namespace Lehen.KeySets

open AuthState Jwks Jwt CacheTurns
open Storage (HttpResponse)
open Verification (sampleAuth stillAuth warmProcess)
open Prog (Tells tells_bind tells_mono tells_ret tells_raise tells_perform_then)

variable {N : Type} (settings : AuthSettings) (outside : AuthOutside N)

/-- The entry `keys` is a list of objects. -/
def KeySet (document : Dict Json) : Prop :=
  ∃ items, document.lookup "keys" = some (.arr items) ∧ ∀ item ∈ items, ∃ fields, item = .obj fields

/-- The endpoint answered with a key set. -/
def Proper (answer : Except PyError HttpResponse) : Prop :=
  ∃ document, documentOf settings answer = some document ∧ KeySet document

/-- The endpoint answered with an object that has `keys`, and they are no list of objects. -/
def Slips (answer : Except PyError HttpResponse) : Prop :=
  ∃ document, documentOf settings answer = some document ∧ ¬ KeySet document

/-- The window opens that begins at the last look at the clock. -/
def Refuses (looked : Option Int) (rest : List Entry) : Prop :=
  ∃ now later, looked = some now ∧
    rest = ⟨.refuseJwks (now + negativeTtlSeconds * microseconds), .ok ()⟩ :: later

/-- An answer that is no key set opens the window, and nothing else than key sets is cached. -/
def Treated (looked : Option Int) : List Entry → Prop
  | [] => True
  | ⟨.monotonic, .ok now⟩ :: rest => Treated (some now) rest
  | ⟨.fetch _, answer⟩ :: rest => (Proper settings answer ∨ Refuses looked rest) ∧ Treated looked rest
  | ⟨.keepJwks document _, _⟩ :: rest => KeySet document ∧ Treated looked rest
  | _ :: rest => Treated looked rest

/-- No answer slipped through. -/
def Unslipped (log : List Entry) : Prop :=
  ∀ url answer, ⟨.fetch url, answer⟩ ∈ log → ¬ Slips settings answer

/-- The key of the token can be looked for in the document. -/
def Scans (document : Dict Json) (kid : Json) : Prop := ∃ found, findKey document kid = .ok found

/-- The cached document that a call from this world is given. -/
def Taken (world : AuthWorld N) (document : Dict Json) : Prop :=
  freshKeys settings world.process.jwks (reading outside world) = some document ∨
    freshKeys settings world.process.jwks (reading outside world) = none ∧
      world.process.jwks.negativeUntil ≤ reading outside world ∧
        freshKeys settings world.process.jwks (reading outside (ticked outside world)) = some document

/-- The token names a key. -/
def Names (token : String) (kid : Json) : Prop :=
  token ≠ "" ∧ kid.truthy = true ∧
    ∃ header, settings.jose.getUnverifiedHeader token = .ok header ∧ (header.lookup "kid").getD .null = kid

/-- The cached document can be searched, if the call looks at it. -/
def Searchable (token : String) (world : AuthWorld N) : Prop :=
  ∀ kid document, Names settings token kid → Taken settings outside world document → Scans document kid

/-- Claims or an `InvalidTokenError`. -/
def Answered {α : Type} (outcome : Except PyError α) : Prop :=
  ∀ error, outcome = .error error → error.kind = .invalidTokenError

/-! A key set can be searched, and what cannot raises something else than `InvalidTokenError`. -/

theorem find_kid_objects (kid : Json) (items : List Json)
    (objects : ∀ item ∈ items, ∃ fields, item = .obj fields) : ∃ found, findKid kid items = .ok found := by
  induction items with
  | nil => exact ⟨none, rfl⟩
  | cons item rest ih =>
      obtain ⟨fields, rfl⟩ := objects item List.mem_cons_self
      simp only [findKid, Json.get]
      split
      · exact ⟨_, rfl⟩
      · exact ih fun other member => objects other (List.mem_cons_of_mem _ member)

theorem scans_of_key_set {document : Dict Json} (keys : KeySet document) (kid : Json) :
    Scans document kid := by
  obtain ⟨items, held, objects⟩ := keys
  simpa only [Scans, findKey, held, Option.getD_some, iterate] using find_kid_objects kid items objects

theorem find_kid_raises {kid : Json} {items : List Json} {error : PyError}
    (raised : findKid kid items = .error error) : error.kind ≠ .invalidTokenError := by
  induction items with
  | nil => cases raised
  | cons item rest ih =>
      cases item with
      | obj fields =>
          simp only [findKid, Json.get] at raised
          split at raised
          · cases raised
          · exact ih raised
      | _ =>
          cases raised
          simp

theorem find_key_raises {document : Dict Json} {kid : Json} {error : PyError}
    (raised : findKey document kid = .error error) : error.kind ≠ .invalidTokenError := by
  unfold findKey at raised
  cases walked : iterate ((document.lookup "keys").getD (.arr [])) with
  | ok items =>
      rw [walked] at raised
      exact find_kid_raises raised
  | error other =>
      rw [walked] at raised
      cases raised
      cases keys : (document.lookup "keys").getD (.arr []) <;> rw [keys] at walked <;> cases walked <;> simp

theorem counted_raises {document : Dict Json} {error : PyError}
    (raised : counted document = .error error) : error.kind = .typeError ∧ ¬ KeySet document := by
  unfold counted at raised
  cases held : document.lookup "keys" with
  | none =>
      rw [held] at raised
      cases raised
  | some keys =>
      rw [held] at raised
      cases keys with
      | arr items => cases raised
      | obj fields => cases raised
      | str text => cases raised
      | _ =>
          cases raised
          refine ⟨rfl, ?_⟩
          rintro ⟨items, listed, _⟩
          rw [held] at listed
          cases listed

/-! The record of a part of a call. -/

/-- What is true of the operations of any part: they are treated right unless an answer
slipped, and then it is cached. -/
structure Sound (log : List Entry) : Prop where
  treated : Unslipped settings log → ∀ looked, Treated settings looked log
  slipped : ¬ Unslipped settings log →
    ∃ document at_ answer, (⟨.keepJwks document at_, answer⟩ : Entry) ∈ log ∧ ¬ KeySet document

variable {settings} {outside}

theorem treated_keeps {looked : Option Int} {log : List Entry} (treated : Treated settings looked log)
    {document : Dict Json} {at_ : Int} {answer : Except PyError Unit}
    (member : (⟨.keepJwks document at_, answer⟩ : Entry) ∈ log) : KeySet document := by
  induction log generalizing looked with
  | nil => cases member
  | cons entry rest ih =>
      obtain ⟨op, own⟩ := entry
      cases op with
      | monotonic =>
          have later : _ ∈ rest := (List.mem_cons.mp member).resolve_left (by rintro ⟨⟩)
          cases own with
          | ok now => exact @ih (some now) treated later
          | error error => exact @ih looked treated later
      | fetch url => exact ih treated.2 ((List.mem_cons.mp member).resolve_left (by rintro ⟨⟩))
      | keepJwks kept time =>
          rcases List.mem_cons.mp member with same | later
          · cases same
            exact treated.1
          · exact ih treated.2 later
      | _ => exact @ih looked treated ((List.mem_cons.mp member).resolve_left (by rintro ⟨⟩))

theorem refuses_append {looked : Option Int} {log : List Entry} (refuses : Refuses looked log)
    (more : List Entry) : Refuses looked (log ++ more) := by
  obtain ⟨now, later, same, rfl⟩ := refuses
  exact ⟨now, later ++ more, same, rfl⟩

theorem treated_append {looked : Option Int} {log more : List Entry} (first : Treated settings looked log)
    (rest : ∀ looked, Treated settings looked more) : Treated settings looked (log ++ more) := by
  induction log generalizing looked with
  | nil => exact rest looked
  | cons entry log ih =>
      obtain ⟨op, answer⟩ := entry
      cases op with
      | monotonic =>
          cases answer with
          | ok now => exact @ih (some now) first
          | error error => exact @ih looked first
      | fetch url =>
          obtain ⟨proper | refuses, later⟩ := first
          · exact ⟨.inl proper, ih later⟩
          · exact ⟨.inr (refuses_append refuses more), ih later⟩
      | keepJwks document at_ => exact ⟨first.1, ih first.2⟩
      | _ => exact @ih looked first

theorem unslipped_append (log more : List Entry) :
    Unslipped settings (log ++ more) ↔ Unslipped settings log ∧ Unslipped settings more := by
  simp only [Unslipped, List.mem_append]
  constructor
  · exact fun held => ⟨fun url answer member => held url answer (.inl member),
      fun url answer member => held url answer (.inr member)⟩
  · rintro ⟨first, second⟩ url answer (member | member)
    · exact first url answer member
    · exact second url answer member

theorem sound_append {log more : List Entry} (first : Sound settings log) (second : Sound settings more) :
    Sound settings (log ++ more) := by
  constructor
  · intro unslipped looked
    obtain ⟨before, after⟩ := (unslipped_append log more).mp unslipped
    exact treated_append (first.treated before looked) (second.treated after)
  · intro slipped
    by_cases before : Unslipped settings log
    · have after : ¬ Unslipped settings more := fun after =>
        slipped ((unslipped_append log more).mpr ⟨before, after⟩)
      obtain ⟨document, at_, answer, member, broken⟩ := second.slipped after
      exact ⟨document, at_, answer, List.mem_append_right _ member, broken⟩
    · obtain ⟨document, at_, answer, member, broken⟩ := first.slipped before
      exact ⟨document, at_, answer, List.mem_append_left _ member, broken⟩

/-- An operation that neither asks the endpoint nor fills the cache. -/
def still : AuthOp → Bool
  | .fetch _ | .keepJwks _ _ => false
  | _ => true

theorem sound_still {log : List Entry} (quiet : ∀ entry ∈ log, still entry.1 = true) :
    Sound settings log := by
  have unslipped : Unslipped settings log := by
    intro url answer member
    cases quiet _ member
  have treated : ∀ looked, Treated settings looked log := by
    clear unslipped
    induction log with
    | nil => exact fun _ => trivial
    | cons entry log ih =>
        intro looked
        have rest := ih fun other member => quiet other (List.mem_cons_of_mem _ member)
        have own := quiet entry List.mem_cons_self
        obtain ⟨op, answer⟩ := entry
        cases op with
        | monotonic =>
            cases answer with
            | ok now => exact rest (some now)
            | error error => exact rest looked
        | fetch url => cases own
        | keepJwks document at_ => cases own
        | _ => exact rest looked
  exact ⟨fun _ => treated, fun slipped => absurd unslipped slipped⟩

/-! What one `get_keys` gives. -/

section Getting

variable (settings) (outside) (world : AuthWorld N)

/-- The call gives a cached document, or none, or one it has fetched. -/
inductive Got : Except PyError (Dict Json) → List Entry → Prop
  | cached (document : Dict Json) (log : List Entry) (taken : Taken settings outside world document)
      (quiet : ∀ entry ∈ log, still entry.1 = true) : Got (.ok document) log
  | closed (text : String) (log : List Entry) (quiet : ∀ entry ∈ log, still entry.1 = true) :
      Got (.error (noAnswer text)) log
  | refused (text : String) (now : Int) (jwks : JwksState) (lead : List Entry) (answer : Except PyError HttpResponse)
      (missing : documentOf settings answer = none) (quiet : ∀ entry ∈ lead, still entry.1 = true) :
      Got (.error (noAnswer text)) (lead ++ [⟨.monotonic, .ok now⟩, ⟨.readJwks, .ok jwks⟩,
        ⟨.fetch settings.provider.jwksUrl, answer⟩,
        ⟨.refuseJwks (now + negativeTtlSeconds * microseconds), .ok ()⟩, ⟨.releaseLock, .ok ()⟩])
  | fetched (document : Dict Json) (now : Int) (jwks : JwksState) (lead : List Entry)
      (answer : Except PyError HttpResponse) (held : documentOf settings answer = some document)
      (quiet : ∀ entry ∈ lead, still entry.1 = true) :
      Got (counted document) (lead ++ [⟨.monotonic, .ok now⟩, ⟨.readJwks, .ok jwks⟩,
        ⟨.fetch settings.provider.jwksUrl, answer⟩, ⟨.keepJwks document now, .ok ()⟩,
        ⟨.releaseLock, .ok ()⟩])

end Getting

theorem sound_of_got {world : AuthWorld N} {outcome : Except PyError (Dict Json)} {log : List Entry}
    (got : Got settings outside world outcome log) : Sound settings log := by
  cases got with
  | cached document log taken quiet => exact sound_still quiet
  | closed text log quiet => exact sound_still quiet
  | refused text now jwks lead answer missing quiet =>
      apply sound_append (sound_still quiet)
      have improper : ¬ Slips settings answer := by
        rintro ⟨document, held, _⟩
        rw [missing] at held
        cases held
      constructor
      · exact fun _ looked => ⟨.inr ⟨now, _, rfl, rfl⟩, trivial⟩
      · intro slipped
        exfalso
        apply slipped
        intro url other member
        simp only [List.mem_cons, Sigma.mk.injEq, reduceCtorEq, false_and, false_or,
          List.not_mem_nil, or_false] at member
        obtain ⟨_, same⟩ := member
        cases same
        exact improper
  | fetched document now jwks lead answer held quiet =>
      apply sound_append (sound_still quiet)
      constructor
      · intro unslipped looked
        have proper : KeySet document := by
          by_contra broken
          exact unslipped settings.provider.jwksUrl answer (by simp) ⟨document, held, broken⟩
        exact ⟨.inl ⟨document, held, proper⟩, proper, trivial⟩
      · intro slipped
        refine ⟨document, now, .ok (), by simp, ?_⟩
        intro proper
        apply slipped
        intro url other member
        simp only [List.mem_cons, Sigma.mk.injEq, reduceCtorEq, false_and, false_or,
          List.not_mem_nil, or_false] at member
        obtain ⟨_, same⟩ := member
        cases same
        rintro ⟨other, held', broken⟩
        rw [held] at held'
        cases held'
        exact broken proper

/-- A look that leads to a request, and the answer to it. -/
theorem asked_got (world : AuthWorld N) (lead : List Entry) (quiet : ∀ entry ∈ lead, still entry.1 = true)
    (now : Int) (jwks : JwksState) :
    Got settings outside world
      ((release (ask settings now)).run (authExec outside) (setLocked (ticked outside (ticked outside world)) true)).1
      (lead ++ (lookedAt now jwks ++ (release (ask settings now)).trace (authExec outside)
        (setLocked (ticked outside (ticked outside world)) true))) := by
  have asks : (release (ask settings now)) = .await (.fetch settings.provider.jwksUrl) fun answer =>
      release (take settings now (payloadOf settings answer)) := rfl
  rw [asks, Prog.run_await, Prog.trace]
  have failed := @fetch_failed N outside (setLocked (ticked outside (ticked outside world)) true)
    settings.provider.jwksUrl
  generalize answered : authExec outside (.fetch settings.provider.jwksUrl)
    (setLocked (ticked outside (ticked outside world)) true) = reply at failed ⊢
  obtain ⟨answer, after⟩ := reply
  cases held : documentOf settings answer with
  | none =>
      obtain ⟨text, refuses⟩ := take_refused settings held failed now
      simp only [refuses]
      exact .refused text now jwks lead answer held quiet
  | some document =>
      have got : Got settings outside world _ _ :=
        .fetched document now jwks lead answer held quiet
      simp only [take_kept settings held]
      cases counts : counted document <;> rw [counts] at got <;> exact got

/-- What `refetch` does with what it finds in the cache, to the end of the lock. -/
def resumed (settings : AuthSettings) (now : Int) (found : Option (Dict Json)) : Auth (Dict Json) :=
  release (match found with
    | some keys => Prog.ret keys
    | none => ask settings now)

/-- What `get_keys` gives; and a cached document that it may take it takes. -/
theorem get_keys_got (world : AuthWorld N) :
    Got settings outside world ((getKeys settings).run (authExec outside) world).1
        ((getKeys settings).trace (authExec outside) world) ∧
      ∀ document, Taken settings outside world document →
        ((getKeys settings).run (authExec outside) world).1 = .ok document := by
  have runs : (getKeys settings).run (authExec outside) world =
      (look settings world.process.jwks (reading outside world)).run (authExec outside)
        (ticked outside world) := rfl
  have traces : (getKeys settings).trace (authExec outside) world =
      lookedAt (reading outside world) world.process.jwks ++
        (look settings world.process.jwks (reading outside world)).trace (authExec outside)
          (ticked outside world) := rfl
  rw [runs, traces]
  rcases look_cases world.process.jwks (reading outside world) with
    ⟨keys, fresh, same⟩ | ⟨stale, early, text, same⟩ | ⟨stale, late, same⟩
  · rw [same]
    constructor
    · exact .cached keys _ (.inl fresh) (by simp [lookedAt, still, Prog.trace])
    · rintro document (taken | ⟨none, _⟩)
      · rw [fresh] at taken
        cases taken
        rfl
      · rw [fresh] at none
        cases none
  · rw [same]
    constructor
    · exact .closed text _ (by simp [lookedAt, still, Prog.trace])
    · rintro document (taken | ⟨_, late, _⟩)
      · rw [stale] at taken
        cases taken
      · omega
  · rw [same]
    -- Under the lock the cache is looked at once more.
    have again : (locked (refetch settings)).run (authExec outside) (ticked outside world) =
        (resumed settings (reading outside (ticked outside world))
          (freshKeys settings world.process.jwks (reading outside (ticked outside world)))).run (authExec outside)
            (setLocked (ticked outside (ticked outside world)) true) := by
      rw [refetch_asks]
      rfl
    have entries : (locked (refetch settings)).trace (authExec outside) (ticked outside world) =
        ⟨.acquireLock, .ok ()⟩ :: (lookedAt (reading outside (ticked outside world))
            (setLocked (ticked outside world) true).process.jwks ++
          (resumed settings (reading outside (ticked outside world))
            (freshKeys settings world.process.jwks (reading outside (ticked outside world)))).trace (authExec outside)
              (setLocked (ticked outside (ticked outside world)) true)) := by
      rw [refetch_asks]
      rfl
    rw [again, entries]
    cases fresh : freshKeys settings world.process.jwks (reading outside (ticked outside world)) with
    | some keys =>
        have ends : (resumed settings (reading outside (ticked outside world)) (some keys)).trace
            (authExec outside) (setLocked (ticked outside (ticked outside world)) true) =
              [⟨.releaseLock, .ok ()⟩] := rfl
        rw [ends]
        constructor
        · exact .cached keys _ (.inr ⟨stale, late, fresh⟩) (by simp [lookedAt, still])
        · rintro document (taken | ⟨_, _, taken⟩)
          · rw [stale] at taken
            cases taken
          · rw [fresh] at taken
            cases taken
            rfl
    | none =>
        constructor
        · have got := @asked_got N settings outside world
            (lookedAt (reading outside world) world.process.jwks ++ [⟨.acquireLock, .ok ()⟩])
            (by simp [lookedAt, still]) (reading outside (ticked outside world))
            (setLocked (ticked outside world) true).process.jwks
          rw [List.append_assoc] at got
          exact got
        · rintro document (taken | ⟨_, _, taken⟩)
          · rw [stale] at taken
            cases taken
          · rw [fresh] at taken
            cases taken

/-- A document that was fetched is a key set, if no answer slipped. -/
theorem got_document {world : AuthWorld N} {outcome : Except PyError (Dict Json)} {own : List Entry}
    (got : Got settings outside world outcome own) (document : Dict Json) (given : outcome = .ok document) :
    Taken settings outside world document ∨ (Unslipped settings own → KeySet document) := by
  cases got with
  | cached other log taken quiet =>
      cases given
      exact .inl taken
  | closed text log quiet => cases given
  | refused text now jwks lead answer missing quiet => cases given
  | fetched other now jwks lead answer held quiet =>
      right
      intro unslipped
      rw [counted_ok given]
      by_contra broken
      exact unslipped settings.provider.jwksUrl answer (by simp) ⟨other, held, broken⟩

theorem got_error {world : AuthWorld N} {outcome : Except PyError (Dict Json)} {own : List Entry}
    (got : Got settings outside world outcome own) (unslipped : Unslipped settings own) (error : PyError)
    (raised : outcome = .error error) : error.kind = .jwksFetchError := by
  cases got with
  | cached other log taken quiet => cases raised
  | closed text log quiet =>
      cases raised
      rfl
  | refused text now jwks lead answer missing quiet =>
      cases raised
      rfl
  | fetched other now jwks lead answer held quiet =>
      exact absurd ⟨other, held, (counted_raises raised).2⟩
        (unslipped settings.provider.jwksUrl answer (by simp))

/-- What a verification has of one `get_keys`. -/
structure Obtained (world : AuthWorld N) (outcome : Except PyError (Dict Json)) (own : List Entry) : Prop where
  sound : Sound settings own
  answered : Unslipped settings own → Answered outcome
  document : ∀ document, outcome = .ok document →
    Taken settings outside world document ∨ (Unslipped settings own → KeySet document)
  taken : ∀ document, Taken settings outside world document → outcome = .ok document

/-- A handler that does nothing but raise leaves no operations. -/
theorem trace_rethrow {α : Type} {body : Auth α} {handler : PyError → Auth α}
    (raises : ∀ error, ∃ other, handler error = .raise other) (world : AuthWorld N) :
    (body.handle handler).trace (authExec outside) world = body.trace (authExec outside) world := by
  induction body generalizing world with
  | ret value => rfl
  | raise error =>
      obtain ⟨other, same⟩ := raises error
      rw [Prog.handle, same]
      rfl
  | await op resume ih =>
      simp only [Prog.handle, Prog.trace]
      rw [ih]

/-- What the verification makes of what `get_keys` gives. -/
def rethrown : Except PyError (Dict Json) → Except PyError (Dict Json)
  | .ok document => .ok document
  | .error error =>
      if error.kind = .jwksFetchError then
        .error ⟨.invalidTokenError, s!"cannot validate token: {error.text}"⟩
      else .error error

theorem keys_obtained (world : AuthWorld N) :
    @Obtained N settings outside world ((keysOrInvalid settings).run (authExec outside) world).1
      ((keysOrInvalid settings).trace (authExec outside) world) := by
  obtain ⟨got, takes⟩ := @get_keys_got N settings outside world
  have entries : (keysOrInvalid settings).trace (authExec outside) world =
      (getKeys settings).trace (authExec outside) world := by
    apply trace_rethrow
    intro error
    split
    · exact ⟨_, rfl⟩
    · exact ⟨_, rfl⟩
  have returns : Prog.Leaves (authExec outside) (keysOrInvalid settings) world fun outcome _ =>
      outcome = rethrown ((getKeys settings).run (authExec outside) world).1 := by
    rw [keysOrInvalid, Prog.leaves_handle, Prog.Leaves]
    cases ((getKeys settings).run (authExec outside) world).1 with
    | ok document => rfl
    | error error =>
        dsimp only [rethrown]
        split <;> rfl
  rw [entries, show _ = _ from returns]
  refine ⟨sound_of_got got, ?_, ?_, ?_⟩
  · intro unslipped error raised
    have kind := got_error got unslipped
    cases outcome : ((getKeys settings).run (authExec outside) world).1 with
    | ok document =>
        rw [outcome] at raised
        cases raised
    | error inner =>
        rw [outcome] at raised
        dsimp only [rethrown] at raised
        rw [if_pos (kind inner outcome)] at raised
        cases raised
        rfl
  · intro document given
    apply got_document got
    cases outcome : ((getKeys settings).run (authExec outside) world).1 with
    | ok other =>
        rw [outcome] at given
        cases given
        rfl
    | error inner =>
        rw [outcome] at given
        dsimp only [rethrown] at given
        split at given <;> cases given
  · intro document taken
    rw [takes document taken]
    rfl

/-- What a verification has of the search for its key. -/
structure Sought (settings : AuthSettings) (outside : AuthOutside N) (kid : Json) (world : AuthWorld N)
    (outcome : Except PyError Json) (own : List Entry) : Prop where
  sound : Sound settings own
  answered : Unslipped settings own → (∀ document, Taken settings outside world document →
    Scans document kid) → Answered outcome
  broken : ∀ document, Taken settings outside world document → ¬ Scans document kid → ¬ Answered outcome

/-- The second round, which begins with an empty cache. -/
def searchAgain (settings : AuthSettings) (kid : Json) : Auth Json := do
  let jwks ← keysOrInvalid settings
  match ← Prog.lift (findKey jwks kid) with
  | some key => return key
  | none => invalidToken s!"no JWKS key matches kid={kid.toStr}"

theorem not_taken_empty {world : AuthWorld N} (empty : world.process.jwks.keys = none)
    (document : Dict Json) : ¬ Taken settings outside world document := by
  simp [Taken, freshKeys, empty]

theorem again_sought (kid : Json) (world : AuthWorld N) (empty : world.process.jwks.keys = none)
    (past : List Entry) :
    Tells (authExec outside) (searchAgain settings kid) past world fun outcome log _ =>
      ∃ own, log = past ++ own ∧ Sound settings own ∧ (Unslipped settings own → Answered outcome) := by
  obtain ⟨sound, answered, given, _⟩ := @keys_obtained N settings outside world
  rw [searchAgain, Prog.bind_eq, tells_bind, Tells]
  cases outcome : ((keysOrInvalid settings).run (authExec outside) world).1 with
  | error error =>
      refine ⟨_, rfl, sound, fun unslipped => ?_⟩
      rintro other ⟨⟩
      exact answered unslipped error outcome
  | ok document =>
      dsimp only
      cases found : findKey document kid with
      | error error =>
          refine ⟨_, (List.append_nil _).trans rfl, sound, fun unslipped => ?_⟩
          rcases given document outcome with taken | proper
          · exact absurd taken (not_taken_empty empty document)
          · obtain ⟨key, same⟩ := scans_of_key_set (proper unslipped) kid
            rw [found] at same
            cases same
      | ok key =>
          cases key with
          | none =>
              refine ⟨_, (List.append_nil _).trans rfl, sound, fun _ => ?_⟩
              rintro error ⟨⟩
              rfl
          | some key =>
              refine ⟨_, (List.append_nil _).trans rfl, sound, fun _ => ?_⟩
              rintro error ⟨⟩

theorem key_sought (kid : Json) (world : AuthWorld N) :
    Tells (authExec outside) (keyFor settings kid) [] world fun outcome own _ =>
      Sought settings outside kid world outcome own := by
  obtain ⟨sound, answered, given, taken⟩ := @keys_obtained N settings outside world
  -- A cached document is the one the call goes on with.
  have only {document other : Dict Json}
      (outcome : ((keysOrInvalid settings).run (authExec outside) world).1 = .ok document)
      (cached : Taken settings outside world other) : other = document := by
    rw [taken other cached] at outcome
    exact Except.ok.inj outcome
  rw [keyFor, Prog.bind_eq, tells_bind, Tells, List.nil_append]
  cases outcome : ((keysOrInvalid settings).run (authExec outside) world).1 with
  | error error =>
      refine ⟨sound, fun unslipped _ => ?_, fun document cached _ => ?_⟩
      · rintro other ⟨⟩
        exact answered unslipped error outcome
      · rw [taken document cached] at outcome
        cases outcome
  | ok document =>
      dsimp only
      cases found : findKey document kid with
      | error error =>
          change Tells (authExec outside) (.raise error : Auth Json) _ _ _
          rw [tells_raise]
          have strange : ¬ Answered (.error error : Except PyError Json) :=
            fun answered => find_key_raises found (answered error rfl)
          refine ⟨sound, fun unslipped searchable => ?_, fun _ _ _ => strange⟩
          have scans : Scans document kid := by
            rcases given document outcome with cached | proper
            · exact searchable document cached
            · exact scans_of_key_set (proper unslipped) kid
          obtain ⟨key, same⟩ := scans
          rw [found] at same
          cases same
      | ok key =>
          have scans (other : Dict Json) (cached : Taken settings outside world other) : Scans other kid := by
            rw [only outcome cached]
            exact ⟨key, found⟩
          cases key with
          | some key =>
              change Tells (authExec outside) (.ret key : Auth Json) _ _ _
              rw [tells_ret]
              refine ⟨sound, fun _ _ => ?_, fun other cached unscannable =>
                absurd (scans other cached) unscannable⟩
              rintro error ⟨⟩
          | none =>
              change Tells (authExec outside) ((Prog.perform AuthOp.invalidateJwks).bind fun _ =>
                searchAgain settings kid) _ _ _
              apply tells_perform_then rfl
              apply tells_mono (again_sought kid _ rfl _)
              rintro result log after ⟨own, rfl, sound', answered'⟩
              have cleared : Sound settings [(⟨.invalidateJwks, .ok ()⟩ : Entry)] :=
                sound_still (by simp [still])
              refine ⟨sound_append (sound_append sound cleared) sound', fun unslipped _ => ?_,
                fun other cached unscannable => absurd (scans other cached) unscannable⟩
              exact answered' ((unslipped_append _ own).mp unslipped).2

theorem promised_iff_of_sound {α : Type} {outcome : Except PyError α} {log : List Entry} {searchable : Prop}
    (sound : Sound settings log) (answered : Unslipped settings log → searchable → Answered outcome)
    (finds : Answered outcome → searchable) :
    (Answered outcome ∧ Treated settings none log) ↔ (Unslipped settings log ∧ searchable) := by
  constructor
  · rintro ⟨answers, treated⟩
    refine ⟨?_, finds answers⟩
    by_contra slipped
    obtain ⟨document, at_, answer, member, broken⟩ := sound.slipped slipped
    exact broken (treated_keeps treated member)
  · rintro ⟨unslipped, holds⟩
    exact ⟨answered unslipped holds, sound.treated unslipped none⟩

/-- A token that names no key never gets to the key sets. -/
theorem nameless_promised {α : Type} {outcome : Except PyError α} {token : String} (world : AuthWorld N)
    (answered : Answered outcome) (nameless : ∀ kid, ¬ Names settings token kid) :
    (Answered outcome ∧ Treated settings none []) ↔
      (Unslipped settings [] ∧ Searchable settings outside token world) := by
  have quiet : ∀ entry ∈ ([] : List Entry), still entry.1 = true := fun _ member => nomatch member
  exact promised_iff_of_sound (sound_still quiet) (fun _ _ => answered)
    fun _ kid _ names => absurd names (nameless kid)

/-- The verification gives claims or an `InvalidTokenError`, and caches key sets only, exactly
if no answer slipped and the cached document it takes can be searched. -/
theorem verification_answers_iff (settings : AuthSettings) (outside : AuthOutside N)
    (token audience : String) (issuers : List String) (world : AuthWorld N) :
    Tells (authExec outside) (decodeAndVerify settings token audience issuers) [] world
      fun outcome log _ => (Answered outcome ∧ Treated settings none log) ↔
        (Unslipped settings log ∧ Searchable settings outside token world) := by
  have invalid {α : Type} {error : PyError} (kind : error.kind = .invalidTokenError) :
      Answered (.error error : Except PyError α) := by
    rintro other ⟨⟩
    exact kind
  unfold decodeAndVerify
  by_cases empty : token = ""
  · simp only [Prog.require, empty, ne_eq, not_true_eq_false, if_false]
    exact nameless_promised world (invalid rfl) fun kid names => names.1 rfl
  simp only [Prog.require, empty, ne_eq, not_false_eq_true, if_true]
  cases read : settings.jose.getUnverifiedHeader token with
  | error exc =>
      refine nameless_promised world (invalid rfl) ?_
      rintro kid ⟨_, _, header, same, _⟩
      rw [read] at same
      cases same
  | ok header =>
      by_cases truthy : ((header.lookup "kid").getD .null).truthy = true
      · simp only [Except.mapError, Prog.lift, Prog.bind_eq, Prog.bind_ret, truthy, if_true]
        rw [tells_bind]
        apply tells_mono (key_sought _ world)
        rintro outcome own after ⟨sound, answered, broken⟩
        have names : Names settings token ((header.lookup "kid").getD .null) :=
          ⟨empty, truthy, header, read, rfl⟩
        -- The token names one key, so the document is searched for this one alone.
        have searches (holds : Searchable settings outside token world) (document : Dict Json)
            (taken : Taken settings outside world document) :
            Scans document ((header.lookup "kid").getD .null) := holds _ document names taken
        have finds (answers : Answered outcome) : Searchable settings outside token world := by
          rintro kid document ⟨_, _, other, same, rfl⟩ taken
          rw [read] at same
          cases same
          by_contra unscannable
          exact broken document taken unscannable answers
        cases outcome with
        | error error =>
            refine promised_iff_of_sound sound (fun unslipped holds => ?_) fun answers => ?_
            · rintro other ⟨⟩
              exact answered unslipped (searches holds) error rfl
            · apply finds
              rintro other ⟨⟩
              exact answers error rfl
        | ok key =>
            have holds : Searchable settings outside token world := finds (by rintro error ⟨⟩)
            have done {result : Except PyError (Dict Json)} (answers : Answered result) :
                (Answered result ∧ Treated settings none
                    (own ++ [⟨.clock, .ok (outside.clock after.outside).1⟩])) ↔
                  (Unslipped settings (own ++ [⟨.clock, .ok (outside.clock after.outside).1⟩]) ∧
                    Searchable settings outside token world) := by
              have looked : Sound settings [(⟨.clock, .ok (outside.clock after.outside).1⟩ : Entry)] :=
                sound_still (by simp [still])
              exact promised_iff_of_sound (sound_append sound looked) (fun _ _ => answers) fun _ => holds
            apply tells_perform_then rfl
            cases decoded : settings.jose.decode token (.jwk key) (expectedOf issuers audience)
                (Storage.unixSeconds (outside.clock after.outside).1) with
            | error exc =>
                change Tells (authExec outside) (.raise (decodeError exc) : Auth (Dict Json)) _ _ _
                rw [tells_raise]
                apply done
                apply invalid
                unfold decodeError
                split <;> rfl
            | ok claims =>
                simp only [Prog.bind_ret, Prog.pure_eq]
                split
                · rw [Prog.bind_ret, tells_ret]
                  apply done
                  rintro error ⟨⟩
                · rw [Prog.bind_raise, tells_raise]
                  exact done (invalid rfl)
      · simp only [Except.mapError, Prog.lift, Prog.bind_eq, Prog.bind_ret, truthy]
        refine nameless_promised world (invalid rfl) ?_
        rintro kid ⟨_, named, other, same, rfl⟩
        rw [read] at same
        cases same
        exact truthy named

/-! An endpoint that answers with a number for `keys`. -/

def fiveKeys : HttpResponse := { status := 200, text := "", json := .ok (.obj [("keys", .int 5)]) }

def fiveOutside : AuthOutside Unit := { stillAuth with fetch := fun _ state => (.ok fiveKeys, state) }

def coldWorld : AuthWorld Unit :=
  ⟨.empty, { warmProcess with jwks := ⟨none, 0, 0, false⟩ }, ()⟩

def verification : Auth (Dict Json) :=
  decodeAndVerify sampleAuth "full" "lehen-hub" ["https://id/realms/lehen"]

/-- The world after the first verification. -/
def poisoned : AuthWorld Unit := (verification.run (authExec fiveOutside) coldWorld).2

/-- The answer is cached, no window opens, and the next verification fails without a request. -/
theorem five_keys_cached :
    (verification.run (authExec fiveOutside) coldWorld).1 =
        .error ⟨.typeError, "object of type \x27int\x27 has no len()"⟩ ∧
      poisoned.process.jwks.keys = some (Dict.ofList [("keys", .int 5)]) ∧
        poisoned.process.jwks.negativeUntil = 0 ∧
          (verification.run (authExec fiveOutside) poisoned).1 =
            .error ⟨.typeError, "\x27int\x27 object is not iterable"⟩ ∧
              (verification.trace (authExec fiveOutside) poisoned).length = 2 ∧
                ¬ (Answered (verification.run (authExec fiveOutside) coldWorld).1 ∧
                  Treated sampleAuth none (verification.trace (authExec fiveOutside) coldWorld)) := by
  refine ⟨rfl, rfl, rfl, rfl, rfl, ?_⟩
  rintro ⟨answered, _⟩
  have strange := answered ⟨.typeError, "object of type \x27int\x27 has no len()"⟩ rfl
  cases strange

end Lehen.KeySets
