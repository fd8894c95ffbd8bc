import Lehen.Acting
import Lehen.Admission

/-!
What the gates let through while others are served. The keys they look up are the ones
the cache had in the beginning or the endpoint answered with, and no request creates or
re-keys a local admin.
-/

namespace Lehen.Admitting

open AuthState Jwks Jwt LocalAdminService Dependencies Verification Admission
open Prog (gains_ret gains_raise gains_lift gains_require gains_perform_then gains_only assures_bind
  assures_handle assures_perform_then assures_mono only_bind only_perform only_handle only_mono)

variable {N : Type} {settings : AuthSettings} {outside : AuthOutside N}

/-- A local admin keeps name and password, and is not enabled again. -/
structure SameAdmin (before after : LocalAdminRow) : Prop where
  username : after.username = before.username
  passwordHash : after.passwordHash = before.passwordHash
  enabled : after.enabled = true → before.enabled = true

/-- Where what the gates rely on comes from. -/
structure Onward (settings : AuthSettings) (outside : AuthOutside N) (before after : AuthWorld N) : Prop where
  keys : ∀ jwks, after.process.jwks.keys = some jwks → Published settings outside before jwks
  admins : List.Forall₂ SameAdmin before.store.localAdmins after.store.localAdmins

theorem same_admin_refl (row : LocalAdminRow) : SameAdmin row row := ⟨rfl, rfl, id⟩

theorem same_admin_trans {first second third : LocalAdminRow} (left : SameAdmin first second)
    (right : SameAdmin second third) : SameAdmin first third where
  username := right.username.trans left.username
  passwordHash := right.passwordHash.trans left.passwordHash
  enabled enabled := left.enabled (right.enabled enabled)

theorem same_admins_trans {first second third : List LocalAdminRow}
    (left : List.Forall₂ SameAdmin first second) (right : List.Forall₂ SameAdmin second third) :
    List.Forall₂ SameAdmin first third := by
  induction left generalizing third with
  | nil => exact right
  | cons same _ ih =>
      cases right with
      | cons same' rest => exact .cons (same_admin_trans same same') (ih rest)

instance : IsPreorder (AuthWorld N) (Onward settings outside) where
  refl world := ⟨fun _ held => .inl held, List.forall₂_same.mpr fun row _ => same_admin_refl row⟩
  trans first second third left right := by
    constructor
    · intro jwks held
      rcases right.keys jwks held with earlier | fetched
      · exact left.keys jwks earlier
      · exact .inr fetched
    · exact same_admins_trans left.admins right.admins

/-- What a request may await. The CLI alone writes whole admin documents. -/
def Serving (settings : AuthSettings) (outside : AuthOutside N) : AuthOp → Prop
  | .store (.insertLocalAdmin _) | .store (.replaceLocalAdmin _ _) => False
  | .keepJwks keys _ => Fetched settings outside keys
  | _ => True

theorem set_same (username : String) (set : LocalAdminRow → LocalAdminRow) (rows : List LocalAdminRow)
    (same : ∀ row, SameAdmin row (set row)) :
    List.Forall₂ SameAdmin rows (setWhereUsername username set rows) := by
  unfold setWhereUsername
  rw [List.forall₂_map_right_iff, List.forall₂_same]
  intro row _
  split
  · exact same row
  · exact same_admin_refl row

theorem onward_of_serving (op : AuthOp) (world : AuthWorld N) (serving : Serving settings outside op) :
    Onward settings outside world (authExec outside op world).2 := by
  have still : Onward settings outside world world := refl_of _ world
  cases op with
  | store statement =>
      have kept : (authExec outside (.store statement) world).2.process = world.process := by
        simp only [authExec]
        split <;> rfl
      refine ⟨fun jwks held => .inl (kept ▸ held), ?_⟩
      rcases auth_store outside statement world with ⟨error, _, same⟩ | ⟨_, same⟩
      · rw [same]
        exact still.admins
      · rw [same]
        cases statement with
        | insertLocalAdmin doc => exact serving.elim
        | replaceLocalAdmin username doc => exact serving.elim
        | disableLocalAdmin username ts who =>
            exact set_same _ _ _ fun row => ⟨rfl, rfl, fun enabled => by cases enabled⟩
        | setFailedAttempts username attempts lockedUntil => exact set_same _ _ _ fun row => ⟨rfl, rfl, id⟩
        | setSuccessfulLogin username ts => exact set_same _ _ _ fun row => ⟨rfl, rfl, id⟩
        | _ => exact still.admins
  | fetch url =>
      rcases answered : outside.fetch url world.outside with ⟨_ | response, next⟩
      all_goals
        simp only [authExec, answered]
        exact ⟨still.keys, still.admins⟩
  | keepJwks keys fetchedAt =>
      refine ⟨fun jwks held => .inr ?_, still.admins⟩
      obtain rfl := Option.some.inj held
      exact serving
  -- What was dropped is in no later cache, so there is nothing to account for.
  | invalidateJwks => exact ⟨fun jwks held => (by cases held), still.admins⟩
  | _ => exact ⟨still.keys, still.admins⟩

/-! The keys of the cache. -/

/-- Whatever is served in between, the program returns what meets `post`. -/
abbrev Vouches (settings : AuthSettings) (outside : AuthOutside N) (origin : AuthWorld N) {α : Type}
    (post : α → Prop) (body : Auth α) : Prop :=
  body.Assures (authExec outside) (Onward settings outside) origin post

variable {origin : AuthWorld N}

theorem gains_serving {α : Type} {post : α → Prop} {op : AuthOp} {next : op.Res → Auth α} {state : AuthWorld N}
    (serving : Serving settings outside op)
    (answered : ∀ now value, Onward settings outside state now → (authExec outside op now).1 = .ok value →
      (next value).Gains (authExec outside) (Onward settings outside) post (authExec outside op now).2) :
    ((Prog.perform op).bind next).Gains (authExec outside) (Onward settings outside) post state :=
  gains_perform_then (fun now => onward_of_serving op now serving) answered

theorem vouches_perform_then {α : Type} {post : α → Prop} {op : AuthOp} {next : op.Res → Auth α}
    (serving : Serving settings outside op)
    (answered : ∀ now value, Onward settings outside origin now → (authExec outside op now).1 = .ok value →
      Vouches settings outside origin post (next value)) :
    Vouches settings outside origin post ((Prog.perform op).bind next) :=
  assures_perform_then (fun now => onward_of_serving op now serving) answered

theorem vouches_refuse {α : Type} {post : α → Prop} (now : Int) (text : String) (state : AuthWorld N) :
    (refuse now text : Auth α).Gains (authExec outside) (Onward settings outside) post state := by
  refine gains_serving trivial ?_
  exact fun _ _ _ _ => gains_raise

theorem fetched_response {url : String} {world : AuthWorld N} {response : Storage.HttpResponse}
    (answer : (authExec outside (.fetch url) world).1 = .ok response) :
    (outside.fetch url world.outside).1 = .ok response := by
  rcases reached : outside.fetch url world.outside with ⟨text | other, next⟩
  · simp only [authExec, reached] at answer
    cases answer
  · simp only [authExec, reached] at answer
    exact congrArg Except.ok (Except.ok.inj answer)

theorem vouches_payload : Vouches settings outside origin
    (fun payload => ∀ fields, payload = .obj fields → Fetched settings outside (Dict.ofList fields))
    (fetchPayload settings) := by
  unfold fetchPayload
  refine vouches_perform_then trivial ?_
  intro now response _ answer
  apply assures_bind (fun state _ => gains_require)
  intro _ _ state _
  have reached := fetched_response answer
  cases decoded : response.json with
  | ok payload =>
      apply gains_ret
      rintro fields rfl
      exact ⟨now.outside, response, fields, reached, decoded, rfl⟩
  | error text => exact gains_raise

theorem vouches_refetch :
    Vouches settings outside origin (Published settings outside origin) (refetch settings) := by
  unfold refetch
  refine vouches_perform_then trivial ?_
  intro _ now _ _
  refine vouches_perform_then trivial ?_
  intro state jwks later answer
  cases answer
  cases fresh : freshKeys settings state.process.jwks now with
  | some keys => exact fun _ _ => gains_ret (later.keys keys (fresh_held fresh))
  | none =>
      dsimp only
      apply assures_bind (assures_handle vouches_payload ?_)
      · intro payload fetched
        cases document : asDict payload with
        | none => exact fun state _ => vouches_refuse _ _ state
        | some document' =>
            have known : Fetched settings outside document' := by
              cases payload with
              | obj fields =>
                  obtain rfl := Option.some.inj document
                  exact fetched fields rfl
              | _ => cases document
            dsimp only
            cases document'.lookup "keys" with
            | none => exact fun state _ => vouches_refuse _ _ state
            | some keys =>
                refine vouches_perform_then known ?_
                intro _ _ _ _
                apply assures_bind (fun _ _ => gains_lift fun _ _ => trivial)
                exact fun _ _ _ _ => gains_ret (.inr known)
      · intro error state
        split
        · exact vouches_refuse _ _ state
        · exact gains_raise

theorem vouches_keys :
    Vouches settings outside origin (Published settings outside origin) (getKeys settings) := by
  unfold getKeys
  refine vouches_perform_then trivial ?_
  intro _ now _ _
  refine vouches_perform_then trivial ?_
  intro state jwks later answer
  cases answer
  cases fresh : freshKeys settings state.process.jwks now with
  | some keys => exact fun _ _ => gains_ret (later.keys keys (fresh_held fresh))
  | none =>
      dsimp only
      apply assures_bind (fun _ _ => gains_require)
      intro _ _
      unfold locked
      refine vouches_perform_then trivial ?_
      intro _ _ _ _
      apply assures_bind (assures_handle vouches_refetch ?_)
      · intro keys published
        refine vouches_perform_then trivial ?_
        exact fun _ _ _ _ _ _ => gains_ret published
      · intro error state
        refine gains_serving trivial ?_
        exact fun _ _ _ _ => gains_raise

theorem vouches_keys_or_invalid :
    Vouches settings outside origin (Published settings outside origin) (keysOrInvalid settings) := by
  apply assures_handle vouches_keys
  intro error state
  split <;> exact gains_raise

/-- The key for a `kid` is in a published document. -/
theorem vouches_key (kid : Json) : Vouches settings outside origin
    (fun key => ∃ jwks, Published settings outside origin jwks ∧ findKey jwks kid = .ok (some key))
    (keyFor settings kid) := by
  unfold keyFor
  apply assures_bind vouches_keys_or_invalid
  intro jwks published
  apply assures_bind (fun _ _ => gains_lift fun _ same => same)
  intro search searched
  cases search with
  | some key => exact fun _ _ => gains_ret ⟨jwks, published, searched⟩
  | none =>
      -- The second search is in what is cached by then, perhaps by another request.
      refine vouches_perform_then trivial ?_
      intro _ _ _ _
      apply assures_bind vouches_keys_or_invalid
      intro jwks published
      apply assures_bind (fun _ _ => gains_lift fun _ same => same)
      intro search searched
      cases search with
      | some key => exact fun _ _ => gains_ret ⟨jwks, published, searched⟩
      | none => exact fun _ _ => gains_raise

/-! The verifiers. -/

/-- The user of a token that a published key verifies. -/
structure Vouched (settings : AuthSettings) (outside : AuthOutside N) (origin : AuthWorld N) (token : String)
    (user : VerifiedUser) : Prop where
  foreign : ¬ LocalIssuer settings.jose token
  verified : ∃ jwks instant, Published settings outside origin jwks ∧
    VerifiedAgainst settings jwks token instant user.rawClaims
  sub : user.sub = textOf user.rawClaims "sub"
  username : user.username = textOf user.rawClaims "preferred_username"
  realmRoles : user.realmRoles = settings.provider.extractRealmRoles user.rawClaims
  identitySource : user.identitySource = settings.provider.issuer

/-- The user of a token that the signing key of the Hub verifies, for its admin surface. -/
structure Signed (settings : AuthSettings) (token : String) (user : VerifiedUser) : Prop where
  issuer : LocalIssuer settings.jose token
  decoded : ∃ admin instant, settings.localAdmin = some admin ∧
    settings.jose.decode token (.secret admin.signingKey) localExpected (Storage.unixSeconds instant) =
      .ok user.rawClaims
  scope : user.rawClaims.lookup "scope" = some (.str localScopeAdmin)
  sub : user.sub = textOf user.rawClaims "sub"
  username : user.username = textOf user.rawClaims "preferred_username"

theorem vouches_claims (token : String) : Vouches settings outside origin
    (fun claims => token ≠ "" ∧ ∃ jwks instant, Published settings outside origin jwks ∧
      VerifiedAgainst settings jwks token instant claims)
    (decodeAndVerify settings token settings.provider.audience settings.provider.acceptedIssuers) := by
  unfold decodeAndVerify
  apply assures_bind (fun _ _ => gains_require)
  intro _ filled
  apply assures_bind (fun _ _ => gains_lift fun _ same => same)
  intro header read
  apply assures_bind (fun _ _ => gains_require)
  intro _ _
  apply assures_bind (vouches_key _)
  rintro key ⟨jwks, published, listed⟩
  refine vouches_perform_then trivial ?_
  intro _ instant _ _
  apply assures_bind (fun _ _ => gains_lift fun _ same => same)
  intro claims decoded
  apply assures_bind (fun _ _ => gains_require)
  intro _ accepted
  refine fun _ _ => gains_ret ⟨filled, jwks, instant, published, ?_, accepted⟩
  exact ⟨header, key, map_error_ok read, listed, map_error_ok decoded⟩

/-- A token that is routed to the provider's verifier. -/
theorem vouches_siam {token : String} {issuer : Option String}
    (peeked : peekUnverifiedIssuer settings token = .ok issuer) (apart : issuer ≠ some localIssuer) :
    Vouches settings outside origin (Vouched settings outside origin token)
      (verifySiamToken settings token) := by
  apply assures_bind (assures_handle (vouches_claims token) ?_)
  · rintro claims ⟨filled, verified⟩
    refine fun _ _ => gains_ret ⟨fun own => ?_, verified, rfl, rfl, rfl, rfl⟩
    rw [peek_of_local filled own] at peeked
    exact apart (Except.ok.inj peeked).symm
  · intro error state
    split <;> exact gains_raise

theorem vouches_local {token : String} {admin : LocalAdminSettings}
    (peeked : peekUnverifiedIssuer settings token = .ok (some localIssuer))
    (configured : settings.localAdmin = some admin) :
    Vouches settings outside origin
      (fun user => Signed settings token user ∧ user.identitySource = localIssuer)
      (verifyLocalToken settings token admin) := by
  have decodes : Vouches settings outside origin
      (fun claims => (∃ instant, settings.jose.decode token (.secret admin.signingKey) localExpected
        (Storage.unixSeconds instant) = .ok claims) ∧
          claims.lookup "scope" = some (.str localScopeAdmin))
      (decodeLocalAdminToken settings token admin.signingKey) := by
    apply assures_bind (fun _ _ => gains_require)
    intro _ _
    refine vouches_perform_then trivial ?_
    intro _ instant _ _
    apply assures_bind (fun _ _ => gains_lift fun _ same => same)
    intro claims decoded
    apply assures_bind (fun _ _ => gains_require)
    intro _ allowed
    exact fun _ _ => gains_ret ⟨⟨instant, map_error_ok decoded⟩, scope_of_admin allowed⟩
  apply assures_bind (assures_handle decodes ?_)
  · rintro claims ⟨⟨instant, decoded⟩, scope⟩
    refine fun _ _ => gains_ret ⟨⟨local_of_peek peeked, ?_, scope, rfl, rfl⟩, rfl⟩
    exact ⟨admin, instant, configured, decoded⟩
  · intro error state
    split <;> exact gains_raise

/-! The gates. -/

/-- The user surface lets in whom the provider vouches for. -/
def UserOf (settings : AuthSettings) (outside : AuthOutside N) (origin : AuthWorld N)
    (request : Dependencies.Request) (user : VerifiedUser) : Prop :=
  ∃ token, extractBearerToken request = .ok token ∧ Vouched settings outside origin token user

/-- The admin surface lets in the admins among them, and those the Hub signed for. -/
def AdminOf (settings : AuthSettings) (outside : AuthOutside N) (origin : AuthWorld N)
    (request : Dependencies.Request) (user : VerifiedUser) : Prop :=
  ∃ token, extractBearerToken request = .ok token ∧
    (Signed settings token user ∨
      Vouched settings outside origin token user ∧ settings.provider.adminRole ∈ user.realmRoles)

theorem vouches_user (request : Dependencies.Request) : Vouches settings outside origin
    (UserOf settings outside origin request) (verifyUserSurfaceToken settings request) := by
  apply assures_bind (fun _ _ => gains_lift fun _ same => same)
  intro token extracted
  apply assures_bind (fun _ _ => gains_lift fun _ same => same)
  intro issuer peeked
  apply assures_bind (fun _ _ => gains_require)
  intro _ apart
  exact assures_mono (vouches_siam peeked apart) fun user vouched => ⟨token, extracted, vouched⟩

section Serving

variable {username : String}

theorem serving_of_idle {β : Type} {body : Auth β} (serving : body.Only (Serving settings outside))
    {α : Type} {post : α → Prop} {next : β → Auth α}
    (rest : ∀ value, Vouches settings outside origin post (next value)) :
    Vouches settings outside origin post (body.bind next) :=
  assures_bind (fun _ _ => gains_only serving fun op now allowed => onward_of_serving op now allowed)
    fun value _ => rest value

theorem serving_record (clientIp userAgent : String) (outcome : LoginOutcome) (requestId : Option String) :
    (recordLoginEvent username clientIp userAgent outcome requestId).Only (Serving settings outside) := by
  apply only_bind (only_perform trivial)
  intro id
  apply only_bind (only_perform trivial)
  intro ts
  refine only_bind ?_ fun _ => only_perform trivial
  unfold requestIdOr
  split
  · split
    · exact only_perform trivial
    · trivial
  · exact only_perform trivial

theorem serving_fetch : (fetchRow username).Only (Serving settings outside) :=
  only_bind (only_perform trivial) fun _ => trivial

theorem serving_check (siamUsername : String) :
    (maybeAutoDisableLocalAdmin settings siamUsername).Only (Serving settings outside) := by
  apply only_bind (only_perform trivial)
  intro state
  split
  · trivial
  · split
    · exact only_perform trivial
    · refine only_bind ?_ fun _ => only_perform trivial
      apply only_bind serving_fetch
      intro row
      split
      · trivial
      · split
        · trivial
        · apply only_bind (only_perform trivial)
          intro now
          apply only_bind (only_perform trivial)
          exact fun _ => only_bind (serving_record ..) fun _ => trivial

theorem serving_hit (limit : Nat) (key : String) : (hitAndCheck limit key).Only (Serving settings outside) := by
  apply only_bind (only_perform trivial)
  intro now
  apply only_bind (only_perform trivial)
  intro bucket
  exact only_bind (only_perform trivial) fun _ => trivial

theorem vouches_refuse_login {α : Type} {post : α → Prop} (request : LoginRequest) (outcome : LoginOutcome) :
    Vouches settings outside origin post (refuseLogin request outcome : Auth α) :=
  serving_of_idle (serving_record ..) fun _ _ _ => gains_raise

end Serving

/-! The local login. -/

theorem same_admin_of_mem {before after : List LocalAdminRow} (same : List.Forall₂ SameAdmin before after)
    {row : LocalAdminRow} (member : row ∈ after) : ∃ earlier ∈ before, SameAdmin earlier row := by
  induction same with
  | nil => cases member
  | @cons earlier later _ _ own _ ih =>
      rcases List.mem_cons.mp member with rfl | rest
      · exact ⟨earlier, List.mem_cons_self, own⟩
      · obtain ⟨found, there, own'⟩ := ih rest
        exact ⟨found, List.mem_cons_of_mem _ there, own'⟩

/-- What is selected was there at the origin, up to what requests may change. -/
theorem vouches_row (username : String) : Vouches settings outside origin
    (fun found => ∀ row, found = some row →
      row.username = username ∧ ∃ earlier ∈ origin.store.localAdmins, SameAdmin earlier row)
    (fetchRow username) := by
  refine vouches_perform_then trivial fun now rows later answer _ _ => gains_ret ?_
  intro row first
  rcases auth_store outside (.selectLocalAdmin username) now with ⟨error, failed, _⟩ | ⟨selected, _⟩
  · rw [failed] at answer
    cases answer
  · rw [selected] at answer
    obtain rfl := Except.ok.inj answer
    obtain ⟨member, named⟩ := List.mem_filter.mp (List.mem_of_mem_head? first)
    exact ⟨of_decide_eq_true named, same_admin_of_mem later.admins member⟩

/-- The password is that of an admin who was enabled. -/
def Knows (settings : AuthSettings) (admins : List LocalAdminRow) (username password : String) : Prop :=
  ∃ row ∈ admins, row.username = username ∧ row.enabled = true ∧
    verifyPassword settings password row.passwordHash = true

theorem vouches_login (admin : LocalAdminSettings) (request : LoginRequest) :
    Vouches settings outside origin
      (fun _ => Knows settings origin.store.localAdmins request.username request.password)
      (login settings admin request) := by
  unfold login
  apply serving_of_idle (serving_hit _ _)
  intro ipAllowed
  split
  · exact vouches_refuse_login request _
  apply serving_of_idle (serving_hit _ _)
  intro userAllowed
  split
  · exact vouches_refuse_login request _
  apply assures_bind (vouches_row request.username)
  intro found known
  refine vouches_perform_then trivial fun _ now _ _ => ?_
  cases found with
  | none => exact vouches_refuse_login request _
  | some row =>
      obtain ⟨named, earlier, there, same⟩ := known row rfl
      dsimp only
      split
      · exact vouches_refuse_login request _
      · next enabled =>
          split
          · exact vouches_refuse_login request _
          · split
            · exact vouches_perform_then trivial fun _ _ _ _ => vouches_refuse_login request _
            · next matching =>
                have knows : Knows settings origin.store.localAdmins request.username request.password := by
                  refine ⟨earlier, there, same.username.symm.trans named, ?_, ?_⟩
                  · exact same.enabled (Bool.eq_true_of_not_eq_false enabled)
                  · rw [← same.passwordHash]
                    exact Bool.eq_true_of_not_eq_false matching
                refine vouches_perform_then trivial fun _ _ _ _ => ?_
                apply serving_of_idle
                · exact only_bind (only_perform trivial) fun _ => trivial
                · intro token
                  apply serving_of_idle (serving_record ..)
                  exact fun _ => vouches_perform_then trivial fun _ _ _ _ _ _ => gains_ret knows

/-- A token is handed out for the password of an admin who was enabled. -/
theorem vouches_local_login (body : Routes.LocalLoginRequest) (clientIp userAgent requestId : String) :
    Vouches settings outside origin
      (fun _ => Knows settings origin.store.localAdmins body.username body.password)
      (Routes.localLogin settings body clientIp userAgent requestId) := by
  unfold Routes.localLogin AutoDisable.localLogin
  apply serving_of_idle (Acting.only_check _ _)
  intro _
  apply serving_of_idle (Acting.only_check _ _)
  intro _
  split
  · exact fun _ _ => gains_raise
  · apply assures_bind (assures_handle (vouches_login _ _) ?_)
    · exact fun _ knows => vouches_perform_then trivial fun _ _ _ _ _ _ => gains_ret knows
    · intro error state
      split <;> exact gains_raise

theorem vouches_admin (request : Dependencies.Request) : Vouches settings outside origin
    (AdminOf settings outside origin request) (requireAdmin settings request) := by
  have surface : Vouches settings outside origin
      (fun user => ∃ token, extractBearerToken request = .ok token ∧
        (Signed settings token user ∧ user.identitySource = localIssuer ∨
          Vouched settings outside origin token user)) (verifyAdminSurfaceToken settings request) := by
    apply assures_bind (fun _ _ => gains_lift fun _ same => same)
    intro token extracted
    apply assures_bind (fun _ _ => gains_lift fun _ same => same)
    intro issuer peeked
    split
    · next own =>
        subst own
        cases configured : settings.localAdmin with
        | none => exact fun _ _ => gains_raise
        | some admin =>
            apply assures_mono (vouches_local peeked configured)
            exact fun user signed => ⟨token, extracted, .inl signed⟩
    · next apart =>
        apply assures_mono (vouches_siam peeked apart)
        exact fun user vouched => ⟨token, extracted, .inr vouched⟩
  apply assures_bind surface
  rintro user ⟨token, extracted, known⟩
  split
  · next foreign =>
      apply assures_bind (fun _ _ => gains_require)
      intro _ role
      apply serving_of_idle (serving_check _)
      intro _
      rcases known with ⟨_, source⟩ | vouched
      · exact absurd source foreign
      · exact fun _ _ => gains_ret ⟨token, extracted, .inr ⟨vouched, role⟩⟩
  · next own =>
      rcases known with ⟨signed, _⟩ | vouched
      · exact fun _ _ => gains_ret ⟨token, extracted, .inl signed⟩
      · exact absurd (vouched.identitySource.symm.trans (not_not.mp own)) (foreign_issuer settings)

end Lehen.Admitting
