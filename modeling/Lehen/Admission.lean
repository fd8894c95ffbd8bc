import Lehen.Verification

/-!
Who passes which surface. A token is routed by the issuer it claims and must
then pass the verifier of that issuer; the two surfaces share one of them.
-/

namespace Lehen.Admission

open AuthState Jwks Jwt LocalAdminService Dependencies Verification
open Prog (run_bind run_bind_ok run_lift_ok run_require_ok run_perform_ok run_handle_ok run_handle
  straight_bind straight_perform)

variable {N : Type} {settings : AuthSettings} {outside : AuthOutside N}

/-! Where the keys of a verified token come from. -/

/-- The endpoint answered with this document. -/
def Fetched (settings : AuthSettings) (outside : AuthOutside N) (jwks : Dict Json) : Prop :=
  ∃ state response fields, (outside.fetch settings.provider.jwksUrl state).1 = .ok response ∧
    response.json = .ok (.obj fields) ∧ jwks = Dict.ofList fields

/-- The cache held the document, or the endpoint answered with it. -/
def Published (settings : AuthSettings) (outside : AuthOutside N) (world : AuthWorld N)
    (jwks : Dict Json) : Prop :=
  world.process.jwks.keys = some jwks ∨ Fetched settings outside jwks

theorem fresh_held {jwks : JwksState} {now : Int} {keys : Dict Json}
    (fresh : freshKeys settings jwks now = some keys) : jwks.keys = some keys := by
  unfold freshKeys at fresh
  split at fresh
  · next held same =>
      split at fresh
      · rw [same, Option.some.inj fresh]
      · cases fresh
  · cases fresh

theorem payload_fetched {world after : AuthWorld N} {payload : Json}
    (returned : (fetchPayload settings).run (authExec outside) world = (.ok payload, after)) :
    ∃ state response, (outside.fetch settings.provider.jwksUrl state).1 = .ok response ∧
      response.json = .ok payload := by
  obtain ⟨response, between, asked, checks⟩ := run_bind_ok returned
  obtain ⟨_, _, _, rest⟩ := run_bind_ok checks
  clear checks
  have answered := run_perform_ok asked
  rcases reached : outside.fetch settings.provider.jwksUrl world.outside with ⟨text | other, next⟩
  · simp only [authExec, reached] at answered
    cases answered
  · simp only [authExec, reached] at answered
    cases answered
    refine ⟨world.outside, response, by rw [reached], ?_⟩
    cases decoded : response.json with
    | error text =>
        rw [decoded] at rest
        cases rest
    | ok value =>
        rw [decoded] at rest
        cases rest
        rfl

/-- A refused fetch returns nothing. -/
theorem refuse_raises {α : Type} (now : Int) (text : String) (state : AuthWorld N) :
    ¬ ∃ value after, (refuse now text : Auth α).run (authExec outside) state = (.ok value, after) := by
  rintro ⟨value, after, returned⟩
  obtain ⟨_, _, _, rest⟩ := run_bind_ok returned
  cases rest

theorem refetch_published {world after : AuthWorld N} {jwks : Dict Json}
    (returned : (refetch settings).run (authExec outside) world = (.ok jwks, after)) :
    Published settings outside world jwks := by
  obtain ⟨now, first, asked, rest⟩ := run_bind_ok returned
  obtain ⟨cache, second, read, rest⟩ := run_bind_ok rest
  have same := run_perform_ok asked
  have shown := run_perform_ok read
  cases same
  cases shown
  cases fresh : freshKeys settings world.process.jwks (outside.monotonic world.outside).1 with
  | some keys =>
      rw [fresh] at rest
      cases rest
      exact .inl (fresh_held fresh)
  | none =>
      rw [fresh] at rest
      obtain ⟨payload, _, handled, rest⟩ := run_bind_ok rest
      have fetched := run_handle_ok handled fun error between raised => by
        split at raised
        · exact refuse_raises _ _ _ raised
        · obtain ⟨_, _, impossible⟩ := raised
          cases impossible
      obtain ⟨state, response, reached, decoded⟩ := payload_fetched fetched
      right
      cases payload with
      | obj fields =>
          refine ⟨state, response, fields, reached, decoded, ?_⟩
          simp only [asDict] at rest
          split at rest
          · exact absurd ⟨_, _, rest⟩ (refuse_raises _ _ _)
          · obtain ⟨_, _, _, rest⟩ := run_bind_ok rest
            obtain ⟨_, _, _, rest⟩ := run_bind_ok rest
            cases rest
            rfl
      | _ => exact absurd ⟨_, _, rest⟩ (refuse_raises _ _ _)

theorem keys_published {world after : AuthWorld N} {jwks : Dict Json}
    (returned : (getKeys settings).run (authExec outside) world = (.ok jwks, after)) :
    Published settings outside world jwks := by
  obtain ⟨now, first, asked, rest⟩ := run_bind_ok returned
  obtain ⟨cache, second, read, rest⟩ := run_bind_ok rest
  have same := run_perform_ok asked
  have shown := run_perform_ok read
  cases same
  cases shown
  cases fresh : freshKeys settings world.process.jwks (outside.monotonic world.outside).1 with
  | some keys =>
      rw [fresh] at rest
      cases rest
      exact .inl (fresh_held fresh)
  | none =>
      rw [fresh] at rest
      obtain ⟨_, third, open_, rest⟩ := run_bind_ok rest
      obtain ⟨_, rfl⟩ := run_require_ok open_
      obtain ⟨_, fourth, taken, rest⟩ := run_bind_ok rest
      have held := run_perform_ok taken
      cases held
      obtain ⟨keys, fifth, handled, rest⟩ := run_bind_ok rest
      obtain ⟨_, _, _, rest⟩ := run_bind_ok rest
      cases rest
      have fetched := run_handle_ok handled fun error between raised => by
        obtain ⟨_, _, raised⟩ := raised
        obtain ⟨_, _, _, impossible⟩ := run_bind_ok raised
        cases impossible
      have found := refetch_published fetched
      exact found

theorem keys_or_invalid_published {world after : AuthWorld N} {jwks : Dict Json}
    (returned : (keysOrInvalid settings).run (authExec outside) world = (.ok jwks, after)) :
    Published settings outside world jwks := by
  apply keys_published
  apply run_handle_ok returned
  rintro error between ⟨value, last, raised⟩
  split at raised <;> cases raised

/-- The key for a `kid` is in a published document. -/
theorem key_published {kid key : Json} {world after : AuthWorld N}
    (returned : (keyFor settings kid).run (authExec outside) world = (.ok key, after)) :
    ∃ jwks, Published settings outside world jwks ∧ findKey jwks kid = .ok (some key) := by
  obtain ⟨jwks, first, read, rest⟩ := run_bind_ok returned
  obtain ⟨search, second, searched, rest⟩ := run_bind_ok rest
  obtain ⟨found, rfl⟩ := run_lift_ok searched
  cases search with
  | some known =>
      cases rest
      exact ⟨jwks, keys_or_invalid_published read, found⟩
  | none =>
      obtain ⟨_, third, dropped, rest⟩ := run_bind_ok rest
      have emptied := run_perform_ok dropped
      cases emptied
      obtain ⟨jwks', fourth, again, rest⟩ := run_bind_ok rest
      obtain ⟨search, fifth, searched, rest⟩ := run_bind_ok rest
      obtain ⟨found, rfl⟩ := run_lift_ok searched
      cases search with
      | some known =>
          cases rest
          refine ⟨jwks', ?_, found⟩
          -- What was invalidated is not served, so the endpoint was asked.
          rcases keys_or_invalid_published again with cached | fetched
          · cases cached
          · exact .inr fetched
      | none => cases rest

/-- A token that a key of the document verifies, for the configured audience and
an accepted issuer. -/
structure VerifiedAgainst (settings : AuthSettings) (jwks : Dict Json) (token : String)
    (instant : Storage.Time) (claims : Dict Json) : Prop where
  decoded : ∃ header key, settings.jose.getUnverifiedHeader token = .ok header ∧
    findKey jwks ((header.lookup "kid").getD .null) = .ok (some key) ∧
      settings.jose.decode token (.jwk key)
        (expectedOf settings.provider.acceptedIssuers settings.provider.audience)
          (Storage.unixSeconds instant) = .ok claims
  issuer : 1 < settings.provider.acceptedIssuers.length →
    issuerText claims ∈ settings.provider.acceptedIssuers

/-- The verifier of the provider's tokens returns these claims. -/
def SiamVerified (settings : AuthSettings) (outside : AuthOutside N) (world : AuthWorld N)
    (token : String) (claims : Dict Json) : Prop :=
  ∃ after, (decodeAndVerify settings token settings.provider.audience
    settings.provider.acceptedIssuers).run (authExec outside) world = (.ok claims, after)

theorem siam_verified_against {world : AuthWorld N} {token : String} {claims : Dict Json}
    (verified : SiamVerified settings outside world token claims) :
    ∃ jwks instant, Published settings outside world jwks ∧
      VerifiedAgainst settings jwks token instant claims := by
  obtain ⟨after, returned⟩ := verified
  obtain ⟨_, _, filled, rest⟩ := run_bind_ok returned
  obtain ⟨header, _, read, rest⟩ := run_bind_ok rest
  obtain ⟨_, _, named, rest⟩ := run_bind_ok rest
  obtain ⟨key, _, found, rest⟩ := run_bind_ok rest
  obtain ⟨instant, _, _, rest⟩ := run_bind_ok rest
  obtain ⟨decoded, _, same, rest⟩ := run_bind_ok rest
  obtain ⟨_, _, accepted, last⟩ := run_bind_ok rest
  cases last
  have ⟨_, still⟩ := run_require_ok filled
  have ⟨shown, still'⟩ := run_lift_ok read
  have ⟨_, still''⟩ := run_require_ok named
  obtain ⟨jwks, published, listed⟩ := key_published found
  rw [still'', still', still] at published
  refine ⟨jwks, instant, published, ⟨header, key, map_error_ok shown, listed, ?_⟩, ?_⟩
  · exact map_error_ok (run_lift_ok same).1
  · exact (run_require_ok accepted).1

/-! Routing. -/

/-- The token claims the Hub as its issuer. -/
def LocalIssuer (jose : Jose) (token : String) : Prop :=
  ∃ payload, jose.getUnverifiedClaims token = .ok payload ∧
    payload.lookup "iss" = some (.str localIssuer)

theorem local_of_peek {token : String}
    (peeked : peekUnverifiedIssuer settings token = .ok (some localIssuer)) :
    LocalIssuer settings.jose token := by
  unfold peekUnverifiedIssuer at peeked
  split at peeked
  · cases peeked
  · split at peeked
    · split at peeked <;> cases peeked
    · next payload read =>
        cases found : payload.lookup "iss" with
        | none =>
            rw [found] at peeked
            cases peeked
        | some value =>
            rw [found] at peeked
            have printed : value.toStr = localIssuer := by
              cases value with
              | null => cases peeked
              | _ => exact Option.some.inj (Except.ok.inj peeked)
            have starts : value.toStr.toList.head? = some 'l' := by
              rw [printed]
              decide
            obtain ⟨text, rfl⟩ := str_of_letter (by decide) starts
            refine ⟨payload, read, ?_⟩
            rw [found, ← printed]
            rfl

theorem peek_of_local {token : String} (filled : token ≠ "")
    (own : LocalIssuer settings.jose token) :
    peekUnverifiedIssuer settings token = .ok (some localIssuer) := by
  obtain ⟨payload, read, found⟩ := own
  simp only [peekUnverifiedIssuer, if_neg filled, read, found]
  rfl

/-- A readable token is routed somewhere. -/
theorem peek_read {token : String} {payload : Dict Json}
    (read : settings.jose.getUnverifiedClaims token = .ok payload) :
    ∃ issuer, peekUnverifiedIssuer settings token = .ok issuer := by
  unfold peekUnverifiedIssuer
  split
  · exact ⟨_, rfl⟩
  · rw [read]
    dsimp only
    split <;> exact ⟨_, rfl⟩

/-- The request carries this token. -/
structure Bears (request : Dependencies.Request) (token : String) : Prop where
  extracted : extractBearerToken request = .ok token
  filled : token ≠ ""

/-! What lets a token pass. -/

structure LocalAdmitted (settings : AuthSettings) (outside : AuthOutside N) (world : AuthWorld N)
    (token : String) : Prop where
  issuer : LocalIssuer settings.jose token
  decoded : ∃ admin claims, settings.localAdmin = some admin ∧
    settings.jose.decode token (.secret admin.signingKey) localExpected
      (Storage.unixSeconds (outside.clock world.outside).1) = .ok claims ∧
        claims.lookup "scope" = some (.str localScopeAdmin)

structure SiamAdmitted (settings : AuthSettings) (outside : AuthOutside N) (world : AuthWorld N)
    (token : String) : Prop where
  issuer : ¬ LocalIssuer settings.jose token
  verified : ∃ claims, SiamVerified settings outside world token claims ∧
    settings.provider.adminRole ∈ settings.provider.extractRealmRoles claims

theorem scope_of_admin {claims : Dict Json} (admin : isAdminScope claims = true) :
    claims.lookup "scope" = some (.str localScopeAdmin) := by
  unfold isAdminScope at admin
  split at admin
  · next scope found => rw [found, beq_iff_eq.mp admin]
  · cases admin

theorem foreign_issuer (settings : AuthSettings) : settings.provider.issuer ≠ localIssuer := by
  intro same
  have slash := IdentityProvider.Provider.slash_in_issuer
    (IdentityProvider.Provider.issuer_accepted settings.provider)
  rw [same] at slash
  exact absurd slash (by decide)

/-! The verifier of the Hub's own tokens. -/

theorem local_decoded {token : String} {admin : LocalAdminSettings} {world after : AuthWorld N}
    {user : VerifiedUser}
    (returned : (verifyLocalToken settings token admin).run (authExec outside) world =
      (.ok user, after)) :
    ∃ claims, settings.jose.decode token (.secret admin.signingKey) localExpected
        (Storage.unixSeconds (outside.clock world.outside).1) = .ok claims ∧
      claims.lookup "scope" = some (.str localScopeAdmin) := by
  obtain ⟨claims, _, handled, last⟩ := run_bind_ok returned
  have decoded := run_handle_ok handled fun error between ⟨value, after, raised⟩ => by
    split at raised <;> cases raised
  obtain ⟨_, _, filled, rest⟩ := run_bind_ok decoded
  obtain ⟨instant, _, ticked, rest⟩ := run_bind_ok rest
  obtain ⟨payload, _, read, rest⟩ := run_bind_ok rest
  obtain ⟨_, _, allowed, last⟩ := run_bind_ok rest
  have ⟨_, still⟩ := run_require_ok filled
  have answered := run_perform_ok ticked
  rw [still] at answered
  cases answered
  exact ⟨payload, map_error_ok (run_lift_ok read).1, scope_of_admin (run_require_ok allowed).1⟩

/-- The user of a token of the Hub's own. -/
def localUser (claims : Dict Json) : VerifiedUser :=
  { sub := textOf claims "sub", username := textOf claims "preferred_username", realmRoles := []
    identitySource := localIssuer, rawClaims := claims }

theorem local_returns {token : String} {admin : LocalAdminSettings} {world : AuthWorld N}
    {claims : Dict Json} (filled : token ≠ "")
    (decoded : settings.jose.decode token (.secret admin.signingKey) localExpected
      (Storage.unixSeconds (outside.clock world.outside).1) = .ok claims)
    (scope : claims.lookup "scope" = some (.str localScopeAdmin)) :
    ∃ user after, (verifyLocalToken settings token admin).run (authExec outside) world =
        (.ok user, after) ∧ user.identitySource = localIssuer := by
  have admitted : isAdminScope claims = true := by
    rw [isAdminScope, scope]
    rfl
  have verified : (decodeLocalAdminToken settings token admin.signingKey).run (authExec outside) world =
      (.ok claims, (authExec outside .clock world).2) := by
    simp only [decodeLocalAdminToken, Prog.require, if_pos filled, Prog.bind_eq, Prog.bind_ret, clock,
      run_bind, Prog.perform, Prog.run_await, authExec, Prog.run_ret, decoded, Except.mapError,
      Prog.lift, if_pos admitted, Prog.pure_eq]
  have returned : (verifyLocalToken settings token admin).run (authExec outside) world =
      (.ok (localUser claims), (authExec outside .clock world).2) := by
    rw [verifyLocalToken, Prog.bind_eq, run_bind, run_handle verified]
    rfl
  exact ⟨_, _, returned, rfl⟩

/-! The hook on the first admin login cannot fail on a reliable store. -/

theorem auth_succeeds (reliable : outside.Reliable) (op : AuthOp) (world : AuthWorld N)
    (asks : ∀ url, op ≠ .fetch url) : ∃ value, (authExec outside op world).1 = .ok value := by
  cases op with
  | store statement => exact ⟨_, (auth_reliable reliable statement world).1⟩
  | fetch url => exact absurd rfl (asks url)
  | _ => exact ⟨_, rfl⟩

/-- Everything but a request to the endpoint. -/
def Indoors (op : AuthOp) : Prop := ∀ url, op ≠ .fetch url

theorem indoors_event (username clientIp userAgent : String) (outcome : LoginOutcome)
    (requestId : Option String) :
    (recordLoginEvent username clientIp userAgent outcome requestId).Straight Indoors False := by
  apply straight_bind (straight_perform nofun)
  intro id
  apply straight_bind (straight_perform nofun)
  intro ts
  apply straight_bind
  · unfold requestIdOr
    split
    · split
      · exact straight_perform nofun
      · trivial
    · exact straight_perform nofun
  · exact fun _ => straight_perform nofun

theorem indoors_disable (siamUsername : String) :
    (maybeAutoDisableLocalAdmin settings siamUsername).Straight Indoors False := by
  apply straight_bind (straight_perform nofun)
  intro state
  split
  · trivial
  · split
    · exact straight_perform nofun
    · apply straight_bind
      · apply straight_bind
        · exact straight_bind (straight_perform nofun) fun _ => trivial
        · intro row
          split
          · trivial
          · split
            · trivial
            · apply straight_bind (straight_perform nofun)
              intro now
              apply straight_bind (straight_perform nofun)
              intro _
              exact straight_bind (indoors_event ..) fun _ => trivial
      · exact fun _ => straight_perform nofun

theorem disable_returns (reliable : outside.Reliable) (siamUsername : String) (world : AuthWorld N) :
    ∃ after, (maybeAutoDisableLocalAdmin settings siamUsername).run (authExec outside) world =
      (.ok (), after) := by
  obtain ⟨_, returned⟩ := Prog.straight_succeeds (indoors_disable siamUsername)
    fun op state indoors => auth_succeeds reliable op state indoors
  exact ⟨_, Prod.ext returned rfl⟩

/-! The two surfaces. -/

theorem siam_returns {world after : AuthWorld N} {token : String} {claims : Dict Json}
    (verified : (decodeAndVerify settings token settings.provider.audience
      settings.provider.acceptedIssuers).run (authExec outside) world = (.ok claims, after)) :
    ∃ user, (verifySiamToken settings token).run (authExec outside) world = (.ok user, after) ∧
      user.realmRoles = settings.provider.extractRealmRoles claims ∧
        user.identitySource = settings.provider.issuer := by
  have returned : (verifySiamToken settings token).run (authExec outside) world =
      (.ok
        { sub := textOf claims "sub", username := textOf claims "preferred_username"
          realmRoles := settings.provider.extractRealmRoles claims
          identitySource := settings.provider.issuer, rawClaims := claims }, after) := by
    rw [verifySiamToken, Prog.bind_eq, run_bind, run_handle verified]
    rfl
  exact ⟨_, returned, rfl, rfl⟩

theorem siam_verified_of_run {world after : AuthWorld N} {token : String} {user : VerifiedUser}
    (returned : (verifySiamToken settings token).run (authExec outside) world = (.ok user, after)) :
    SiamVerified settings outside world token user.rawClaims ∧
      user.realmRoles = settings.provider.extractRealmRoles user.rawClaims ∧
        user.identitySource = settings.provider.issuer := by
  obtain ⟨claims, between, handled, last⟩ := run_bind_ok returned
  cases last
  have verified := run_handle_ok handled fun error between ⟨value, after, raised⟩ => by
    split at raised <;> cases raised
  exact ⟨⟨after, verified⟩, rfl, rfl⟩

/-- The user surface takes tokens of the provider only. -/
theorem user_surface_foreign {request : Dependencies.Request} {token : String} {world after : AuthWorld N}
    {user : VerifiedUser} (bears : Bears request token)
    (returned : (verifyUserSurfaceToken settings request).run (authExec outside) world =
      (.ok user, after)) :
    ¬ LocalIssuer settings.jose token ∧
      SiamVerified settings outside world token user.rawClaims := by
  obtain ⟨other, _, bearer, rest⟩ := run_bind_ok returned
  obtain ⟨issuer, _, peeked, rest⟩ := run_bind_ok rest
  obtain ⟨_, _, foreign, rest⟩ := run_bind_ok rest
  have ⟨extracted, still⟩ := run_lift_ok bearer
  have ⟨read, still'⟩ := run_lift_ok peeked
  have ⟨apart, still''⟩ := run_require_ok foreign
  rw [bears.extracted] at extracted
  obtain rfl := Except.ok.inj extracted
  rw [still'', still', still] at rest
  refine ⟨?_, (siam_verified_of_run rest).1⟩
  intro own
  rw [peek_of_local bears.filled own] at read
  exact apart (Except.ok.inj read).symm

/-- What the admin surface admits a token for. -/
theorem admin_admitted {request : Dependencies.Request} {token : String} {world after : AuthWorld N}
    {user : VerifiedUser} (bears : Bears request token)
    (returned : (requireAdmin settings request).run (authExec outside) world = (.ok user, after)) :
    LocalAdmitted settings outside world token ∧ user.identitySource = localIssuer ∨
      SiamAdmitted settings outside world token ∧ user.identitySource ≠ localIssuer ∧
        settings.provider.adminRole ∈ user.realmRoles := by
  -- The call is taken apart from its end: every part of it has returned.
  obtain ⟨verified, between, surface, gate⟩ := run_bind_ok returned
  obtain ⟨other, _, bearer, rest⟩ := run_bind_ok surface
  obtain ⟨issuer, _, peeked, rest⟩ := run_bind_ok rest
  have ⟨extracted, still⟩ := run_lift_ok bearer
  have ⟨read, still'⟩ := run_lift_ok peeked
  rw [bears.extracted] at extracted
  obtain rfl := Except.ok.inj extracted
  rw [still', still] at rest
  by_cases own : issuer = some localIssuer
  · left
    simp only [own, if_true] at rest
    cases configured : settings.localAdmin with
    | none =>
        rw [configured] at rest
        cases rest
    | some admin =>
        rw [configured] at rest
        have source := local_user_of_run rest
        obtain ⟨claims, decoded, scope⟩ := local_decoded rest
        rw [if_neg (not_not_intro source)] at gate
        cases gate
        rw [own] at read
        exact ⟨⟨local_of_peek read, admin, claims, configured, decoded, scope⟩, source⟩
  · right
    rw [if_neg own] at rest
    have ⟨checked, roles, source⟩ := siam_verified_of_run rest
    have foreign : verified.identitySource ≠ localIssuer := by
      rw [source]
      exact foreign_issuer settings
    rw [if_pos foreign] at gate
    obtain ⟨_, _, role, gate⟩ := run_bind_ok gate
    obtain ⟨_, _, _, last⟩ := run_bind_ok gate
    cases last
    have ⟨held, _⟩ := run_require_ok role
    refine ⟨⟨?_, user.rawClaims, checked, ?_⟩, foreign, held⟩
    · intro same
      rw [peek_of_local bears.filled same] at read
      exact own (Except.ok.inj read).symm
    · rw [← roles]
      exact held

theorem local_passes {request : Dependencies.Request} {token : String} {world : AuthWorld N}
    (bears : Bears request token) (admitted : LocalAdmitted settings outside world token) :
    ∃ user after, (requireAdmin settings request).run (authExec outside) world = (.ok user, after) := by
  obtain ⟨issuer, admin, claims, configured, decoded, scope⟩ := admitted
  obtain ⟨user, after, returned, source⟩ := local_returns bears.filled decoded scope
  have surface : (verifyAdminSurfaceToken settings request).run (authExec outside) world =
      (.ok user, after) := by
    simp only [verifyAdminSurfaceToken, bears.extracted, peek_of_local bears.filled issuer, Prog.lift,
      Prog.bind_eq, Prog.bind_ret, if_true, configured]
    exact returned
  refine ⟨user, after, ?_⟩
  rw [requireAdmin, Prog.bind_eq, run_bind, surface]
  dsimp only
  rw [if_neg (not_not_intro source)]
  rfl

theorem siam_passes {request : Dependencies.Request} {token : String} {world : AuthWorld N}
    (reads : ∀ token key expected now claims, settings.jose.decode token key expected now = .ok claims →
      settings.jose.getUnverifiedClaims token = .ok claims) (reliable : outside.Reliable)
    (bears : Bears request token) (admitted : SiamAdmitted settings outside world token) :
    ∃ user after, (requireAdmin settings request).run (authExec outside) world = (.ok user, after) := by
  obtain ⟨foreign, claims, verified, role⟩ := admitted
  obtain ⟨_, _, _, checked⟩ := siam_verified_against verified
  obtain ⟨_, _, _, _, decoded⟩ := checked.decoded
  obtain ⟨issuer, peeked⟩ := peek_read (reads _ _ _ _ _ decoded)
  have apart : issuer ≠ some localIssuer := by
    rintro rfl
    exact foreign (local_of_peek peeked)
  obtain ⟨between, returned⟩ := verified
  obtain ⟨user, passed, roles, source⟩ := siam_returns returned
  have surface : (verifyAdminSurfaceToken settings request).run (authExec outside) world =
      (.ok user, between) := by
    simp only [verifyAdminSurfaceToken, bears.extracted, peeked, Prog.lift, Prog.bind_eq,
      Prog.bind_ret, if_neg apart]
    exact passed
  have outer : user.identitySource ≠ localIssuer := by
    rw [source]
    exact foreign_issuer settings
  have held : settings.provider.adminRole ∈ user.realmRoles := by
    rw [roles]
    exact role
  obtain ⟨after, hooked⟩ : ∃ after, (maybeAutoDisableLocalAdmin settings user.username).run
      (authExec outside) between = (.ok (), after) := disable_returns reliable user.username between
  refine ⟨user, after, ?_⟩
  rw [requireAdmin, Prog.bind_eq, run_bind, surface]
  dsimp only
  rw [if_pos outer, Prog.require, if_pos held, Prog.bind_eq, Prog.bind_ret, Prog.bind_eq, run_bind, hooked]
  rfl

/-- The user surface admits only tokens that the provider's keys verify; the
admin surface those with the admin role, and the Hub's own. -/
theorem surfaces_separate
    (reads : ∀ token key expected now claims, settings.jose.decode token key expected now = .ok claims →
      settings.jose.getUnverifiedClaims token = .ok claims) (reliable : outside.Reliable)
    (world : AuthWorld N) (request : Dependencies.Request) (token : String) (bears : Bears request token) :
    (∀ user after, (verifyUserSurfaceToken settings request).run (authExec outside) world =
        (.ok user, after) →
      ¬ LocalIssuer settings.jose token ∧ SiamVerified settings outside world token user.rawClaims) ∧
    ((∃ user after, (requireAdmin settings request).run (authExec outside) world = (.ok user, after)) ↔
      LocalAdmitted settings outside world token ∨ SiamAdmitted settings outside world token) ∧
    (∀ claims, SiamVerified settings outside world token claims →
      ∃ jwks instant, Published settings outside world jwks ∧
        VerifiedAgainst settings jwks token instant claims) ∧
    (LocalAdmitted settings outside world token → ∀ other user after,
      (verifyUserSurfaceToken settings request).run (authExec outside) other ≠ (.ok user, after)) ∧
    (∀ user after, (requireAdmin settings request).run (authExec outside) world = (.ok user, after) →
      ¬ LocalIssuer settings.jose token → settings.provider.adminRole ∈ user.realmRoles) := by
  refine ⟨fun _ _ => user_surface_foreign bears, ⟨?_, ?_⟩, fun _ => siam_verified_against, ?_, ?_⟩
  · rintro ⟨user, after, returned⟩
    rcases admin_admitted bears returned with ⟨own, _⟩ | ⟨siam, _⟩
    · exact .inl own
    · exact .inr siam
  · rintro (own | siam)
    · exact local_passes bears own
    · exact siam_passes reads reliable bears siam
  · intro own other user after returned
    exact (user_surface_foreign bears returned).1 own.issuer
  · intro user after returned foreign
    rcases admin_admitted bears returned with ⟨own, _⟩ | ⟨_, _, held⟩
    · exact absurd own.issuer foreign
    · exact held

theorem sample_surfaces_separate :
    ∃ user after, (requireAdmin sampleAuth (bearing "full")).run (authExec stillAuth) warmWorld =
        (.ok user, after) ∧ sampleAuth.provider.adminRole ∈ user.realmRoles := by
  have bears : Bears (bearing "full") "full" := ⟨rfl, by decide⟩
  have reads := (Jose.table_lawful samplePayloads).reads
  have reliable : stillAuth.Reliable := fun _ _ => rfl
  have foreign : ¬ LocalIssuer sampleAuth.jose "full" := by
    rintro ⟨payload, read, own⟩
    obtain rfl := Except.ok.inj read
    exact absurd (Json.str.inj (Option.some.inj own)) (by decide)
  have ⟨_, _, _, _, roles⟩ := @surfaces_separate Unit sampleAuth stillAuth reads reliable warmWorld
    (bearing "full") "full" bears
  exact ⟨_, _, rfl, roles _ _ rfl foreign⟩

end Lehen.Admission
