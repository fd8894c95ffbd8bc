import Lehen.Dependencies
import Lehen.JsonText

/-!
What a token that was accepted went through, and what its claims promise: the
library checks a claim only where the token has it.
-/

namespace Lehen.Verification

open AuthState Jwt Dependencies IdentityProvider
open Prog (run_bind_ok run_lift_ok run_require_ok run_handle_ok trace_perform trace_first trace_then
  trace_handle)

variable {N : Type} {settings : AuthSettings} {outside : AuthOutside N}

theorem map_error_ok {ε δ α : Type} {outcome : Except ε α} {value : α} {wrap : ε → δ}
    (same : outcome.mapError wrap = .ok value) : outcome = .ok value := by
  cases outcome with
  | error error => cases same
  | ok other => exact congrArg Except.ok (Except.ok.inj same)

/-- The claims of a token that was verified, and the instant it was verified at. -/
structure Verified (settings : AuthSettings) (token audience : String) (issuers : List String)
    (instant : Storage.Time) (claims : Dict Json) : Prop where
  decoded : ∃ key, settings.jose.decode token (.jwk key) (expectedOf issuers audience)
    (Storage.unixSeconds instant) = .ok claims
  issuer : 1 < issuers.length → issuerText claims ∈ issuers

theorem verified_of_run {token audience : String} {issuers : List String} {world after : AuthWorld N}
    {claims : Dict Json}
    (returned : (decodeAndVerify settings token audience issuers).run (authExec outside) world =
      (.ok claims, after)) :
    ∃ instant, Verified settings token audience issuers instant claims ∧
      ⟨.clock, .ok instant⟩ ∈
        (decodeAndVerify settings token audience issuers).trace (authExec outside) world := by
  obtain ⟨_, _, filled, rest⟩ := run_bind_ok returned
  obtain ⟨header, _, read, rest⟩ := run_bind_ok rest
  obtain ⟨_, _, named, rest⟩ := run_bind_ok rest
  obtain ⟨key, _, found, rest⟩ := run_bind_ok rest
  obtain ⟨instant, _, ticked, rest⟩ := run_bind_ok rest
  obtain ⟨decoded, _, same, rest⟩ := run_bind_ok rest
  obtain ⟨_, _, accepted, last⟩ := run_bind_ok rest
  cases last
  refine ⟨instant, ⟨⟨key, map_error_ok (run_lift_ok same).1⟩, (run_require_ok accepted).1⟩, ?_⟩
  -- The clock is read after the checks of the header and the search for the key.
  exact trace_then filled (trace_then read (trace_then named (trace_then found
    (trace_first (trace_perform ticked)))))

/-- The user of a token of the identity provider. -/
structure SiamUser (settings : AuthSettings) (token : String) (instant : Storage.Time)
    (user : VerifiedUser) : Prop where
  verified : Verified settings token settings.provider.audience settings.provider.acceptedIssuers
    instant user.rawClaims
  sub : user.sub = textOf user.rawClaims "sub"
  realmRoles : user.realmRoles = settings.provider.extractRealmRoles user.rawClaims
  identitySource : user.identitySource = settings.provider.issuer

theorem siam_user_of_run {token : String} {world after : AuthWorld N} {user : VerifiedUser}
    (returned : (verifySiamToken settings token).run (authExec outside) world = (.ok user, after)) :
    ∃ instant, SiamUser settings token instant user ∧
      ⟨.clock, .ok instant⟩ ∈ (verifySiamToken settings token).trace (authExec outside) world := by
  obtain ⟨claims, between, handled, last⟩ := run_bind_ok returned
  cases last
  have verified := run_handle_ok handled fun error between ⟨value, after, raised⟩ => by
    split at raised <;> cases raised
  obtain ⟨instant, checked, seen⟩ := verified_of_run verified
  exact ⟨instant, ⟨checked, rfl, rfl, rfl⟩, trace_first (trace_handle seen)⟩

/-! What a token promises. -/

/-- The verified claims say who the user is, for whom the token is, who issued
it, and that it has not expired when it is checked. -/
structure Trustworthy (provider : Provider) (instant : Storage.Time) (user : VerifiedUser) : Prop where
  expiry : ∃ value seconds, user.rawClaims.lookup "exp" = some value ∧ value.toInt = .ok seconds ∧
    Storage.unixSeconds instant ≤ seconds
  audience : ∃ value, user.rawClaims.lookup "aud" = some value ∧
    (value = .str provider.audience ∨ ∃ items, value = .arr items ∧ .str provider.audience ∈ items)
  issuer : ∃ issuer ∈ provider.acceptedIssuers, user.rawClaims.lookup "iss" = some (.str issuer)
  subject : user.rawClaims.lookup "sub" = some (.str user.sub)
  named : user.sub ≠ ""

/-- The token has the claims that jose checks only when they are there, and a
subject. -/
def HasClaims (jose : Jose) (token : String) : Prop :=
  ∃ payload, jose.getUnverifiedClaims token = .ok payload ∧ "exp" ∈ payload ∧ "aud" ∈ payload ∧
    ∃ sub, sub ≠ "" ∧ payload.lookup "sub" = some (.str sub)

/-- Letters that no number, `None`, `True`, `False` or container begins with. -/
def beginsText (c : Char) : Bool := c = 'h' || c = 'l'

/-- Only a string is printed as a URL, or as the name of the Hub. -/
theorem str_of_letter {value : Json} {c : Char} (letter : beginsText c = true)
    (starts : value.toStr.toList.head? = some c) : ∃ text, value = .str text := by
  have known : c = 'h' ∨ c = 'l' := by simpa [beginsText] using letter
  apply JsonText.str_of_head _ starts
  rcases known with rfl | rfl <;> decide

theorem issuer_of_verified {token : String} {instant : Storage.Time} {claims : Dict Json}
    (lawful : settings.jose.Lawful)
    (verified : Verified settings token settings.provider.audience settings.provider.acceptedIssuers
      instant claims) :
    ∃ issuer ∈ settings.provider.acceptedIssuers, claims.lookup "iss" = some (.str issuer) := by
  obtain ⟨⟨key, decoded⟩, manual⟩ := verified
  cases provider : settings.provider with
  | keycloak keycloak =>
      rw [provider] at decoded
      exact ⟨keycloak.issuer, List.mem_cons_self, lawful.issuer _ _ _ _ _ _ decoded rfl rfl⟩
  | entra entra =>
      rw [provider] at manual
      have accepted := manual Nat.one_lt_two
      have url := Provider.url_of_issuer accepted
      unfold issuerText at accepted url
      cases found : claims.lookup "iss" with
      | none =>
          rw [found] at url
          cases url
      | some value =>
          rw [found] at accepted url
          obtain ⟨text, rfl⟩ := str_of_letter (by decide) url
          exact ⟨text, accepted, rfl⟩

theorem claims_of_trustworthy {token : String} {instant other : Storage.Time} {user : VerifiedUser}
    (lawful : settings.jose.Lawful) (accepted : SiamUser settings token instant user)
    (trusted : Trustworthy settings.provider other user) : HasClaims settings.jose token := by
  obtain ⟨key, decoded⟩ := accepted.verified.decoded
  have payload := lawful.reads _ _ _ _ _ decoded
  obtain ⟨expires, _, found, _⟩ := trusted.expiry
  obtain ⟨aud, meant, _⟩ := trusted.audience
  refine ⟨user.rawClaims, payload, ?_, ?_, user.sub, trusted.named, trusted.subject⟩
  · exact AList.lookup_isSome.mp (Option.isSome_iff_exists.mpr ⟨expires, found⟩)
  · exact AList.lookup_isSome.mp (Option.isSome_iff_exists.mpr ⟨aud, meant⟩)

theorem trustworthy_of_claims {token : String} {instant : Storage.Time} {user : VerifiedUser}
    (lawful : settings.jose.Lawful) (accepted : SiamUser settings token instant user)
    (complete : HasClaims settings.jose token) : Trustworthy settings.provider instant user := by
  obtain ⟨key, decoded⟩ := accepted.verified.decoded
  obtain ⟨claims, same, expires, meant, sub, named, found⟩ := complete
  rw [lawful.reads _ _ _ _ _ decoded] at same
  obtain rfl := Except.ok.inj same
  have subject : user.sub = sub := by
    rw [accepted.sub, textOf, found]
    rfl
  constructor
  · obtain ⟨value, held⟩ := Option.isSome_iff_exists.mp (AList.lookup_isSome.mpr expires)
    obtain ⟨seconds, whole, later⟩ := lawful.expiry _ _ _ _ _ _ decoded held
    exact ⟨value, seconds, held, whole, later⟩
  · obtain ⟨value, held⟩ := Option.isSome_iff_exists.mp (AList.lookup_isSome.mpr meant)
    exact ⟨value, held, lawful.audience _ _ _ _ _ _ decoded held⟩
  · exact issuer_of_verified lawful accepted.verified
  · rw [subject]
    exact found
  · rw [subject]
    exact named

/-- The user surface goes to the verifier of the provider. -/
theorem user_surface_siam {request : Dependencies.Request} {world after : AuthWorld N} {user : VerifiedUser}
    (returned : (verifyUserSurfaceToken settings request).run (authExec outside) world =
      (.ok user, after)) :
    ∃ token instant, extractBearerToken request = .ok token ∧ SiamUser settings token instant user ∧
      ⟨.clock, .ok instant⟩ ∈ (verifyUserSurfaceToken settings request).trace (authExec outside) world := by
  obtain ⟨token, _, bearer, rest⟩ := run_bind_ok returned
  obtain ⟨issuer, _, peeked, rest⟩ := run_bind_ok rest
  obtain ⟨_, _, foreign, rest⟩ := run_bind_ok rest
  obtain ⟨instant, accepted, seen⟩ := siam_user_of_run rest
  exact ⟨token, instant, (run_lift_ok bearer).1, accepted,
    trace_then bearer (trace_then peeked (trace_then foreign seen))⟩

theorem local_user_of_run {token : String} {admin : LocalAdminSettings} {world after : AuthWorld N}
    {user : VerifiedUser}
    (returned : (verifyLocalToken settings token admin).run (authExec outside) world =
      (.ok user, after)) : user.identitySource = localIssuer := by
  obtain ⟨claims, _, _, last⟩ := run_bind_ok returned
  cases last
  rfl

/-- So does the admin surface, for a user who is not the Hub's own. -/
theorem admin_surface_siam {request : Dependencies.Request} {world after : AuthWorld N} {user : VerifiedUser}
    (returned : (verifyAdminSurfaceToken settings request).run (authExec outside) world =
      (.ok user, after)) (foreign : user.identitySource ≠ localIssuer) :
    ∃ token instant, extractBearerToken request = .ok token ∧ SiamUser settings token instant user ∧
      ⟨.clock, .ok instant⟩ ∈
        (verifyAdminSurfaceToken settings request).trace (authExec outside) world := by
  obtain ⟨token, _, bearer, rest⟩ := run_bind_ok returned
  obtain ⟨issuer, _, peeked, rest⟩ := run_bind_ok rest
  by_cases own : issuer = some localIssuer
  · simp only [own, if_true] at rest
    cases configured : settings.localAdmin with
    | none =>
        rw [configured] at rest
        cases rest
    | some admin =>
        rw [configured] at rest
        exact absurd (local_user_of_run rest) foreign
  · obtain ⟨instant, accepted, seen⟩ : ∃ instant, SiamUser settings token instant user ∧
        ⟨.clock, .ok instant⟩ ∈ (verifySiamToken settings token).trace (authExec outside) _ := by
      rw [if_neg own] at rest
      exact siam_user_of_run rest
    refine ⟨token, instant, (run_lift_ok bearer).1, accepted, trace_then bearer (trace_then peeked ?_)⟩
    rw [if_neg own]
    exact seen

/-- The claims of a user are as they should be, at an instant the program read
from the clock while it ran. -/
def Promised (settings : AuthSettings) (outside : AuthOutside N) (world : AuthWorld N)
    (body : Auth VerifiedUser) (user : VerifiedUser) : Prop :=
  ∃ instant, ⟨.clock, .ok instant⟩ ∈ body.trace (authExec outside) world ∧
    Trustworthy settings.provider instant user

/-- The token of the request has the claims. -/
def Complete (settings : AuthSettings) (request : Dependencies.Request) : Prop :=
  ∃ token, extractBearerToken request = .ok token ∧ HasClaims settings.jose token

theorem promised_iff {body : Auth VerifiedUser} {request : Dependencies.Request} {world : AuthWorld N}
    {user : VerifiedUser} (lawful : settings.jose.Lawful)
    (through : ∃ token instant, extractBearerToken request = .ok token ∧
      SiamUser settings token instant user ∧
        ⟨.clock, .ok instant⟩ ∈ body.trace (authExec outside) world) :
    Promised settings outside world body user ↔ Complete settings request := by
  obtain ⟨token, instant, bearer, accepted, seen⟩ := through
  constructor
  · rintro ⟨other, _, trusted⟩
    exact ⟨token, bearer, claims_of_trustworthy lawful accepted trusted⟩
  · rintro ⟨other, same, complete⟩
    rw [bearer] at same
    obtain rfl := Except.ok.inj same
    exact ⟨instant, seen, trustworthy_of_claims lawful accepted complete⟩

/-- Who is let in with a token of the provider has the claims that should be
checked exactly when the token has them. -/
theorem accepted_promised_iff (lawful : settings.jose.Lawful) (world : AuthWorld N)
    (request : Dependencies.Request) :
    (∀ user after, (verifyUserSurfaceToken settings request).run (authExec outside) world =
        (.ok user, after) →
      (Promised settings outside world (verifyUserSurfaceToken settings request) user ↔
        Complete settings request)) ∧
    (∀ user after, (verifyAdminSurfaceToken settings request).run (authExec outside) world =
        (.ok user, after) → user.identitySource ≠ localIssuer →
      (Promised settings outside world (verifyAdminSurfaceToken settings request) user ↔
        Complete settings request)) :=
  ⟨fun _ _ returned => promised_iff lawful (user_surface_siam returned),
    fun _ _ returned foreign => promised_iff lawful (admin_surface_siam returned foreign)⟩

/-! A token with all claims, two without them, and one of the Hub's own. -/

def sampleProvider : Provider := .keycloak { baseUrl := "https://id" }

def samplePayloads : String → Option (String × Dict Json)
  | "full" => some ("RS256", Dict.ofList
      [("iss", .str "https://id/realms/lehen"), ("exp", .int 10), ("aud", .str "lehen-hub"),
        ("sub", .str "u1"), ("realm_access", .obj [("roles", .arr [.str "lehen-admin"])])])
  | "ann" => some ("RS256", Dict.ofList
      [("iss", .str "https://id/realms/lehen"), ("preferred_username", .str "ann")])
  | "bob" => some ("RS256", Dict.ofList
      [("iss", .str "https://id/realms/lehen"), ("preferred_username", .str "bob")])
  | "own" => some ("HS256", Dict.ofList
      [("iss", .str "lehen-hub-local"), ("aud", .str "lehen-hub-admin"), ("scope", .str "admin"),
        ("sub", .str "admin"), ("exp", .int 10)])
  | _ => none

def sampleAuth : AuthSettings :=
  { jose := .ofTable samplePayloads, provider := sampleProvider, localAdmin := some { signingKey := [] }
    passwordMatches := fun hash password => hash == password, statusError := fun _ _ => "" }

/-- Nothing fails, the clocks stand still, and the endpoint is out of reach. -/
def stillAuth : AuthOutside Unit :=
  { storeFails := fun _ state => (none, state)
    fetch := fun _ state => (.error "connection refused", state)
    clock := fun state => (0, state)
    monotonic := fun state => (0, state)
    uuid4 := fun state => ("00000000-0000-4000-8000-000000000000", state)
    tokenUrlsafe := fun _ state => ("password", state)
    hashPassword := fun password state => (password, state) }

/-- A process whose cache holds the key. -/
def warmProcess : Process :=
  { jwks :=
      { keys := some (Dict.ofList [("keys", .arr [.obj [("kid", .str "k")]])])
        fetchedAt := 0, negativeUntil := 0, locked := false }
    disableState := .pending
    events := ∅ }

def warmWorld : AuthWorld Unit := ⟨.empty, warmProcess, ()⟩

def bearing (token : String) : Dependencies.Request := ⟨some ("Bearer " ++ token)⟩

/-- Tokens with neither expiry, audience nor subject are accepted, and their
users are one and the same. -/
theorem claimless_accepted :
    ∃ ann bob after after',
      (verifyUserSurfaceToken sampleAuth (bearing "ann")).run (authExec stillAuth) warmWorld =
          (.ok ann, after) ∧
        (verifyUserSurfaceToken sampleAuth (bearing "bob")).run (authExec stillAuth) warmWorld =
          (.ok bob, after') ∧
        ann.username = "ann" ∧ bob.username = "bob" ∧ ann.sub = "" ∧ bob.sub = "" ∧
        ¬ Promised sampleAuth stillAuth warmWorld (verifyUserSurfaceToken sampleAuth (bearing "ann")) ann := by
  refine ⟨_, _, _, _, rfl, rfl, rfl, rfl, rfl, rfl, ?_⟩
  rintro ⟨instant, _, trusted⟩
  exact trusted.named rfl

theorem full_promised :
    ∃ user after,
      (verifyUserSurfaceToken sampleAuth (bearing "full")).run (authExec stillAuth) warmWorld =
          (.ok user, after) ∧
        (Promised sampleAuth stillAuth warmWorld (verifyUserSurfaceToken sampleAuth (bearing "full")) user ↔
          Complete sampleAuth (bearing "full")) := by
  refine ⟨_, _, rfl, ?_⟩
  exact (accepted_promised_iff (Jose.table_lawful samplePayloads) warmWorld (bearing "full")).1 _ _ rfl

end Lehen.Verification
