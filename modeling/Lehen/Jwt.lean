import Lehen.Jwks

/-!
`auth/jwt.py` and `auth/local_jwt.py`: tokens of the identity provider, which
are verified with the keys of its JWKS, and the Hub's own, which are verified
with the signing key.
-/

namespace Lehen

/-! `==` between JSON values. Floats are compared by their text. -/

def Json.floatEqual (left right : PyFloat) : Bool :=
  !left.isNan && !right.isNan && (left.repr == right.repr || left.isZero && right.isZero)

def Json.intFloatEqual (whole : Int) (value : PyFloat) : Bool :=
  value.repr == toString whole ++ ".0" || (whole == 0 && value.isZero)

mutual

def Json.equal : Json → Json → Bool
  | .null, .null => true
  | .bool left, .bool right => left == right
  | .bool left, .int right => (if left then 1 else 0) == right
  | .int left, .bool right => left == if right then 1 else 0
  | .int left, .int right => left == right
  | .bool left, .float right => Json.intFloatEqual (if left then 1 else 0) right
  | .float left, .bool right => Json.intFloatEqual (if right then 1 else 0) left
  | .int left, .float right => Json.intFloatEqual left right
  | .float left, .int right => Json.intFloatEqual right left
  | .float left, .float right => Json.floatEqual left right
  | .str left, .str right => left == right
  | .arr left, .arr right => Json.itemsEqual left right
  | .obj left, .obj right => left.length == right.length && Json.fieldsEqual left right
  | _, _ => false

def Json.itemsEqual : List Json → List Json → Bool
  | [], [] => true
  | left :: rest, right :: rest' => Json.equal left right && Json.itemsEqual rest rest'
  | _, _ => false

def Json.fieldsEqual : List (String × Json) → List (String × Json) → Bool
  | [], _ => true
  | (key, value) :: rest, right =>
      (match right.lookup key with
        | some other => Json.equal value other
        | none => false) && Json.fieldsEqual rest right

end

namespace Jwt

open AuthState Jwks
open Base64 (Bytes)

variable (settings : AuthSettings)

def invalidToken {α : Type} (text : String) : Auth α := throw ⟨.invalidTokenError, text⟩

/-- `iter(value)`, of what `json.loads` gives. -/
def iterate (value : Json) : Except PyError (List Json) :=
  match value with
  | .arr items => .ok items
  | .obj fields => .ok (fields.map fun field => .str field.1)
  | .str text => .ok (text.toList.map fun c => .str (String.singleton c))
  | other => .error ⟨.typeError, s!"\x27{other.typeName}\x27 object is not iterable"⟩

/-- `next((k for k in keys if k.get("kid") == kid), None)`. -/
def findKid (kid : Json) : List Json → Except PyError (Option Json)
  | [] => .ok none
  | key :: rest =>
      match key.get "kid" with
      | .error error => .error error
      | .ok own => if (own.getD .null).equal kid then .ok (some key) else findKid kid rest

def findKey (jwks : Dict Json) (kid : Json) : Except PyError (Option Json) :=
  match iterate ((jwks.lookup "keys").getD (.arr [])) with
  | .error error => .error error
  | .ok keys => findKid kid keys

/-- `try: await jwks_cache.get_keys(...) except JWKSFetchError`. -/
def keysOrInvalid : Auth (Dict Json) :=
  (getKeys settings).handle fun exc =>
    if exc.kind = .jwksFetchError then invalidToken s!"cannot validate token: {exc.text}" else throw exc

/-- jose takes one issuer only, so several are checked by hand after it. -/
def expectedOf (issuers : List String) (audience : String) : Expected :=
  { algorithms := ["RS256"]
    audience
    issuer := if issuers.length = 1 then issuers.head? else none
    verifyIss := issuers.length = 1 }

def decodeError (exc : JoseError) : PyError :=
  match exc.kind with
  | .expiredSignature => ⟨.invalidTokenError, "token expired"⟩
  | .claims => ⟨.invalidTokenError, s!"claim verification failed: {exc.text}"⟩
  | _ => ⟨.invalidTokenError, s!"signature verification failed: {exc.text}"⟩

/-- The key with the token's `kid`, refetched once when it is not there. -/
def keyFor (kid : Json) : Auth Json := do
  let jwks ← keysOrInvalid settings
  match ← Prog.lift (findKey jwks kid) with
  | some key => return key
  | none => do
      invalidate
      let jwks ← keysOrInvalid settings
      match ← Prog.lift (findKey jwks kid) with
      | some key => return key
      | none => invalidToken s!"no JWKS key matches kid={kid.toStr}"

/-- `str(claims.get("iss", ""))`. -/
def issuerText (claims : Dict Json) : String := ((claims.lookup "iss").getD (.str "")).toStr

def decodeAndVerify (token : String) (expectedAudience : String) (issuers : List String) :
    Auth (Dict Json) := do
  Prog.require (token ≠ "") ⟨.invalidTokenError, "empty token"⟩
  let header ← Prog.lift ((settings.jose.getUnverifiedHeader token).mapError fun exc =>
    ⟨.invalidTokenError, s!"malformed token header: {exc.text}"⟩)
  let kid := (header.lookup "kid").getD .null
  Prog.require (kid.truthy = true) ⟨.invalidTokenError, "token has no \x27kid\x27 in header"⟩
  let key ← keyFor settings kid
  let instant ← clock
  let claims ← Prog.lift ((settings.jose.decode token (.jwk key) (expectedOf issuers expectedAudience)
    (Storage.unixSeconds instant)).mapError decodeError)
  Prog.require (1 < issuers.length → issuerText claims ∈ issuers)
    { kind := .invalidTokenError
      text := s!"claim verification failed: issuer {Json.reprString (issuerText claims)} not in " ++
        "accepted set" }
  return claims

/-! The Hub's own tokens. -/

def localIssuer : String := "lehen-hub-local"
def localScopeAdmin : String := "admin"
def localAudience : String := "lehen-hub-admin"

def localExpected : Expected :=
  { algorithms := ["HS256"], audience := localAudience, issuer := some localIssuer, verifyIss := true }

def issueLocalAdminToken (username : String) (signingKey : Bytes) (ttlSeconds : Nat) : Auth String := do
  let instant ← clock
  let now := Storage.unixSeconds instant
  return settings.jose.encode
    (Dict.ofList
      [("sub", .str username), ("preferred_username", .str username), ("iss", .str localIssuer),
        ("aud", .str localAudience), ("scope", .str localScopeAdmin), ("iat", .int now),
        ("exp", .int (now + ttlSeconds))])
    signingKey "HS256"

def localDecodeError (exc : JoseError) : PyError :=
  match exc.kind with
  | .expiredSignature => ⟨.localTokenError, "token expired"⟩
  | .claims => ⟨.localTokenError, s!"claim verification failed: {exc.text}"⟩
  | .jwt => ⟨.localTokenError, s!"signature verification failed: {exc.text}"⟩
  | .jwk => ⟨.jwkError, exc.text⟩

/-- `scope == "admin"`. -/
def isAdminScope (claims : Dict Json) : Bool :=
  match claims.lookup "scope" with
  | some (.str scope) => scope == localScopeAdmin
  | _ => false

def decodeLocalAdminToken (token : String) (signingKey : Bytes) : Auth (Dict Json) := do
  Prog.require (token ≠ "") ⟨.localTokenError, "empty token"⟩
  let instant ← clock
  let claims ← Prog.lift ((settings.jose.decode token (.secret signingKey) localExpected
    (Storage.unixSeconds instant)).mapError localDecodeError)
  Prog.require (isAdminScope claims = true)
    ⟨.localTokenError, "unexpected scope: " ++ ((claims.lookup "scope").getD .null).repr⟩
  return claims

/-- A token that jose cannot read has no issuer. -/
def peekUnverifiedIssuer (token : String) : Except PyError (Option String) :=
  if token = "" then .ok none
  else
    match settings.jose.getUnverifiedClaims token with
    | .error exc => if exc.kind = .jwk then .error ⟨.jwkError, exc.text⟩ else .ok none
    | .ok unverified =>
        match (unverified.lookup "iss").getD .null with
        | .null => .ok none
        | iss => .ok (some iss.toStr)

end Jwt

end Lehen
