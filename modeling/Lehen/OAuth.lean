import Lehen.Storage
import Lehen.JsonText

/-!
`auth/oauth.py`: PKCE, the encrypted `state`, the authorization URL and the two
calls to a token endpoint. `Settings` collects the keys and the primitives that
the process is started with.
-/

namespace Lehen.OAuth

open Base64 Secrets Storage

structure Settings where
  aead : Aead
  sha256 : Bytes → Bytes
  hmacSha256 : Bytes → Bytes → Bytes
  masterKey : Bytes
  masterKeyLength : masterKey.length = keyLen
  auditPepper : Bytes
  auditPepperLength : auditPepper.length = 32
  stateKeyArgument : Bytes := []
  allowedRedirectUris : List String
  consentRetentionDays : Nat

/-- `state_key if state_key else master_key`. -/
def Settings.stateKey (settings : Settings) : Bytes :=
  if settings.stateKeyArgument = [] then settings.masterKey else settings.stateKeyArgument

/-- Settings that can be run: fixed keys and the tagging cipher. -/
def sampleSettings : Settings :=
  { aead := taggingAead
    sha256 := fun _ => List.replicate 32 0
    hmacSha256 := fun _ _ => List.replicate 32 0
    masterKey := List.replicate 32 7
    masterKeyLength := rfl
    auditPepper := List.replicate 32 9
    auditPepperLength := rfl
    allowedRedirectUris := ["http://127.0.0.1/callback"]
    consentRetentionDays := 90 }

def defaultStateMaxAgeSeconds : Int := 600

structure OAuthFlowState where
  userSub : String
  instanceId : String
  nonce : String
  issuedAt : Int
  codeVerifier : String
  redirectUri : String
  deriving DecidableEq, Repr

def OAuthFlowState.asDict (flow : OAuthFlowState) : Json :=
  .obj
    [("user_sub", .str flow.userSub), ("instance_id", .str flow.instanceId),
      ("nonce", .str flow.nonce), ("issued_at", .int flow.issuedAt),
      ("code_verifier", .str flow.codeVerifier), ("redirect_uri", .str flow.redirectUri)]

def b64urlNoPad (data : Bytes) : String :=
  String.ofList ((encodeChars data).reverse.dropWhile (· = '=')).reverse

def codeChallenge (settings : Settings) (verifier : String) : String :=
  b64urlNoPad (settings.sha256 (utf8Encode verifier))

def generatePkce (settings : Settings) : Hub (String × String) := do
  let random ← tokenBytes 32
  let verifier := b64urlNoPad random.val
  return (verifier, codeChallenge settings verifier)

/-- `encrypt` with the nonce it draws. -/
def encryptFresh (settings : Settings) (plaintext : String) (key : Bytes) : Hub String := do
  let nonce ← tokenBytes nonceLen
  Prog.lift (encrypt settings.aead plaintext key nonce)

def encodeState (settings : Settings) (flow : OAuthFlowState) (key : Bytes) : Hub String :=
  encryptFresh settings (JsonText.dumps flow.asDict) key

def flowOfJson (data : Json) : Except PyError OAuthFlowState := do
  let userSub ← data.getItem "user_sub"
  let instanceId ← data.getItem "instance_id"
  let nonce ← data.getItem "nonce"
  let issuedAt ← (← data.getItem "issued_at").toInt
  let codeVerifier ← data.getItem "code_verifier"
  let redirectUri ← data.getItem "redirect_uri"
  return {
    userSub := userSub.toStr, instanceId := instanceId.toStr, nonce := nonce.toStr
    issuedAt, codeVerifier := codeVerifier.toStr, redirectUri := redirectUri.toStr }

/-- `decode_state` up to the reading of the clock. -/
def decodeFlow (aead : Aead) (encoded : String) (key : Bytes) : Except PyError OAuthFlowState :=
  if encoded = "" then .error ⟨.oauthStateError, "missing state"⟩
  else
    match decrypt aead encoded key with
    | .error exc => .error ⟨.oauthStateError, s!"state decryption failed: {exc.text}"⟩
    | .ok payload =>
        match JsonText.loads payload with
        | .error exc => .error ⟨.oauthStateError, s!"state payload malformed: {exc.text}"⟩
        | .ok data =>
            match flowOfJson data with
            | .ok flow => .ok flow
            | .error exc =>
                if exc.kind = .keyError ∨ exc.kind = .typeError ∨ exc.kind.isValueError then
                  .error ⟨.oauthStateError, s!"state missing required field: {exc.text}"⟩
                else .error exc

/-- The age window of `decode_state`. -/
def checkAge (flow : OAuthFlowState) (maxAgeSeconds nowTs : Int) : Except PyError OAuthFlowState :=
  if maxAgeSeconds < nowTs - flow.issuedAt then .error
    { kind := .oauthStateError
      text := s!"state expired (age {nowTs - flow.issuedAt}s > {maxAgeSeconds}s)" }
  else if nowTs + 60 < flow.issuedAt then
    .error ⟨.oauthStateError, "state issued_at is in the future"⟩
  else .ok flow

def decodeState (settings : Settings) (encoded : String) (key : Bytes) : Hub OAuthFlowState := do
  let flow ← Prog.lift (decodeFlow settings.aead encoded key)
  let instant ← now
  Prog.lift (checkAge flow defaultStateMaxAgeSeconds (unixSeconds instant))

structure OAuthAuthorizationRequest where
  authUrl : String
  state : String
  deriving DecidableEq, Repr

/-- `params.update(extra)`: a known key keeps its place. -/
def updateParams (params extra : List (String × String)) : List (String × String) :=
  extra.foldl (fun params added =>
    if added.1 ∈ params.map Prod.fst then
      params.map fun param => if param.1 = added.1 then added else param
    else params ++ [added]) params

def upperHexDigit (value : Nat) : Char :=
  if value < 10 then Char.ofNat (48 + value) else Char.ofNat (55 + value)

/-- `urllib.parse.quote_plus`. -/
def quotePlus (text : String) : String :=
  String.ofList ((utf8Encode text).flatMap fun byte =>
    let c := Char.ofNat byte.toNat
    if c.isAlphanum ∨ c = '_' ∨ c = '.' ∨ c = '-' ∨ c = '~' then [c]
    else if c = ' ' then ['+']
    else ['%', upperHexDigit (byte.toNat / 16), upperHexDigit (byte.toNat % 16)])

def urlencode (params : List (String × String)) : String :=
  "&".intercalate (params.map fun param => quotePlus param.1 ++ "=" ++ quotePlus param.2)

def buildAuthorizationUrl (settings : Settings) (authEndpoint clientId redirectUri : String)
    (scopes : List String) (userSub instanceId : String) (stateKey : Bytes)
    (extraParams : List (String × String)) : Hub OAuthAuthorizationRequest := do
  let (codeVerifier, codeChallenge) ← generatePkce settings
  let random ← tokenBytes 16
  let instant ← now
  let state ← encodeState settings
    { userSub, instanceId, nonce := b64urlNoPad random.val, issuedAt := unixSeconds instant
      codeVerifier, redirectUri } stateKey
  let params :=
    [("client_id", clientId), ("response_type", "code"), ("redirect_uri", redirectUri),
      ("scope", " ".intercalate scopes), ("state", state), ("code_challenge", codeChallenge),
      ("code_challenge_method", "S256")]
  return { authUrl := authEndpoint ++ "?" ++ urlencode (updateParams params extraParams), state }

structure OAuthTokens where
  accessToken : String
  refreshToken : Option String
  expiresAt : Int
  scope : String
  tokenType : String := "Bearer"
  deriving DecidableEq, Repr

def OAuthTokens.toStorageDict (tokens : OAuthTokens) : List (String × Json) :=
  [("access_token", .str tokens.accessToken), ("refresh_token", .ofOption tokens.refreshToken),
    ("expires_at", .int tokens.expiresAt), ("scope", .str tokens.scope),
    ("token_type", .str tokens.tokenType)]

/-- `str(value) if value is not None else None`. -/
def optionalStr : Option Json → Option String
  | none | some .null => none
  | some value => some value.toStr

/-- `str(data.get(key, default))`. -/
def strOr (value : Option Json) (default : String) : String :=
  match value with
  | none => default
  | some value => value.toStr

def OAuthTokens.fromStorageDict (data : Json) : Except PyError OAuthTokens := do
  let accessToken ← data.getItem "access_token"
  let refreshToken ← data.get "refresh_token"
  let expiresAt ← (← data.getItem "expires_at").toInt
  let scope ← data.get "scope"
  let tokenType ← data.get "token_type"
  return {
    accessToken := accessToken.toStr, refreshToken := optionalStr refreshToken, expiresAt
    scope := strOr scope "", tokenType := strOr tokenType "Bearer" }

/-- `json.dumps(tokens.to_storage_dict(), separators=(",", ":"), sort_keys=True)`. -/
def tokenBlob (tokens : OAuthTokens) : String := JsonText.dumps (.obj tokens.toStorageDict)

/-- The record `_post_token_endpoint` builds from the body of a 200 answer. -/
def tokensOfResponse (data : Json) (issuedAt : Int) : Except PyError OAuthTokens := do
  let expiresIn ← ((← data.get "expires_in").getD (.int 3600)).toInt
  let accessToken ← data.getItem "access_token"
  let refreshToken ← data.get "refresh_token"
  let scope ← data.get "scope"
  let tokenType ← data.get "token_type"
  return {
    accessToken := accessToken.toStr, refreshToken := optionalStr refreshToken
    expiresAt := issuedAt + expiresIn
    scope := strOr scope "", tokenType := strOr tokenType "Bearer" }

/-- What the body must be before it is read: JSON with an `access_token`. -/
def acceptedBody (response : HttpResponse) : Except PyError Json :=
  if response.status = 200 then
    match response.json with
    | .error text => .error ⟨.oauthExchangeError, s!"token endpoint returned non-JSON: {text}"⟩
    | .ok data => do
        if ← data.contains "access_token" then .ok data
        else
          let keys ← data.keys
          .error
            { kind := .oauthExchangeError
              text := s!"token endpoint response missing access_token: keys={keys.repr}" }
  else .error
    { kind := .oauthExchangeError
      text := s!"token endpoint returned {response.status}: {prefixText response.text 200}" }

/-- `now if now is not None else int(time.time())`. -/
def readClock (nowTs : Option Int) : Hub Int :=
  match nowTs with
  | some given => return given
  | none => return unixSeconds (← now)

def postTokenEndpoint (url : String) (body : List (String × String)) (nowTs : Option Int) :
    Hub OAuthTokens := do
  let response ← (httpSend (.post url body)).handle fun exc =>
    if exc.kind = .httpError then
      fail .oauthExchangeError s!"token endpoint unreachable: {exc.text}"
    else .raise exc
  let data ← Prog.lift (acceptedBody response)
  let issuedAt ← readClock nowTs
  Prog.lift (tokensOfResponse data issuedAt)

/-- `client_secret` is sent only when it is not empty. -/
def withSecret (body : List (String × String)) (clientSecret : String) : List (String × String) :=
  if clientSecret = "" then body else body ++ [("client_secret", clientSecret)]

def exchangeCodeForTokens (tokenEndpoint clientId clientSecret redirectUri code codeVerifier : String)
    (nowTs : Option Int := none) : Hub OAuthTokens :=
  postTokenEndpoint tokenEndpoint
    (withSecret
      [("grant_type", "authorization_code"), ("client_id", clientId), ("code", code),
        ("redirect_uri", redirectUri), ("code_verifier", codeVerifier)] clientSecret) nowTs

def refreshAccessToken (tokenEndpoint clientId clientSecret refreshToken : String)
    (nowTs : Option Int := none) : Hub OAuthTokens :=
  postTokenEndpoint tokenEndpoint
    (withSecret
      [("grant_type", "refresh_token"), ("client_id", clientId),
        ("refresh_token", refreshToken)] clientSecret) nowTs

theorem sorted_storage_dict (tokens : OAuthTokens) :
    JsonText.sortFields tokens.toStorageDict =
      [("access_token", .str tokens.accessToken), ("expires_at", .int tokens.expiresAt),
        ("refresh_token", .ofOption tokens.refreshToken), ("scope", .str tokens.scope),
        ("token_type", .str tokens.tokenType)] := by
  have scope : "scope" ≤ "token_type" := by decide
  have expires : "expires_at" ≤ "scope" := by decide
  have refresh : ¬ "refresh_token" ≤ "expires_at" := by decide
  have refresh' : "refresh_token" ≤ "scope" := by decide
  have access : "access_token" ≤ "expires_at" := by decide
  simp only [JsonText.sortFields, OAuthTokens.toStorageDict, List.insertionSort_cons,
    List.insertionSort_nil, List.orderedInsert, if_pos scope, if_pos expires, if_neg refresh,
    if_pos refresh', if_pos access]

/-- The stored record reads back as it was written. -/
theorem token_blob_reads_back (tokens : OAuthTokens) :
    (JsonText.loads (tokenBlob tokens)).bind OAuthTokens.fromStorageDict = .ok tokens := by
  have distinct : (tokens.toStorageDict.map Prod.fst).Nodup := by
    change ["access_token", "refresh_token", "expires_at", "scope", "token_type"].Nodup
    decide
  have scalars : ∀ field ∈ tokens.toStorageDict, JsonText.IsScalar field.2 := by
    intro field member
    cases refresh : tokens.refreshToken <;>
      simp only [OAuthTokens.toStorageDict, refresh, List.mem_cons, List.not_mem_nil,
        or_false] at member <;>
      rcases member with rfl | rfl | rfl | rfl | rfl <;> trivial
  rw [tokenBlob, JsonText.loads_dumps _ (by simp [OAuthTokens.toStorageDict]) scalars distinct,
    sorted_storage_dict]
  obtain ⟨accessToken, refreshToken, expiresAt, scope, tokenType⟩ := tokens
  cases refreshToken <;> rfl

theorem sorted_flow_dict (userSub instanceId nonce codeVerifier redirectUri : Json)
    (issuedAt : Json) :
    JsonText.sortFields
      [("user_sub", userSub), ("instance_id", instanceId), ("nonce", nonce), ("issued_at", issuedAt),
        ("code_verifier", codeVerifier), ("redirect_uri", redirectUri)] =
      [("code_verifier", codeVerifier), ("instance_id", instanceId), ("issued_at", issuedAt),
        ("nonce", nonce), ("redirect_uri", redirectUri), ("user_sub", userSub)] := by
  have first : "code_verifier" ≤ "redirect_uri" := by decide
  have second : ¬ "issued_at" ≤ "code_verifier" := by decide
  have third : "issued_at" ≤ "redirect_uri" := by decide
  have fourth : ¬ "nonce" ≤ "code_verifier" := by decide
  have fifth : ¬ "nonce" ≤ "issued_at" := by decide
  have sixth : "nonce" ≤ "redirect_uri" := by decide
  have seventh : ¬ "instance_id" ≤ "code_verifier" := by decide
  have eighth : "instance_id" ≤ "issued_at" := by decide
  have ninth : ¬ "user_sub" ≤ "code_verifier" := by decide
  have tenth : ¬ "user_sub" ≤ "instance_id" := by decide
  have eleventh : ¬ "user_sub" ≤ "issued_at" := by decide
  have twelfth : ¬ "user_sub" ≤ "nonce" := by decide
  have thirteenth : ¬ "user_sub" ≤ "redirect_uri" := by decide
  simp only [JsonText.sortFields, List.insertionSort_cons, List.insertionSort_nil, List.orderedInsert,
    if_pos first, if_neg second, if_pos third, if_neg fourth, if_neg fifth, if_pos sixth,
    if_neg seventh, if_pos eighth, if_neg ninth, if_neg tenth, if_neg eleventh, if_neg twelfth,
    if_neg thirteenth]

/-- A state that was sealed under a key decodes to the flow it was made of. -/
theorem decode_sealed_flow {aead : Aead} (lawful : aead.Lawful) (flow : OAuthFlowState)
    (key : Bytes) (nonce : Nonce) (encoded : String)
    (sealed : encrypt aead (JsonText.dumps flow.asDict) key nonce = .ok encoded) :
    decodeFlow aead encoded key = .ok flow := by
  have opened := decrypt_encrypt lawful (JsonText.dumps flow.asDict) key nonce encoded sealed
  have filled : encoded ≠ "" := by
    rintro rfl
    have broken : ∃ error, decrypt aead "" key = .error error := by
      unfold decrypt
      split
      · exact ⟨_, rfl⟩
      · exact ⟨_, rfl⟩
    obtain ⟨error, failed⟩ := broken
    rw [failed] at opened
    cases opened
  have distinct : ["user_sub", "instance_id", "nonce", "issued_at", "code_verifier",
      "redirect_uri"].Nodup := by
    decide
  have read := JsonText.loads_dumps
    [("user_sub", Json.str flow.userSub), ("instance_id", .str flow.instanceId),
      ("nonce", .str flow.nonce), ("issued_at", .int flow.issuedAt),
      ("code_verifier", .str flow.codeVerifier), ("redirect_uri", .str flow.redirectUri)]
    (by simp) (by simp [JsonText.IsScalar]) distinct
  rw [sorted_flow_dict] at read
  rw [decodeFlow, if_neg filled]
  simp only [opened, OAuthFlowState.asDict, read]
  rfl

end Lehen.OAuth
