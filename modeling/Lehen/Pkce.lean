import Lehen.EdgeHub

/-!
`auth/pkce.ts`: the login of the Edge at the identity provider. A flow that was
begun waits in the session storage for the callback with its state.
-/

namespace Lehen.Pkce

open EdgeState EdgeHub Secrets OAuth
open Base64 (Bytes encodeChars)

def flowKeyPrefix : String := "lehen_pkce_flow_"

def flowKey (state : String) : String := flowKeyPrefix ++ state

def storeFlow (context : AuthorizationContext) : Edge Unit :=
  Prog.perform (EdgeOp.setItem (flowKey context.state) context)

/-- What was written as JSON is read back as it was. -/
def takeFlow (state : String) : Edge (Option AuthorizationContext) := do
  let raw ← Prog.perform (EdgeOp.getItem (flowKey state))
  match raw with
  | none => return none
  | some context => do
      Prog.perform (EdgeOp.removeItem (flowKey state))
      return some context

def base64UrlNoPad (bytes : Bytes) : String :=
  String.ofList ((encodeChars bytes).reverse.dropWhile (· = '=')).reverse

def randomString (byteLen : Nat) : Edge String := do
  let bytes ← Prog.perform (EdgeOp.randomValues byteLen)
  return base64UrlNoPad bytes.val

def fetchDiscovery (wellKnownUrl : String) : Edge OidcDiscovery := do
  let response ← fetch (.discovery wellKnownUrl)
  Prog.require (response.ok = true) s!"OIDC discovery failed: {response.status} {response.statusText}"
  Prog.lift response.json

/-- `URLSearchParams` as a query. -/
def searchText (text : String) : String :=
  String.ofList ((utf8Encode text).flatMap fun byte =>
    let c := Char.ofNat byte.toNat
    if c.isAlphanum ∨ c ∈ ['*', '-', '.', '_'] then [c]
    else if c = ' ' then ['+']
    else ['%', upperHexDigit (byte.toNat / 16), upperHexDigit (byte.toNat % 16)])

def searchParams (params : List (String × String)) : String :=
  "&".intercalate (params.map fun param => searchText param.1 ++ "=" ++ searchText param.2)

variable (config : EdgeConfig)

def scopesOf (publicConfig : AuthPublicConfig) : List String :=
  ["openid", "profile", "email", "offline_access"] ++
    if publicConfig.audience = "" then [] else [s!"{publicConfig.audience}/access_as_user"]

def beginHubLogin : Edge String := do
  let publicConfig ← fetchAuthPublicConfig config
  let discovery ← fetchDiscovery publicConfig.wellKnownUrl
  let redirectUri := s!"lehen:/{config.authCallbackPath}"
  let codeVerifier ← randomString 32
  let challengeBytes ← Prog.perform (EdgeOp.digest codeVerifier)
  let codeChallenge := base64UrlNoPad challengeBytes
  let state ← randomString 16
  storeFlow { state, codeVerifier, publicConfig, discovery, redirectUri }
  let params := searchParams
    [("client_id", publicConfig.edgeClientId), ("response_type", "code"),
      ("redirect_uri", redirectUri), ("scope", " ".intercalate (scopesOf publicConfig)),
      ("state", state), ("code_challenge", codeChallenge), ("code_challenge_method", "S256")]
  Prog.perform (EdgeOp.openExternal s!"{discovery.authorizationEndpoint}?{params}")
  return state

/-- The invocation that redeems a code for the flow of a context. -/
def exchangeOf (context : AuthorizationContext) (code : String) : Exchange :=
  { tokenEndpoint := context.discovery.tokenEndpoint, clientId := context.publicConfig.edgeClientId
    redirectUri := context.redirectUri, code, codeVerifier := context.codeVerifier }

def completeHubLogin (state code : String) : Edge (String × Nat) := do
  let context ← takeFlow state
  match context with
  | none =>
      throw "no pending flow matches the returned state — possible replay or restart"
  | some context => do
      let data ← Prog.perform (EdgeOp.exchangeOidcCode (exchangeOf context code))
      return (data.accessToken, data.expiresIn.getD 3600)

end Lehen.Pkce
