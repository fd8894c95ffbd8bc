import Lehen.AuditService
import Lehen.LocalAdminService

/-!
`auth/dependencies.py` on an initialised app: who may call the user surface and
who the admin surface.
-/

namespace Lehen.Dependencies

open AuthState Jwt LocalAdminService
open AuditService (CurrentUser)

/-- A `CurrentUser` with its `raw_claims`. -/
structure VerifiedUser extends CurrentUser where
  rawClaims : Dict Json

/-- The `Authorization` header of a request, when it has one. -/
structure Request where
  authorization : Option String

def httpError {α : Type} (status : Nat) (detail : String) : Auth α :=
  throw ⟨.httpException status, detail⟩

/-- `text.strip()`. -/
def strip (text : List Char) : String :=
  String.ofList ((text.dropWhile Json.isPySpace).reverse.dropWhile Json.isPySpace).reverse

def extractBearerToken (request : Request) : Except PyError String :=
  let header := (request.authorization.getD "").toList
  if (header.take 7).map Char.toLower = "bearer ".toList then .ok (strip (header.drop 7))
  else .error ⟨.httpException 401, "missing bearer token"⟩

/-- `str(claims.get(name, ""))`. -/
def textOf (claims : Dict Json) (name : String) : String :=
  ((claims.lookup name).getD (.str "")).toStr

variable (settings : AuthSettings)

def verifyLocalToken (token : String) (admin : LocalAdminSettings) : Auth VerifiedUser := do
  let claims ← (decodeLocalAdminToken settings token admin.signingKey).handle fun exc =>
    if exc.kind = .localTokenError then httpError 401 s!"invalid token: {exc.text}" else throw exc
  return {
    sub := textOf claims "sub", username := textOf claims "preferred_username", realmRoles := []
    identitySource := localIssuer, rawClaims := claims }

def verifySiamToken (token : String) : Auth VerifiedUser := do
  let provider := settings.provider
  let claims ← (decodeAndVerify settings token provider.audience provider.acceptedIssuers).handle
    fun exc =>
      if exc.kind = .invalidTokenError then httpError 401 s!"invalid token: {exc.text}" else throw exc
  return {
    sub := textOf claims "sub", username := textOf claims "preferred_username"
    realmRoles := provider.extractRealmRoles claims, identitySource := provider.issuer
    rawClaims := claims }

def verifyUserSurfaceToken (request : Request) : Auth VerifiedUser := do
  let token ← Prog.lift (extractBearerToken request)
  let issuer ← Prog.lift (peekUnverifiedIssuer settings token)
  Prog.require (issuer ≠ some localIssuer) ⟨.httpException 401, "invalid token for this surface"⟩
  verifySiamToken settings token

def verifyAdminSurfaceToken (request : Request) : Auth VerifiedUser := do
  let token ← Prog.lift (extractBearerToken request)
  let issuer ← Prog.lift (peekUnverifiedIssuer settings token)
  if issuer = some localIssuer then
    match settings.localAdmin with
    | none => httpError 401 "local-admin path is not configured on this Hub"
    | some admin => verifyLocalToken settings token admin
  else verifySiamToken settings token

/-- Runs once in a process, as the state in memory tells. -/
def maybeAutoDisableLocalAdmin (siamUsername : String) : Auth Unit := do
  let state ← Prog.perform AuthOp.readDisableState
  if state ≠ .pending then return ()
  else
    match settings.localAdmin with
    | none => Prog.perform (AuthOp.setDisableState .noLocalAdmin)
    | some _ => do
        let transitioned ← disableOnSiamAdminLogin siamUsername
        Prog.perform (AuthOp.setDisableState
          (if transitioned then .disabled else .alreadyDisabledOrAbsent))

def requireAdmin (request : Request) : Auth VerifiedUser := do
  let user ← verifyAdminSurfaceToken settings request
  if user.identitySource ≠ localIssuer then
    Prog.require (settings.provider.adminRole ∈ user.realmRoles)
      ⟨.httpException 403, s!"missing required realm role: {settings.provider.adminRole}"⟩
    maybeAutoDisableLocalAdmin settings user.username
    return user
  else return user

end Lehen.Dependencies
