import Lehen.Python

/-!
`auth/identity_provider.py` with the settings it reads: the two SIAM providers,
the issuers and the audience of their tokens, and where they keep roles. What
only the discovery endpoint reports is left out.
-/

namespace Lehen.IdentityProvider

structure KeycloakSettings where
  baseUrl : String
  realm : String := "lehen"
  audience : String := "lehen-hub"
  adminRole : String := "lehen-admin"
  jwksTtlSeconds : Int := 600
  deriving DecidableEq, Repr

/-- `text.rstrip("/")`. -/
def stripSlashes (text : String) : String :=
  String.ofList (text.toList.reverse.dropWhile (· = '/')).reverse

def KeycloakSettings.issuer (settings : KeycloakSettings) : String :=
  stripSlashes settings.baseUrl ++ "/realms/" ++ settings.realm

def KeycloakSettings.jwksUrl (settings : KeycloakSettings) : String :=
  settings.issuer ++ "/protocol/openid-connect/certs"

structure EntraSettings where
  tenantId : String
  audience : String
  adminRole : String := "lehen-admin"
  jwksTtlSeconds : Int := 600
  deriving DecidableEq, Repr

def EntraSettings.issuer (settings : EntraSettings) : String :=
  "https://login.microsoftonline.com/" ++ settings.tenantId ++ "/v2.0"

def EntraSettings.jwksUrl (settings : EntraSettings) : String :=
  "https://login.microsoftonline.com/" ++ settings.tenantId ++ "/discovery/v2.0/keys"

inductive Provider where
  | keycloak (settings : KeycloakSettings)
  | entra (settings : EntraSettings)
  deriving DecidableEq, Repr

namespace Provider

def issuer : Provider → String
  | .keycloak settings => settings.issuer
  | .entra settings => settings.issuer

/-- Entra emits either of two issuers, by a setting of the app registration. -/
def acceptedIssuers : Provider → List String
  | .keycloak settings => [settings.issuer]
  | .entra settings => [settings.issuer, "https://sts.windows.net/" ++ settings.tenantId ++ "/"]

def audience : Provider → String
  | .keycloak settings => settings.audience
  | .entra settings => settings.audience

def jwksUrl : Provider → String
  | .keycloak settings => settings.jwksUrl
  | .entra settings => settings.jwksUrl

def adminRole : Provider → String
  | .keycloak settings => settings.adminRole
  | .entra settings => settings.adminRole

def jwksTtlSeconds : Provider → Int
  | .keycloak settings => settings.jwksTtlSeconds
  | .entra settings => settings.jwksTtlSeconds

/-- `[str(r) for r in roles]`, of a list only. -/
def rolesOf : Json → List String
  | .arr roles => roles.map Json.toStr
  | _ => []

/-- Keycloak keeps roles in `realm_access.roles`, Entra in `roles`. -/
def extractRealmRoles (provider : Provider) (claims : Dict Json) : List String :=
  match provider with
  | .keycloak _ =>
      match (claims.lookup "realm_access").getD .null with
      | .obj realmAccess => rolesOf ((realmAccess.lookup "roles").getD .null)
      | _ => []
  | .entra _ => rolesOf ((claims.lookup "roles").getD .null)

theorem slash_before {first : String} (second third : String) (found : '/' ∈ first.toList) :
    '/' ∈ (first ++ second ++ third).toList := by
  rw [String.toList_append, String.toList_append]
  exact List.mem_append_left _ (List.mem_append_left _ found)

/-- Every accepted issuer is a path. -/
theorem slash_in_issuer {provider : Provider} {issuer : String}
    (accepted : issuer ∈ provider.acceptedIssuers) : '/' ∈ issuer.toList := by
  cases provider with
  | keycloak settings =>
      rw [List.mem_singleton.mp accepted, KeycloakSettings.issuer, String.toList_append,
        String.toList_append]
      exact List.mem_append_left _ (List.mem_append_right _ (by decide))
  | entra settings =>
      cases accepted with
      | head => exact slash_before _ _ (by decide)
      | tail _ rest =>
          rw [List.mem_singleton.mp rest]
          exact slash_before _ _ (by decide)

/-- Where several issuers are accepted, each is a URL. -/
theorem url_of_issuer {settings : EntraSettings} {issuer : String}
    (accepted : issuer ∈ (Provider.entra settings).acceptedIssuers) :
    issuer.toList.head? = some 'h' := by
  have first {start : String} (middle last : String) (begins : start.toList.head? = some 'h') :
      (start ++ middle ++ last).toList.head? = some 'h' := by
    rw [String.toList_append, String.toList_append, List.append_assoc, List.head?_append, begins]
    rfl
  cases accepted with
  | head => exact first _ _ (by decide)
  | tail _ rest =>
      rw [List.mem_singleton.mp rest]
      exact first _ _ (by decide)

theorem issuer_accepted (provider : Provider) : provider.issuer ∈ provider.acceptedIssuers := by
  cases provider <;> exact List.mem_cons_self

end Provider

end Lehen.IdentityProvider
