import Lehen.EdgeState
import Lehen.JsonText

/-!
`api/hub.ts`: the calls the Edge makes to the Hub.
-/

namespace Lehen.EdgeHub

open EdgeState Secrets OAuth

variable (config : EdgeConfig)

def uriByte (byte : UInt8) : List Char :=
  let c := Char.ofNat byte.toNat
  if c.isAlphanum ∨ c ∈ ['-', '_', '.', '!', '~', '*', Char.ofNat 39, '(', ')'] then [c]
  else ['%', upperHexDigit (byte.toNat / 16), upperHexDigit (byte.toNat % 16)]

/-- `encodeURIComponent`, byte by byte of the UTF-8 text. -/
def encodeURIComponent (text : String) : String := String.ofList ((utf8Encode text).flatMap uriByte)

mutual

/-- What a template string makes of a JSON value. -/
def templateText : Json → String
  | .null => "null"
  | .bool value => if value then "true" else "false"
  | .int value => toString value
  | .float value => value.repr
  | .str value => value
  | .arr items => ",".intercalate (templateItems items)
  | .obj _ => "[object Object]"

def templateItems : List Json → List String
  | [] => []
  | .null :: rest => "" :: templateItems rest
  | item :: rest => templateText item :: templateItems rest

end

/-- `body?.detail ?? text` of a body that may be JSON. -/
def detailOf (text : String) : String :=
  match JsonText.loads text with
  | .ok (.obj fields) =>
      match fields.lookup "detail" with
      | none | some .null => text
      | some detail => templateText detail
  | _ => text

def formatHubError {Body : Type} (step : String) (response : Response Body) : String :=
  let detail := match response.text with
    | .ok text => if text = "" then "" else detailOf text
    | .error _ => ""
  let suffix := if detail = "" then "" else s!": {detail}"
  s!"{step} failed: {response.status} {response.statusText}{suffix}"

def fetchAuthPublicConfig : Edge AuthPublicConfig := do
  let response ← fetch (.publicConfig s!"{config.hubUrl}/auth/public-config")
  Prog.require (response.ok = true)
    s!"auth public-config failed: {response.status} {response.statusText}"
  Prog.lift response.json

def fetchMe (bearer : String) : Edge MeResponse := do
  let response ← fetch (.me s!"{config.hubUrl}/me" bearer)
  Prog.require (response.ok = true) s!"/me failed: {response.status} {response.statusText}"
  Prog.lift response.json

/-- `${hub_url}/me/connections/${encodeURIComponent(instanceId)}/${step}`. -/
def connectionUrl (instanceId step : String) : String :=
  s!"{config.hubUrl}/me/connections/{encodeURIComponent instanceId}/{step}"

def initiateGrant (bearer instanceId redirectUri : String) : Edge InitiateGrantResponse := do
  let response ← fetch (.initiate (connectionUrl config instanceId "initiate") bearer redirectUri)
  Prog.require (response.ok = true) (formatHubError "initiate" response)
  Prog.lift response.json

def completeGrant (bearer instanceId code state : String) : Edge Json := do
  let response ← fetch (.complete (connectionUrl config instanceId "complete") bearer code state)
  Prog.require (response.ok = true) (formatHubError "complete" response)
  Prog.lift response.json

end Lehen.EdgeHub
