import Lehen.AuthState

/-!
`auth/jwks.py`: the cache around the JWKS endpoint. A fetched document is kept
for a while, and a failed fetch closes the endpoint for a shorter one.
-/

namespace Lehen.Jwks

open AuthState

def microseconds : Int := 1000000

/-- `negative_ttl_seconds`. -/
def negativeTtlSeconds : Int := 30

variable (settings : AuthSettings)

/-- `self._keys is not None and now - self._fetched_at < self._ttl`. -/
def freshKeys (jwks : JwksState) (now : Int) : Option (Dict Json) :=
  match jwks.keys with
  | some keys =>
      if now - jwks.fetchedAt < settings.provider.jwksTtlSeconds * microseconds then some keys else none
  | none => none

/-- The `try` block: `client.get`, `raise_for_status` and `json`. -/
def fetchPayload : Auth Json := do
  let url := settings.provider.jwksUrl
  let response ← fetch url
  Prog.require (200 ≤ response.status ∧ response.status < 300)
    ⟨.httpError, settings.statusError response.status url⟩
  match response.json with
  | .ok payload => return payload
  | .error text => throw ⟨.jsonDecodeError, text⟩

def refuse (now : Int) (text : String) {α : Type} : Auth α := do
  Prog.perform (AuthOp.refuseJwks (now + negativeTtlSeconds * microseconds))
  throw ⟨.jwksFetchError, text⟩

/-- `len(payload.get("keys", []))`, which only the log line reads. -/
def keyCount (keys : Json) : Except PyError Nat :=
  match keys with
  | .arr items => .ok items.length
  | .obj fields => .ok fields.length
  | .str text => .ok text.length
  | other => .error ⟨.typeError, s!"object of type \x27{other.typeName}\x27 has no len()"⟩

/-- The document as a dictionary. -/
def asDict (payload : Json) : Option (Dict Json) :=
  match payload with
  | .obj fields => some (Dict.ofList fields)
  | _ => none

/-- The part under the lock. -/
def refetch : Auth (Dict Json) := do
  let url := settings.provider.jwksUrl
  let now ← monotonic
  let jwks ← Prog.perform AuthOp.readJwks
  match freshKeys settings jwks now with
  | some keys => return keys
  | none =>
      let payload ← (fetchPayload settings).handle fun exc =>
        if exc.kind = .httpError ∨ exc.kind.isValueError then
          refuse now s!"failed to fetch JWKS from {url}: {exc.text}"
        else throw exc
      match asDict payload with
      | none => refuse now s!"JWKS response from {url} is malformed"
      | some document =>
          match document.lookup "keys" with
          | none => refuse now s!"JWKS response from {url} is malformed"
          | some keys => do
              Prog.perform (AuthOp.keepJwks document now)
              let _ ← Prog.lift (keyCount keys)
              return document

/-- `async with self._lock: body`. -/
def locked {α : Type} (body : Auth α) : Auth α := do
  Prog.perform AuthOp.acquireLock
  let value ← body.handle fun error => do
    Prog.perform AuthOp.releaseLock
    throw error
  Prog.perform AuthOp.releaseLock
  return value

def getKeys : Auth (Dict Json) := do
  let now ← monotonic
  let jwks ← Prog.perform AuthOp.readJwks
  match freshKeys settings jwks now with
  | some keys => return keys
  | none => do
      Prog.require (¬ now < jwks.negativeUntil)
        ⟨.jwksFetchError, "recent JWKS fetch failed; in negative-cache window"⟩
      locked (refetch settings)

/-- Startup does not fail when the endpoint does. -/
def warm : Auth Unit :=
  ((getKeys settings).bind fun _ => .ret ()).handle fun exc =>
    if exc.kind = .jwksFetchError then .ret () else .raise exc

def invalidate : Auth Unit := Prog.perform AuthOp.invalidateJwks

end Lehen.Jwks
