import Lehen.OAuth

/-!
`admin/audit_service.py`: the append-only log of admin mutations. Secret
fields enter it as an HMAC marker.
-/

namespace Lehen.AuditService

open Secrets Storage OAuth

structure CurrentUser where
  sub : String
  username : String
  realmRoles : List String
  identitySource : String
  deriving DecidableEq, Repr

def sampleUser : CurrentUser :=
  { sub := "u1", username := "ann", realmRoles := ["staff"], identitySource := "idp" }

structure AuditEvent where
  actorSub : String
  actorUsername : String
  action : String
  targetId : Option String
  before : Option (Dict Json)
  after : Option (Dict Json)
  secretFields : List String := []
  requestId : Option String := none

def markSecret (settings : Settings) (value : Json) : Except PyError Json :=
  if value.isBlank then .ok (.obj [("is_set", .bool false), ("hmac", .null)])
  else
    match fingerprint settings.hmacSha256 value.toStr settings.auditPepper with
    | .ok hmac => .ok (.obj [("is_set", .bool true), ("hmac", .str hmac)])
    | .error exc => .error exc

def maskFields (settings : Settings) (secretFields : List String) :
    List (String × Json) → Except PyError (List (String × Json))
  | [] => .ok []
  | (name, value) :: rest => do
      let value ← if name ∈ secretFields then markSecret settings value else .ok value
      let rest ← maskFields settings secretFields rest
      return (name, value) :: rest

def maskSecrets (settings : Settings) (doc : Option (Dict Json)) (secretFields : List String) :
    Except PyError (Option (Dict Json)) :=
  match doc with
  | none => .ok none
  | some doc => do
      let fields := doc.entries.map fun entry => (entry.1, entry.2)
      let masked ← maskFields settings secretFields fields
      return some (Dict.ofList masked)

/-- `request_id or str(uuid.uuid4())`. -/
def requestIdOr (requestId : Option String) : Hub String :=
  match requestId with
  | some given => if given = "" then uuid4 else pure given
  | none => uuid4

def record (settings : Settings) (event : AuditEvent) : Hub Unit := do
  let id ← uuid4
  let ts ← now
  let before ← Prog.lift (maskSecrets settings event.before event.secretFields)
  let after ← Prog.lift (maskSecrets settings event.after event.secretFields)
  let requestId ← requestIdOr event.requestId
  command (.insertAudit
    { id, ts, actorSub := event.actorSub, actorUsername := event.actorUsername
      action := event.action, targetId := event.targetId, before, after, requestId })

def listRecent (limit offset : Nat) : Hub (List AdminAuditEvent) := query (.selectAudits limit offset)

theorem mark_secret_total (settings : Settings) (value : Json) :
    ∃ marked, markSecret settings value = .ok marked := by
  unfold markSecret fingerprint
  by_cases blank : value.isBlank
  · exact ⟨_, if_pos blank⟩
  · rw [if_neg blank, if_pos settings.auditPepperLength]
    exact ⟨_, rfl⟩

theorem mask_fields_total (settings : Settings) (secretFields : List String)
    (fields : List (String × Json)) :
    ∃ masked, maskFields settings secretFields fields = .ok masked := by
  induction fields with
  | nil => exact ⟨[], rfl⟩
  | cons field rest ih =>
      obtain ⟨marked, same⟩ := mark_secret_total settings field.2
      obtain ⟨masked, tail⟩ := ih
      by_cases secret : field.1 ∈ secretFields
      · exact ⟨(field.1, marked) :: masked, by
          simp only [maskFields, if_pos secret, same, tail]; rfl⟩
      · exact ⟨(field.1, field.2) :: masked, by
          simp only [maskFields, if_neg secret, tail]; rfl⟩

/-- Masking cannot fail: the pepper has the length the fingerprint asks for. -/
theorem mask_secrets_total (settings : Settings) (doc : Option (Dict Json))
    (secretFields : List String) :
    ∃ masked, maskSecrets settings doc secretFields = .ok masked := by
  cases doc with
  | none => exact ⟨none, rfl⟩
  | some doc =>
      obtain ⟨masked, same⟩ := mask_fields_total settings secretFields
        (doc.entries.map fun entry => (entry.1, entry.2))
      exact ⟨some (Dict.ofList masked), by simp only [maskSecrets, same]; rfl⟩

end Lehen.AuditService
