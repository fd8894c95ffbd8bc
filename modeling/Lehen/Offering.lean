import Lehen.Requests

/-!
The state that the sample Hub answers `initiate_grant` with, in the terms it was
sealed in. A run that gives it back need not decrypt it.
-/

namespace Lehen

open Storage OAuth Secrets ConnectionsService

def offeredFlow : OAuthFlowState :=
  { userSub := "u1", instanceId := "mail", nonce := b64urlNoPad (List.replicate 16 0), issuedAt := 0
    codeVerifier := b64urlNoPad (List.replicate 32 0), redirectUri := "http://127.0.0.1/callback" }

theorem offered_sealed : offeredState = Base64.urlsafeB64encode
    (currentVersion :: List.replicate nonceLen 0 ++ taggingAead.encrypt sampleSettings.stateKey
      (List.replicate nonceLen 0) (utf8Encode (JsonText.dumps offeredFlow.asDict))) := by
  rfl

theorem decode_offered :
    decodeFlow sampleSettings.aead offeredState sampleSettings.stateKey = .ok offeredFlow := by
  have long : sampleSettings.stateKey.length = keyLen := by decide
  apply decode_sealed_flow tagging_aead_lawful offeredFlow _ ⟨List.replicate nonceLen 0, rfl⟩
  rw [offered_sealed, encrypt, if_pos long]

theorem decode_state_offered :
    decodeState sampleSettings offeredState sampleSettings.stateKey =
      now.bind fun instant =>
        Prog.lift (checkAge offeredFlow defaultStateMaxAgeSeconds (unixSeconds instant)) := by
  unfold decodeState
  rw [decode_offered]
  rfl

/-! How a run that gives the state back is taken apart. -/

variable {N : Type}

theorem serve_all_nil (settings : Settings) (outside : Outside N) (world : World N) :
    serveAll settings outside world [] = world := rfl

theorem serve_all_cons (settings : Settings) (outside : Outside N) (world : World N)
    (request : Request) (rest : List Request) :
    serveAll settings outside world (request :: rest) =
      serveAll settings outside ((serve settings request).run (exec outside) world).2 rest := rfl

theorem serve_complete (settings : Settings) (user : AuditService.CurrentUser)
    (instanceId code state : String) (requestId : Option String) :
    serve settings (.completeGrant user instanceId code state requestId) =
      Prog.drop (completeGrant settings user instanceId code state requestId) := rfl

end Lehen
