import Lehen.Footprint

/-!
The round trip of the OAuth `state`: a sealed flow comes back as it was, inside
its age window and nowhere else.
-/

namespace Lehen.StateWindow

open Base64 Secrets Storage OAuth
open Prog (Leaves leaves_bind leaves_perform leaves_lift)

variable {N : Type} {settings : Settings} {outside : Outside N}

/-- `decode_state` with both of its optional arguments. -/
def decodeStateWith (settings : Settings) (encoded : String) (key : Bytes)
    (maxAgeSeconds : Int := defaultStateMaxAgeSeconds) (nowTs : Option Int := none) :
    Hub OAuthFlowState := do
  let flow ← Prog.lift (decodeFlow settings.aead encoded key)
  let instant ← readClock nowTs
  Prog.lift (checkAge flow maxAgeSeconds instant)

theorem decode_state_with_default (settings : Settings) (encoded : String) (key : Bytes) :
    decodeStateWith settings encoded key = decodeState settings encoded key := by
  simp only [decodeStateWith, decodeState, readClock, Prog.bind_eq, Prog.bind_assoc]
  rfl

/-- The flow is neither too old nor issued more than a minute ahead. -/
def InWindow (flow : OAuthFlowState) (maxAgeSeconds nowTs : Int) : Prop :=
  nowTs - maxAgeSeconds ≤ flow.issuedAt ∧ flow.issuedAt ≤ nowTs + 60

instance (flow : OAuthFlowState) (maxAgeSeconds nowTs : Int) :
    Decidable (InWindow flow maxAgeSeconds nowTs) := by
  unfold InWindow
  infer_instance

/-- The flow inside its window, an `OAuthStateError` outside of it. -/
def Honoured (flow : OAuthFlowState) (maxAgeSeconds nowTs : Int)
    (outcome : Except PyError OAuthFlowState) : Prop :=
  (InWindow flow maxAgeSeconds nowTs ∧ outcome = .ok flow) ∨
    (¬ InWindow flow maxAgeSeconds nowTs ∧ ∃ error, outcome = .error error ∧ error.kind = .oauthStateError)

theorem check_age_honours (flow : OAuthFlowState) (maxAgeSeconds nowTs : Int) :
    Honoured flow maxAgeSeconds nowTs (checkAge flow maxAgeSeconds nowTs) := by
  unfold checkAge
  split
  · next expired =>
      have old : ¬ InWindow flow maxAgeSeconds nowTs := by
        unfold InWindow
        omega
      exact .inr ⟨old, _, rfl, rfl⟩
  · next fresh =>
      split
      · next ahead =>
          have early : ¬ InWindow flow maxAgeSeconds nowTs := by
            unfold InWindow
            omega
          exact .inr ⟨early, _, rfl, rfl⟩
      · next issued =>
          have within : InWindow flow maxAgeSeconds nowTs := by
            unfold InWindow
            omega
          exact .inl ⟨within, rfl⟩

/-- Whatever nonce is drawn, a state that was just encoded decodes to its flow in its window. -/
theorem state_round_trip (lawful : settings.aead.Lawful) (outside : Outside N) (flow : OAuthFlowState)
    (key : Bytes) (length : key.length = keyLen) (maxAgeSeconds nowTs : Int) (world : World N) :
    Leaves (exec outside)
      (do
        let encoded ← encodeState settings flow key
        decodeStateWith settings encoded key maxAgeSeconds (some nowTs)) world
      fun outcome after => Honoured flow maxAgeSeconds nowTs outcome ∧ after.store = world.store := by
  simp only [encodeState, encryptFresh, tokenBytes, Prog.bind_eq, Prog.bind_assoc]
  rw [leaves_bind, leaves_perform]
  -- The cipher is never asked for another key length.
  have sealed : encrypt settings.aead (JsonText.dumps flow.asDict) key
      (outside.tokenBytes nonceLen world.outside).1 =
        .ok (urlsafeB64encode (currentVersion :: (outside.tokenBytes nonceLen world.outside).1.val ++
          settings.aead.encrypt key (outside.tokenBytes nonceLen world.outside).1.val
            (utf8Encode (JsonText.dumps flow.asDict)))) := if_pos length
  have opened := decode_sealed_flow lawful flow key _ _ sealed
  dsimp only [exec]
  rw [sealed]
  change Leaves (exec outside) (decodeStateWith settings _ key maxAgeSeconds (some nowTs)) _ _
  rw [decodeStateWith, opened]
  change Leaves (exec outside) (Prog.lift (checkAge flow maxAgeSeconds nowTs)) _ _
  rw [leaves_lift]
  exact ⟨check_age_honours flow maxAgeSeconds nowTs, rfl⟩

/-- A name with a quote, a backslash, a line break and letters outside of ASCII. -/
def oddFlow : OAuthFlowState :=
  { userSub := "a\"b\\c\nü🙂", instanceId := "mail", nonce := "n", issuedAt := 1060
    codeVerifier := "", redirectUri := "http://127.0.0.1/callback" }

def quietWorld : World Unit := ⟨Store.empty, ()⟩

theorem odd_flow_returns :
    Leaves (exec (Outside.still unreachable))
      (do
        let encoded ← encodeState sampleSettings oddFlow sampleSettings.masterKey
        decodeStateWith sampleSettings encoded sampleSettings.masterKey 600 (some 1000)) quietWorld
      fun outcome after => Honoured oddFlow 600 1000 outcome ∧ after.store = quietWorld.store := by
  have lawful : sampleSettings.aead.Lawful := tagging_aead_lawful
  exact state_round_trip lawful (Outside.still unreachable) oddFlow sampleSettings.masterKey
    sampleSettings.masterKeyLength 600 1000 quietWorld

end Lehen.StateWindow
