import Lehen.Program
import Lehen.Secrets

/-!
The envelopes of `crypto/secrets.py`: which bytes are one, what `decrypt` accepts,
and that the cipher only sees the parts of a well-formed envelope.
-/

namespace Lehen.Envelopes

open Base64 Secrets

/-! The format. -/

/-- Everything after the version byte, with room for the tag. -/
structure Envelope where
  nonce : Nonce
  cipher : Bytes
  tagged : 16 ≤ cipher.length

def Envelope.bytes (envelope : Envelope) : Bytes :=
  currentVersion :: envelope.nonce.val ++ envelope.cipher

def WellFormed (blob : Bytes) : Prop := 1 + nonceLen + 16 ≤ blob.length ∧ blob.head? = some currentVersion

theorem bytes_well_formed (envelope : Envelope) : WellFormed envelope.bytes := by
  constructor
  · have nonceLength := envelope.nonce.property
    have tagged := envelope.tagged
    simp only [Envelope.bytes, List.cons_append, List.length_cons, List.length_append, nonceLength]
    omega
  · rfl

/-- The parts, cut at the fixed offsets. -/
def parts (blob : Bytes) (long : 1 + nonceLen + 16 ≤ blob.length) : Envelope where
  nonce := ⟨(blob.drop 1).take nonceLen, by
    rw [List.length_take, List.length_drop]
    omega⟩
  cipher := blob.drop (1 + nonceLen)
  tagged := by
    rw [List.length_drop]
    omega

theorem parts_bytes {blob : Bytes} (well : WellFormed blob) : (parts blob well.1).bytes = blob := by
  obtain ⟨long, version⟩ := well
  cases blob with
  | nil => cases version
  | cons first rest =>
      obtain rfl : first = currentVersion := Option.some.inj version
      have joined : rest.take nonceLen ++ rest.drop nonceLen = rest := List.take_append_drop nonceLen rest
      exact congrArg (List.cons currentVersion) joined

theorem well_formed_iff (blob : Bytes) : WellFormed blob ↔ ∃ envelope : Envelope, envelope.bytes = blob := by
  constructor
  · exact fun well => ⟨parts blob well.1, parts_bytes well⟩
  · rintro ⟨envelope, rfl⟩
    exact bytes_well_formed envelope

/-! Opening. -/

/-- Only its own encoding decodes to a text. -/
theorem utf8_decode_ok {bytes : Bytes} {text : String} (decoded : utf8Decode bytes = .ok text) :
    bytes = utf8Encode text := by
  unfold utf8Decode String.fromUTF8? at decoded
  by_cases valid : (⟨bytes.toArray⟩ : ByteArray).IsValidUTF8
  · rw [dif_pos valid] at decoded
    obtain rfl := Except.ok.inj decoded
    rfl
  · rw [dif_neg valid] at decoded
    cases decoded

theorem well_formed_head {blob : Bytes} (long : ¬ blob.length < 1 + nonceLen + 16)
    (version : blob.headD 0 = currentVersion) : WellFormed blob := by
  refine ⟨Nat.le_of_not_lt long, ?_⟩
  cases blob with
  | nil => exact absurd version (by decide)
  | cons first rest => exact congrArg some version

theorem open_malformed (aead : Aead) {blob : Bytes} (key : Bytes) (malformed : ¬ WellFormed blob) :
    ∃ error, openEnvelope aead blob key = .error error ∧ error.kind = .unsupportedKeyVersionError := by
  unfold openEnvelope
  by_cases short : blob.length < 1 + nonceLen + 16
  · rw [if_pos short]
    exact ⟨_, rfl, rfl⟩
  · have other : blob.headD 0 ≠ currentVersion := fun same => malformed (well_formed_head short same)
    rw [if_neg short]
    simp only [if_neg other]
    exact ⟨_, rfl, rfl⟩

@[simp] theorem bytes_nonce (envelope : Envelope) :
    (envelope.bytes.drop 1).take nonceLen = envelope.nonce.val := by
  rw [Envelope.bytes, List.cons_append, List.drop_succ_cons, List.drop_zero]
  exact List.take_left' envelope.nonce.property

@[simp] theorem bytes_cipher (envelope : Envelope) : envelope.bytes.drop (1 + nonceLen) = envelope.cipher := by
  rw [Nat.add_comm, Envelope.bytes, List.cons_append, List.drop_succ_cons]
  exact List.drop_left' envelope.nonce.property

theorem open_bytes (aead : Aead) (envelope : Envelope) (key : Bytes) :
    openEnvelope aead envelope.bytes key =
      match aead.decrypt key envelope.nonce.val envelope.cipher with
      | some plain => utf8Decode plain
      | none => .error ⟨.invalidTag, ""⟩ := by
  have long := Nat.not_lt.mpr (bytes_well_formed envelope).1
  rw [openEnvelope, if_neg long]
  simp only [bytes_nonce, bytes_cipher]
  rfl

/-- Opening returns a text only for an envelope whose ciphertext opens to its bytes. -/
theorem open_ok {aead : Aead} {blob key : Bytes} {text : String}
    (opened : openEnvelope aead blob key = .ok text) :
    ∃ envelope : Envelope, envelope.bytes = blob ∧
      aead.decrypt key envelope.nonce.val envelope.cipher = some (utf8Encode text) := by
  by_cases well : WellFormed blob
  · refine ⟨parts blob well.1, parts_bytes well, ?_⟩
    rw [← parts_bytes well, open_bytes] at opened
    cases plain : aead.decrypt key (parts blob well.1).nonce.val (parts blob well.1).cipher with
    | none =>
        rw [plain] at opened
        cases opened
    | some bytes =>
        rw [plain] at opened
        rw [utf8_decode_ok opened]
  · obtain ⟨error, refused, _⟩ := open_malformed aead key well
    rw [refused] at opened
    cases opened

/-- What `decrypt` accepts is exactly what decodes to a sealed text. -/
theorem decrypt_iff {aead : Aead} (lawful : aead.Lawful) (text plaintext : String) (key : Bytes) :
    decrypt aead text key = .ok plaintext ↔ key.length = keyLen ∧ ∃ nonce : Nonce,
      urlsafeB64decode text =
        .ok (currentVersion :: nonce.val ++ aead.encrypt key nonce.val (utf8Encode plaintext)) := by
  constructor
  · intro accepted
    unfold decrypt at accepted
    by_cases length : key.length = keyLen
    · rw [if_pos length] at accepted
      cases decoded : urlsafeB64decode text with
      | error error =>
          rw [decoded] at accepted
          cases accepted
      | ok blob =>
          rw [decoded] at accepted
          obtain ⟨envelope, rfl, opened⟩ := open_ok accepted
          refine ⟨length, envelope.nonce, ?_⟩
          rw [Envelope.bytes, lawful.authentic _ _ _ _ opened]
    · rw [if_neg length] at accepted
      cases accepted
  · rintro ⟨length, nonce, decoded⟩
    rw [decrypt, if_pos length, decoded]
    exact open_sealed lawful plaintext key nonce

/-! The calls `decrypt` makes: base64 and the cipher. -/

inductive CryptoOp where
  | urlsafeB64decode (text : String)
  | openSealed (key nonce cipher : Bytes)
  deriving DecidableEq, Repr

abbrev CryptoOp.Res (_ : CryptoOp) : Type := Bytes

def cryptoExec (aead : Aead) : (op : CryptoOp) → Unit → Except PyError op.Res × Unit
  | .urlsafeB64decode text, _ => (Base64.urlsafeB64decode text, ())
  | .openSealed key nonce cipher, _ =>
      match aead.decrypt key nonce cipher with
      | some plain => (.ok plain, ())
      | none => (.error ⟨.invalidTag, ""⟩, ())

/-- `openEnvelope` with its call. -/
def openCalls (blob key : Bytes) : Prog CryptoOp CryptoOp.Res PyError String := do
  Prog.require (¬ blob.length < 1 + nonceLen + 16)
    ⟨.unsupportedKeyVersionError, "envelope is too short to be valid"⟩
  let version := blob.headD 0
  Prog.require (version = currentVersion)
    { kind := .unsupportedKeyVersionError
      text := s!"envelope version {version} not supported (current is {currentVersion})" }
  let nonce := (blob.drop 1).take nonceLen
  let cipher := blob.drop (1 + nonceLen)
  let plain ← Prog.perform (CryptoOp.openSealed key nonce cipher)
  Prog.lift (utf8Decode plain)

/-- `decrypt` with its calls. -/
def decryptCalls (envelope : String) (key : Bytes) : Prog CryptoOp CryptoOp.Res PyError String := do
  Prog.require (key.length = keyLen)
    ⟨.invalidMasterKeyError, s!"key must be exactly {keyLen} bytes"⟩
  let blob ← Prog.perform (CryptoOp.urlsafeB64decode envelope)
  openCalls blob key

section Calls

variable (aead : Aead) {text : String} {blob key : Bytes}

theorem run_open (blob key : Bytes) :
    (openCalls blob key).run (cryptoExec aead) () = (openEnvelope aead blob key, ()) := by
  unfold openCalls openEnvelope
  by_cases short : blob.length < 1 + nonceLen + 16
  · simp only [Prog.require, if_pos short, if_neg (not_not_intro short), Prog.bind_eq, Prog.bind_raise,
      Prog.run_raise]
  · by_cases version : blob.headD 0 = currentVersion
    · simp only [Prog.require, if_pos short, if_neg short, if_pos version, Prog.bind_eq, Prog.bind_ret,
        Prog.perform, Prog.bind_await, Prog.run_await, cryptoExec]
      cases aead.decrypt key ((blob.drop 1).take nonceLen) (blob.drop (1 + nonceLen)) with
      | none => rfl
      | some plain =>
          simp only [Prog.bind_ret]
          cases utf8Decode plain <;> rfl
    · simp only [Prog.require, if_pos short, if_neg short, if_neg version, Prog.bind_eq, Prog.bind_ret,
        Prog.bind_raise, Prog.run_raise]

/-- The program and the function agree. -/
theorem run_decrypt (text : String) (key : Bytes) :
    (decryptCalls text key).run (cryptoExec aead) () = (decrypt aead text key, ()) := by
  unfold decryptCalls decrypt
  by_cases length : key.length = keyLen
  · simp only [Prog.require, length, if_true, Prog.bind_eq, Prog.bind_ret, Prog.perform, Prog.bind_await,
      Prog.run_await, cryptoExec]
    cases urlsafeB64decode text with
    | error error => rfl
    | ok blob => exact run_open aead blob key
  · simp [Prog.require, length]

theorem open_calls_malformed (key : Bytes) (malformed : ¬ WellFormed blob) :
    (openCalls blob key).trace (cryptoExec aead) () = [] := by
  unfold openCalls
  by_cases short : blob.length < 1 + nonceLen + 16
  · simp only [Prog.require, if_neg (not_not_intro short), Prog.bind_eq, Prog.bind_raise, Prog.trace]
  · have other : blob.headD 0 ≠ currentVersion := fun same => malformed (well_formed_head short same)
    simp only [Prog.require, if_pos short, if_neg other, Prog.bind_eq, Prog.bind_ret, Prog.bind_raise,
      Prog.trace]

theorem trace_cipher (key nonce cipher : Bytes) :
    ((Prog.perform (CryptoOp.openSealed key nonce cipher)).bind fun plain =>
        (Prog.lift (utf8Decode plain) : Prog CryptoOp CryptoOp.Res PyError String)).trace
      (cryptoExec aead) () =
      let op := CryptoOp.openSealed key nonce cipher
      [⟨op, (cryptoExec aead op ()).1⟩] := by
  rw [Prog.perform, Prog.bind_await, Prog.trace]
  congr 1
  cases (cryptoExec aead (.openSealed key nonce cipher) ()).1 with
  | error error => rfl
  | ok plain =>
      rw [Prog.bind_ret]
      cases utf8Decode plain <;> rfl

/-- An envelope meets the cipher once, by its own parts. -/
theorem open_calls_bytes (envelope : Envelope) (key : Bytes) :
    (openCalls envelope.bytes key).trace (cryptoExec aead) () =
      let op := CryptoOp.openSealed key envelope.nonce.val envelope.cipher
      [⟨op, (cryptoExec aead op ()).1⟩] := by
  have long := Nat.not_lt.mpr (bytes_well_formed envelope).1
  have version : envelope.bytes.headD 0 = currentVersion := rfl
  unfold openCalls
  simp only [Prog.require, if_pos long, if_pos version, Prog.bind_eq, Prog.bind_ret]
  rw [bytes_nonce, bytes_cipher]
  exact trace_cipher aead key envelope.nonce.val envelope.cipher

abbrev Entry := (op : CryptoOp) × Except PyError op.Res

/-- The calls of one `decrypt`. -/
def callsOf (text : String) (key : Bytes) : List Entry :=
  (decryptCalls text key).trace (cryptoExec aead) ()

/-- The text was decoded to these bytes. -/
def Decodes (calls : List Entry) (text : String) (blob : Bytes) : Prop :=
  ⟨.urlsafeB64decode text, .ok blob⟩ ∈ calls

def Reaches (calls : List Entry) : Prop :=
  ∃ key nonce cipher answer, ⟨.openSealed key nonce cipher, answer⟩ ∈ calls

theorem calls_foreign (foreign : key.length ≠ keyLen) : callsOf aead text key = [] := by
  simp [callsOf, decryptCalls, Prog.require, foreign, Prog.trace]

theorem calls_undecoded {error : PyError} (length : key.length = keyLen)
    (undecoded : urlsafeB64decode text = .error error) :
    callsOf aead text key = [⟨.urlsafeB64decode text, .error error⟩] := by
  simp [callsOf, decryptCalls, Prog.require, length, Prog.trace, Prog.perform, cryptoExec, undecoded]

theorem calls_decoded (length : key.length = keyLen) (decoded : urlsafeB64decode text = .ok blob) :
    callsOf aead text key =
      ⟨.urlsafeB64decode text, .ok blob⟩ :: (openCalls blob key).trace (cryptoExec aead) () := by
  simp [callsOf, decryptCalls, Prog.require, length, Prog.trace, Prog.perform, cryptoExec, decoded]

/-- Only under a key of the right length is anything decoded. -/
theorem decodes_iff (text : String) (blob key : Bytes) :
    Decodes (callsOf aead text key) text blob ↔
      key.length = keyLen ∧ urlsafeB64decode text = .ok blob := by
  by_cases length : key.length = keyLen
  · cases decoded : urlsafeB64decode text with
    | error error => simp [Decodes, calls_undecoded aead length decoded]
    | ok bytes =>
        rw [Decodes, calls_decoded aead length decoded]
        by_cases well : WellFormed bytes
        · rw [← parts_bytes well, open_calls_bytes]
          simp [length, eq_comm]
        · rw [open_calls_malformed aead key well]
          simp [length, eq_comm]
  · simp [Decodes, calls_foreign aead length, length]

/-- The cipher is called on no other bytes than those of an envelope. -/
theorem reaches_iff (text : String) (key : Bytes) :
    Reaches (callsOf aead text key) ↔
      key.length = keyLen ∧ ∃ blob, urlsafeB64decode text = .ok blob ∧ WellFormed blob := by
  by_cases length : key.length = keyLen
  · cases decoded : urlsafeB64decode text with
    | error error => simp [Reaches, calls_undecoded aead length decoded]
    | ok bytes =>
        rw [Reaches, calls_decoded aead length decoded]
        by_cases well : WellFormed bytes
        · have reached := open_calls_bytes aead (parts bytes well.1) key
          rw [parts_bytes well] at reached
          rw [reached]
          simp [length, well]
        · rw [open_calls_malformed aead key well]
          simp [well]
  · simp [Reaches, calls_foreign aead length, length]

/-- What a call decodes and finds malformed, it refuses without the cipher. -/
theorem malformed_refused (malformed : ¬ WellFormed blob) (decoded : Decodes (callsOf aead text key) text blob) :
    (∃ error, decrypt aead text key = .error error ∧ error.kind = .unsupportedKeyVersionError) ∧
      ¬ Reaches (callsOf aead text key) := by
  obtain ⟨length, bytes⟩ := (decodes_iff aead text blob key).mp decoded
  constructor
  · rw [decrypt, if_pos length, bytes]
    exact open_malformed aead key malformed
  · intro reached
    obtain ⟨_, other, same, well⟩ := (reaches_iff aead text key).mp reached
    rw [bytes] at same
    cases same
    exact malformed well

end Calls

/-- The envelope as a codec: what is sealed opens to the same text, what opens is
version, nonce and a ciphertext of the text, and anything else that was decoded is
refused before the cipher. -/
theorem envelope_codec {aead : Aead} (lawful : aead.Lawful) :
    (∀ (key : Bytes) (nonce : Nonce) (plaintext : String), key.length = keyLen →
      ∃ envelope, encrypt aead plaintext key nonce = .ok envelope ∧
        decrypt aead envelope key = .ok plaintext) ∧
    (∀ (text plaintext : String) (key : Bytes), decrypt aead text key = .ok plaintext →
      ∃ (nonce : Nonce) (cipher : Bytes),
        urlsafeB64decode text = .ok (currentVersion :: nonce.val ++ cipher) ∧
          aead.decrypt key nonce.val cipher = some (utf8Encode plaintext)) ∧
    ∀ (text : String) (key blob : Bytes), Decodes (callsOf aead text key) text blob →
      blob.length < 29 ∨ blob.head? ≠ some currentVersion →
        (∃ error, decrypt aead text key = .error error ∧ error.kind = .unsupportedKeyVersionError) ∧
          ¬ Reaches (callsOf aead text key) := by
  refine ⟨?_, ?_, ?_⟩
  · intro key nonce plaintext length
    have sealed : encrypt aead plaintext key nonce = .ok (urlsafeB64encode
        (currentVersion :: nonce.val ++ aead.encrypt key nonce.val (utf8Encode plaintext))) := by
      rw [encrypt, if_pos length]
    exact ⟨_, sealed, decrypt_encrypt lawful plaintext key nonce _ sealed⟩
  · intro text plaintext key accepted
    obtain ⟨_, nonce, decoded⟩ := (decrypt_iff lawful text plaintext key).mp accepted
    exact ⟨nonce, _, decoded, lawful.decrypt_encrypt key nonce.val (utf8Encode plaintext)⟩
  · intro text key blob decoded malformed
    apply malformed_refused aead _ decoded
    rintro ⟨long, version⟩
    rcases malformed with short | other
    · exact Nat.not_lt_of_le long short
    · exact other version

def sampleKey : Bytes := List.replicate 32 7

theorem sample_codec :
    (∃ envelope, encrypt taggingAead "" sampleKey ⟨List.replicate 12 1, rfl⟩ = .ok envelope ∧
      decrypt taggingAead envelope sampleKey = .ok "") ∧
    (∃ (nonce : Nonce) (cipher : Bytes),
      urlsafeB64decode "AQEBAQEBAQEBAQEBAWhpAAAAAAAAAAAAAAAAAAAAAA==" =
        .ok (currentVersion :: nonce.val ++ cipher) ∧
        taggingAead.decrypt sampleKey nonce.val cipher = some (utf8Encode "hi")) ∧
    (∃ error, decrypt taggingAead "AXNob3J0" sampleKey = .error error ∧
      error.kind = .unsupportedKeyVersionError) ∧
    ¬ Reaches (callsOf taggingAead "AXNob3J0" sampleKey) := by
  obtain ⟨roundTrip, sound, refused⟩ := envelope_codec tagging_aead_lawful
  have decoded : Decodes (callsOf taggingAead "AXNob3J0" sampleKey) "AXNob3J0" [1, 115, 104, 111, 114, 116] :=
    (decodes_iff taggingAead _ _ _).mpr ⟨rfl, by rfl⟩
  have short := refused "AXNob3J0" sampleKey _ decoded (.inl (by decide))
  exact ⟨roundTrip sampleKey _ "" rfl, sound _ "hi" sampleKey (by rfl), short.1, short.2⟩

end Lehen.Envelopes
