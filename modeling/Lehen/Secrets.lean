import Lehen.Base64

/-!
`crypto/secrets.py` and `crypto/audit_fingerprint.py`. AES-GCM and HMAC-SHA256
are parameters; the versioned envelope around them is the code's own.
-/

namespace Lehen.Secrets

open Base64

def currentVersion : UInt8 := 1
def nonceLen : Nat := 12
def keyLen : Nat := 32

abbrev Nonce := { bytes : Bytes // bytes.length = nonceLen }

/-- Authenticated encryption: key, nonce, text. -/
structure Aead where
  encrypt : Bytes → Bytes → Bytes → Bytes
  decrypt : Bytes → Bytes → Bytes → Option Bytes

/-- What is documented of AES-GCM: decryption inverts encryption, accepts
nothing else, and a ciphertext carries a tag of 16 bytes. -/
structure Aead.Lawful (aead : Aead) : Prop where
  decrypt_encrypt : ∀ key nonce plain, aead.decrypt key nonce (aead.encrypt key nonce plain) = some plain
  authentic : ∀ key nonce cipher plain,
    aead.decrypt key nonce cipher = some plain → cipher = aead.encrypt key nonce plain
  tagged : ∀ key nonce plain, 16 ≤ (aead.encrypt key nonce plain).length

/-- A cipher that only appends a tag of zeros: enough to run the envelope code. -/
def taggingAead : Aead :=
  { encrypt := fun _ _ plain => plain ++ List.replicate 16 0
    decrypt := fun _ _ cipher =>
      let plain := cipher.take (cipher.length - 16)
      if cipher = plain ++ List.replicate 16 0 then some plain else none }

theorem tagging_aead_lawful : taggingAead.Lawful where
  decrypt_encrypt := by
    intro key nonce plain
    have strip : (plain ++ List.replicate 16 (0 : UInt8)).take
        ((plain ++ List.replicate 16 (0 : UInt8)).length - 16) = plain := by
      rw [List.length_append, List.length_replicate, Nat.add_sub_cancel]
      exact List.take_left' rfl
    simp only [taggingAead, strip, if_true]
  authentic := by
    intro key nonce cipher plain opened
    simp only [taggingAead] at opened ⊢
    split at opened
    · rename_i same
      obtain rfl := Option.some.inj opened
      exact same
    · cases opened
  tagged := by
    intro key nonce plain
    simp only [taggingAead, List.length_append, List.length_replicate]
    exact Nat.le_add_left 16 _

def utf8Encode (text : String) : Bytes := text.toUTF8.data.toList

def utf8Decode (bytes : Bytes) : Except PyError String :=
  match String.fromUTF8? ⟨bytes.toArray⟩ with
  | some text => .ok text
  | none => .error ⟨.unicodeError, "\x27utf-8\x27 codec can\x27t decode bytes"⟩

variable (aead : Aead)

def encrypt (plaintext : String) (key : Bytes) (nonce : Nonce) : Except PyError String :=
  if key.length = keyLen then
    .ok (urlsafeB64encode
      (currentVersion :: nonce.val ++ aead.encrypt key nonce.val (utf8Encode plaintext)))
  else .error ⟨.invalidMasterKeyError, s!"key must be exactly {keyLen} bytes"⟩

/-- The part of `decrypt` after the envelope has been base64-decoded. -/
def openEnvelope (blob key : Bytes) : Except PyError String :=
  if blob.length < 1 + nonceLen + 16 then
    .error ⟨.unsupportedKeyVersionError, "envelope is too short to be valid"⟩
  else
    let version := blob.headD 0
    if version = currentVersion then
      let nonce := (blob.drop 1).take nonceLen
      let cipher := blob.drop (1 + nonceLen)
      match aead.decrypt key nonce cipher with
      | some plain => utf8Decode plain
      | none => .error ⟨.invalidTag, ""⟩
    else .error
      { kind := .unsupportedKeyVersionError
        text := s!"envelope version {version} not supported (current is {currentVersion})" }

def decrypt (envelope : String) (key : Bytes) : Except PyError String :=
  if key.length = keyLen then do
    let blob ← urlsafeB64decode envelope
    openEnvelope aead blob key
  else .error ⟨.invalidMasterKeyError, s!"key must be exactly {keyLen} bytes"⟩

def hexdigest (digest : Bytes) : String :=
  String.ofList (digest.flatMap fun byte =>
    [Json.hexDigit (byte.toNat / 16), Json.hexDigit (byte.toNat % 16)])

/-- `fingerprint` of the audit log, keyed by the pepper. -/
def fingerprint (hmacSha256 : Bytes → Bytes → Bytes) (plaintext : String) (pepper : Bytes) :
    Except PyError String :=
  if pepper.length = 32 then .ok (hexdigest (hmacSha256 pepper (utf8Encode plaintext)))
  else .error ⟨.invalidAuditPepperError, "pepper must be exactly 32 bytes"⟩

theorem utf8_decode_encode (text : String) : utf8Decode (utf8Encode text) = .ok text := by
  have same : String.fromUTF8? text.toUTF8 = some text := by
    rw [String.fromUTF8?, String.toUTF8_eq_toByteArray, dif_pos text.isValidUTF8]
    rfl
  simp only [utf8Decode, utf8Encode, Array.toArray_toList, same]

theorem open_sealed {aead : Aead} (lawful : aead.Lawful) (plaintext : String) (key : Bytes)
    (nonce : Nonce) :
    openEnvelope aead (currentVersion :: nonce.val ++ aead.encrypt key nonce.val (utf8Encode plaintext))
      key = .ok plaintext := by
  have nonceLength : nonce.val.length = 12 := nonce.property
  have tagged := lawful.tagged key nonce.val (utf8Encode plaintext)
  have long : ¬ (currentVersion :: nonce.val ++
      aead.encrypt key nonce.val (utf8Encode plaintext)).length < 1 + nonceLen + 16 := by
    simp only [List.cons_append, List.length_cons, List.length_append, nonceLength, nonceLen]
    omega
  have takeNonce : ((currentVersion :: nonce.val ++
      aead.encrypt key nonce.val (utf8Encode plaintext)).drop 1).take nonceLen = nonce.val := by
    rw [List.cons_append, List.drop_succ_cons, List.drop_zero]
    exact List.take_left' nonce.property
  have takeCipher : (currentVersion :: nonce.val ++
      aead.encrypt key nonce.val (utf8Encode plaintext)).drop (1 + nonceLen) =
        aead.encrypt key nonce.val (utf8Encode plaintext) := by
    rw [Nat.add_comm, List.cons_append, List.drop_succ_cons]
    exact List.drop_left' nonce.property
  rw [openEnvelope, if_neg long]
  simp only [takeNonce, takeCipher, lawful.decrypt_encrypt, utf8_decode_encode]
  rfl

theorem decrypt_encrypt {aead : Aead} (lawful : aead.Lawful) (plaintext : String) (key : Bytes)
    (nonce : Nonce) (envelope : String) (sealed : encrypt aead plaintext key nonce = .ok envelope) :
    decrypt aead envelope key = .ok plaintext := by
  unfold encrypt at sealed
  by_cases length : key.length = keyLen
  · rw [if_pos length] at sealed
    obtain rfl := Except.ok.inj sealed
    rw [decrypt, if_pos length, decode_encode]
    exact open_sealed lawful plaintext key nonce
  · rw [if_neg length] at sealed
    cases sealed

end Lehen.Secrets
