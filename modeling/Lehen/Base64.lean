import Lehen.Python
import Mathlib.Tactic.IntervalCases

/-!
`base64.urlsafe_b64encode` and `base64.urlsafe_b64decode`. Decoding is the
lenient one: characters outside the alphabet are skipped, the standard
alphabet is accepted too, and a complete padding sequence ends the input.
-/

namespace Lehen.Base64

abbrev Bytes := List UInt8

/-- The character of a six-bit group. -/
def symbol (group : Nat) : Char :=
  if group < 26 then Char.ofNat (65 + group)
  else if group < 52 then Char.ofNat (71 + group)
  else if group < 62 then Char.ofNat (group - 4)
  else if group = 62 then '-'
  else '_'

def group (c : Char) : Option Nat :=
  if 65 ≤ c.toNat ∧ c.toNat ≤ 90 then some (c.toNat - 65)
  else if 97 ≤ c.toNat ∧ c.toNat ≤ 122 then some (c.toNat - 71)
  else if 48 ≤ c.toNat ∧ c.toNat ≤ 57 then some (c.toNat + 4)
  else if c = '-' ∨ c = '+' then some 62
  else if c = '_' ∨ c = '/' then some 63
  else none

def encodeChars : Bytes → List Char
  | [] => []
  | [a] => [symbol (a.toNat / 4), symbol (a.toNat % 4 * 16), '=', '=']
  | [a, b] =>
      [symbol (a.toNat / 4), symbol (a.toNat % 4 * 16 + b.toNat / 16),
        symbol (b.toNat % 16 * 4), '=']
  | a :: b :: c :: rest =>
      symbol (a.toNat / 4) :: symbol (a.toNat % 4 * 16 + b.toNat / 16) ::
        symbol (b.toNat % 16 * 4 + c.toNat / 64) :: symbol (c.toNat % 64) :: encodeChars rest

def urlsafeB64encode (data : Bytes) : String := String.ofList (encodeChars data)

def emit (byte : Nat) (rest : Except PyError Bytes) : Except PyError Bytes :=
  rest.map (UInt8.ofNat byte :: ·)

/-- `position` counts the symbols of the current quad, `left` holds its bits
not yet written, `pads` the padding seen since the last symbol and `seen` all
symbols so far. -/
def decodeFrom (position left pads seen : Nat) : List Char → Except PyError Bytes
  | [] =>
      if position = 0 then .ok []
      else if position = 1 then .error
        { kind := .binasciiError
          text := s!"Invalid base64-encoded string: number of data characters ({seen}) " ++
            "cannot be 1 more than a multiple of 4" }
      else .error ⟨.binasciiError, "Incorrect padding"⟩
  | c :: rest =>
      if c = '=' then
        if 2 ≤ position then
          if 4 ≤ position + (pads + 1) then .ok []
          else decodeFrom position left (pads + 1) seen rest
        else decodeFrom position left pads seen rest
      else
        match group c with
        | none => decodeFrom position left pads seen rest
        | some bits =>
            if position = 0 then decodeFrom 1 bits 0 (seen + 1) rest
            else if position = 1 then
              emit (left * 4 + bits / 16) (decodeFrom 2 (bits % 16) 0 (seen + 1) rest)
            else if position = 2 then
              emit (left * 16 + bits / 4) (decodeFrom 3 (bits % 4) 0 (seen + 1) rest)
            else emit (left * 64 + bits) (decodeFrom 0 0 0 (seen + 1) rest)

/-- The argument is text that the caller first encodes as ASCII. -/
def urlsafeB64decode (text : String) : Except PyError Bytes :=
  if text.toList.all fun c => c.toNat < 128 then decodeFrom 0 0 0 0 text.toList
  else .error ⟨.unicodeError, "\x27ascii\x27 codec can\x27t encode character"⟩

theorem group_symbol (bits : Nat) (small : bits < 64) : group (symbol bits) = some bits := by
  interval_cases bits <;> decide

theorem symbol_ascii (bits : Nat) (small : bits < 64) :
    (symbol bits).toNat < 128 ∧ symbol bits ≠ '=' := by
  interval_cases bits <;> decide

theorem emit_byte (byte : UInt8) (value : Nat) (same : value = byte.toNat)
    (rest : Except PyError Bytes) : emit value rest = rest.map (byte :: ·) := by
  rw [emit, same, UInt8.ofNat_toNat]

section Quad

variable (left pads seen bits : Nat) (small : bits < 64) (byte : UInt8) (rest : List Char)
include small

theorem decode_first : decodeFrom 0 left pads seen (symbol bits :: rest) =
    decodeFrom 1 bits 0 (seen + 1) rest := by
  simp only [decodeFrom, if_neg (symbol_ascii bits small).2, group_symbol bits small, if_true]

theorem decode_second (same : left * 4 + bits / 16 = byte.toNat) :
    decodeFrom 1 left pads seen (symbol bits :: rest) =
      (decodeFrom 2 (bits % 16) 0 (seen + 1) rest).map (byte :: ·) := by
  simp only [decodeFrom, if_neg (symbol_ascii bits small).2, group_symbol bits small,
    if_neg Nat.one_ne_zero, if_true, emit_byte byte _ same]

theorem decode_third (same : left * 16 + bits / 4 = byte.toNat) :
    decodeFrom 2 left pads seen (symbol bits :: rest) =
      (decodeFrom 3 (bits % 4) 0 (seen + 1) rest).map (byte :: ·) := by
  simp only [decodeFrom, if_neg (symbol_ascii bits small).2, group_symbol bits small,
    if_neg (show ¬ (2 : Nat) = 0 by decide), if_neg (show ¬ (2 : Nat) = 1 by decide), if_true,
    emit_byte byte _ same]

theorem decode_fourth (same : left * 64 + bits = byte.toNat) :
    decodeFrom 3 left pads seen (symbol bits :: rest) =
      (decodeFrom 0 0 0 (seen + 1) rest).map (byte :: ·) := by
  simp only [decodeFrom, if_neg (symbol_ascii bits small).2, group_symbol bits small,
    if_neg (show ¬ (3 : Nat) = 0 by decide), if_neg (show ¬ (3 : Nat) = 1 by decide),
    if_neg (show ¬ (3 : Nat) = 2 by decide), emit_byte byte _ same]

end Quad

theorem decode_encoded (data : Bytes) (seen : Nat) :
    decodeFrom 0 0 0 seen (encodeChars data) = .ok data := by
  induction data using encodeChars.induct generalizing seen with
  | case1 => rfl
  | case2 a =>
      have small := a.toNat_lt
      rw [encodeChars, decode_first _ _ _ _ (by omega), decode_second _ _ _ _ (by omega) a _ (by omega)]
      rfl
  | case3 a b =>
      have smallA := a.toNat_lt
      have smallB := b.toNat_lt
      rw [encodeChars, decode_first _ _ _ _ (by omega),
        decode_second _ _ _ _ (by omega) a _ (by omega),
        decode_third _ _ _ _ (by omega) b _ (by omega)]
      rfl
  | case4 a b c rest ih =>
      have smallA := a.toNat_lt
      have smallB := b.toNat_lt
      have smallC := c.toNat_lt
      rw [encodeChars, decode_first _ _ _ _ (by omega),
        decode_second _ _ _ _ (by omega) a _ (by omega),
        decode_third _ _ _ _ (by omega) b _ (by omega),
        decode_fourth _ _ _ _ (by omega) c _ (by omega), ih]
      rfl

theorem encoded_ascii (data : Bytes) : ∀ c ∈ encodeChars data, c.toNat < 128 := by
  induction data using encodeChars.induct with
  | case1 => simp [encodeChars]
  | case2 a =>
      have small := a.toNat_lt
      simp only [encodeChars, List.forall_mem_cons]
      refine ⟨(symbol_ascii _ (by omega)).1, (symbol_ascii _ (by omega)).1, by decide, by decide, ?_⟩
      simp
  | case3 a b =>
      have smallA := a.toNat_lt
      have smallB := b.toNat_lt
      simp only [encodeChars, List.forall_mem_cons]
      refine ⟨(symbol_ascii _ (by omega)).1, (symbol_ascii _ (by omega)).1,
        (symbol_ascii _ (by omega)).1, by decide, ?_⟩
      simp
  | case4 a b c rest ih =>
      have smallA := a.toNat_lt
      have smallB := b.toNat_lt
      have smallC := c.toNat_lt
      simp only [encodeChars, List.forall_mem_cons]
      exact ⟨(symbol_ascii _ (by omega)).1, (symbol_ascii _ (by omega)).1,
        (symbol_ascii _ (by omega)).1, (symbol_ascii _ (by omega)).1, ih⟩

theorem decode_encode (data : Bytes) : urlsafeB64decode (urlsafeB64encode data) = .ok data := by
  have ascii : (encodeChars data).all (fun c => c.toNat < 128) = true := by
    simpa using encoded_ascii data
  rw [urlsafeB64decode, urlsafeB64encode, String.toList_ofList, if_pos ascii, decode_encoded]

end Lehen.Base64
