import Lehen.OAuth

/-!
`urllib.parse.parse_qsl`, blank values kept, as whoever receives an
authorization URL reads its query, and that it inverts `urlencode`.
-/

namespace Lehen.Query

open Base64 Secrets OAuth

def hexValue (c : Char) : Option Nat :=
  if 48 ≤ c.toNat ∧ c.toNat ≤ 57 then some (c.toNat - 48)
  else if 65 ≤ c.toNat ∧ c.toNat ≤ 70 then some (c.toNat - 55)
  else if 97 ≤ c.toNat ∧ c.toNat ≤ 102 then some (c.toNat - 87)
  else none

def charBytes (c : Char) : Bytes :=
  if c.toNat < 128 then [UInt8.ofNat c.toNat] else utf8Encode (String.singleton c)

/-- `unquote_to_bytes` of a text whose `+` stand for spaces. -/
def unquoteBytes : List Char → Bytes
  | [] => []
  | '+' :: rest => 32 :: unquoteBytes rest
  | '%' :: high :: low :: rest =>
      match hexValue high, hexValue low with
      | some upper, some lower => UInt8.ofNat (upper * 16 + lower) :: unquoteBytes rest
      | _, _ => 37 :: unquoteBytes (high :: low :: rest)
  | c :: rest => charBytes c ++ unquoteBytes rest

/-- Bytes that are no UTF-8, which `errors="replace"` would patch up, are refused. -/
def unquotePlus (text : List Char) : Except PyError String := utf8Decode (unquoteBytes text)

def parsePair (text : List Char) : Except PyError (String × String) := do
  let name ← unquotePlus (text.takeWhile (· ≠ '='))
  let value ← unquotePlus ((text.dropWhile (· ≠ '=')).drop 1)
  return (name, value)

def parseQsl (query : String) : Except PyError (List (String × String)) :=
  ((query.toList.splitOn '&').filter (· ≠ [])).mapM parsePair

/-- What follows the last `?`: an encoded query has none of its own, while the
endpoint in front of it may. -/
def queryOf (url : String) : String :=
  String.ofList ((url.toList.reverse.takeWhile (· ≠ '?')).reverse)

/-- A parameter in the query of a URL. -/
def urlParam (url name : String) : Option String :=
  match parseQsl (queryOf url) with
  | .ok params => params.lookup name
  | .error _ => none

/-! Quoting, byte by byte. -/

def quoteByte (byte : UInt8) : List Char :=
  let c := Char.ofNat byte.toNat
  if c.isAlphanum ∨ c = '_' ∨ c = '.' ∨ c = '-' ∨ c = '~' then [c]
  else if c = ' ' then ['+']
  else ['%', upperHexDigit (byte.toNat / 16), upperHexDigit (byte.toNat % 16)]

theorem quote_plus_chars (text : String) :
    (quotePlus text).toList = (utf8Encode text).flatMap quoteByte :=
  String.toList_ofList

/-- The characters that structure a query. -/
def Structural (c : Char) : Prop := c = '&' ∨ c = '=' ∨ c = '?'

theorem plain_byte : ∀ byte : Fin 256,
    (Char.ofNat byte).isAlphanum ∨ Char.ofNat byte = '_' ∨ Char.ofNat byte = '.' ∨
        Char.ofNat byte = '-' ∨ Char.ofNat byte = '~' →
      (Char.ofNat byte).toNat = byte ∧ byte.val < 128 ∧ Char.ofNat byte ≠ '+' ∧
        Char.ofNat byte ≠ '%' ∧ Char.ofNat byte ≠ '&' ∧ Char.ofNat byte ≠ '=' ∧
        Char.ofNat byte ≠ '?' := by
  decide +kernel

theorem hex_digit_value : ∀ digit : Fin 16,
    hexValue (upperHexDigit digit) = some digit.val ∧ upperHexDigit digit ≠ '&' ∧
      upperHexDigit digit ≠ '=' ∧ upperHexDigit digit ≠ '?' := by
  decide +kernel

theorem space_byte : ∀ byte : Fin 256, Char.ofNat byte = ' ' → byte.val = 32 := by
  decide +kernel

theorem quoted_plain (byte : UInt8) (c : Char) (member : c ∈ quoteByte byte) : ¬ Structural c := by
  have small := byte.toNat_lt
  unfold quoteByte at member
  dsimp only at member
  split at member
  · rename_i plain
    have facts := plain_byte ⟨byte.toNat, small⟩ plain
    rw [List.mem_singleton.mp member]
    rintro (same | same | same) <;> simp_all
  · split at member
    · rw [List.mem_singleton.mp member]
      rintro (same | same | same) <;> cases same
    · have high := hex_digit_value ⟨byte.toNat / 16, by omega⟩
      have low := hex_digit_value ⟨byte.toNat % 16, by omega⟩
      simp only [List.mem_cons, List.not_mem_nil, or_false] at member
      rcases member with rfl | rfl | rfl
      · rintro (same | same | same) <;> cases same
      · rintro (same | same | same) <;> simp_all
      · rintro (same | same | same) <;> simp_all

/-- A character that stands for itself. -/
theorem unquote_plain {c : Char} (plus : c ≠ '+') (percent : c ≠ '%') (rest : List Char) :
    unquoteBytes (c :: rest) = charBytes c ++ unquoteBytes rest := by
  rw [unquoteBytes]
  · exact plus
  · exact fun high low tail same _ => percent same

theorem unquote_byte (byte : UInt8) (rest : List Char) :
    unquoteBytes (quoteByte byte ++ rest) = byte :: unquoteBytes rest := by
  have small := byte.toNat_lt
  unfold quoteByte
  dsimp only
  split
  · rename_i plain
    obtain ⟨same, ascii, plus, percent, _⟩ := plain_byte ⟨byte.toNat, small⟩ plain
    dsimp only at same ascii plus percent
    rw [List.singleton_append, unquote_plain plus percent, charBytes, same, if_pos ascii,
      UInt8.ofNat_toNat]
    rfl
  · split
    · rename_i space
      have value : byte.toNat = 32 := space_byte ⟨byte.toNat, small⟩ space
      have same : byte = 32 := UInt8.toNat_inj.mp value
      rw [same, List.singleton_append, unquoteBytes]
    · have high := (hex_digit_value ⟨byte.toNat / 16, by omega⟩).1
      have low := (hex_digit_value ⟨byte.toNat % 16, by omega⟩).1
      dsimp only at high low
      have whole : byte.toNat / 16 * 16 + byte.toNat % 16 = byte.toNat := by omega
      simp only [List.cons_append, List.nil_append, unquoteBytes, high, low, whole,
        UInt8.ofNat_toNat]

theorem unquote_bytes (bytes : Bytes) : unquoteBytes (bytes.flatMap quoteByte) = bytes := by
  induction bytes with
  | nil => rfl
  | cons byte rest ih => rw [List.flatMap_cons, unquote_byte, ih]

theorem unquote_quote (text : String) : unquotePlus (quotePlus text).toList = .ok text := by
  rw [unquotePlus, quote_plus_chars, unquote_bytes, utf8_decode_encode]

/-- A quoted text has nothing in it that a query is split at. -/
theorem quoted_unstructured (text : String) (c : Char) (member : c ∈ (quotePlus text).toList) :
    ¬ Structural c := by
  rw [quote_plus_chars] at member
  obtain ⟨byte, _, inside⟩ := List.mem_flatMap.mp member
  exact quoted_plain byte c inside

/-! The query as a whole. -/

def pairChars (param : String × String) : List Char :=
  (quotePlus param.1).toList ++ '=' :: (quotePlus param.2).toList

theorem urlencode_chars (params : List (String × String)) :
    (urlencode params).toList = ['&'].intercalate (params.map pairChars) := by
  have separator : "&".toList = ['&'] := rfl
  have equals : "=".toList = ['='] := rfl
  rw [urlencode, String.toList_intercalate, separator, List.map_map]
  congr 2
  funext param
  simp [pairChars, String.toList_append, equals]

theorem parse_pair (param : String × String) : parsePair (pairChars param) = .ok param := by
  have plain : ∀ c ∈ (quotePlus param.1).toList, decide (c ≠ '=') = true := by
    intro c member
    have apart := quoted_unstructured param.1 c member
    simp only [decide_eq_true_eq]
    exact fun same => apart (.inr (.inl same))
  have before : (pairChars param).takeWhile (· ≠ '=') = (quotePlus param.1).toList := by
    rw [pairChars, List.takeWhile_append_of_pos plain]
    simp
  have after : ((pairChars param).dropWhile (· ≠ '=')).drop 1 = (quotePlus param.2).toList := by
    rw [pairChars, List.dropWhile_append_of_pos plain]
    simp
  rw [parsePair, before, after, unquote_quote, unquote_quote]
  rfl

theorem pair_unsplit (params : List (String × String)) :
    ∀ part ∈ params.map pairChars, '&' ∉ part := by
  intro part member ampersand
  obtain ⟨param, _, rfl⟩ := List.mem_map.mp member
  rcases List.mem_append.mp ampersand with first | second
  · exact quoted_unstructured param.1 _ first (.inl rfl)
  · rcases List.mem_cons.mp second with same | second
    · cases same
    · exact quoted_unstructured param.2 _ second (.inl rfl)

theorem parse_pairs (params : List (String × String)) :
    (params.map pairChars).mapM parsePair = .ok params := by
  induction params with
  | nil => rfl
  | cons param rest ih =>
      rw [List.map_cons, List.mapM_cons, parse_pair, ih]
      rfl

/-- Parsing inverts encoding. -/
theorem parse_urlencode (params : List (String × String)) :
    parseQsl (urlencode params) = .ok params := by
  rw [parseQsl, urlencode_chars]
  cases params with
  | nil => rfl
  | cons param rest =>
      have filled : ∀ part ∈ (param :: rest).map pairChars, decide (part ≠ []) = true := by
        intro part member
        obtain ⟨param, _, rfl⟩ := List.mem_map.mp member
        simp [pairChars]
      rw [List.splitOn_intercalate '&' (pair_unsplit _) (by simp), List.filter_eq_self.mpr filled,
        parse_pairs]

theorem not_mem_intercalate {c separator : Char} {parts : List (List Char)} (apart : c ≠ separator)
    (absent : ∀ part ∈ parts, c ∉ part) : c ∉ [separator].intercalate parts := by
  induction parts with
  | nil => simp
  | cons part rest ih =>
      have later := ih fun other member => absent other (List.mem_cons_of_mem _ member)
      have first := absent part List.mem_cons_self
      cases rest with
      | nil => simpa using first
      | cons next others =>
          rw [List.intercalate_cons_cons]
          simp [first, apart, later]

theorem urlencode_unmarked (params : List (String × String)) : '?' ∉ (urlencode params).toList := by
  rw [urlencode_chars]
  apply not_mem_intercalate (by decide)
  intro part member mark
  obtain ⟨param, _, rfl⟩ := List.mem_map.mp member
  rcases List.mem_append.mp mark with first | second
  · exact quoted_unstructured param.1 _ first (.inr (.inr rfl))
  · rcases List.mem_cons.mp second with same | second
    · cases same
    · exact quoted_unstructured param.2 _ second (.inr (.inr rfl))

/-- The query of a URL built from an endpoint and an encoded query. -/
theorem query_of_url (endpoint : String) (params : List (String × String)) :
    queryOf (endpoint ++ "?" ++ urlencode params) = urlencode params := by
  have unmarked : ∀ c ∈ (urlencode params).toList.reverse, decide (c ≠ '?') = true := by
    intro c member
    simp only [decide_eq_true_eq]
    rintro rfl
    exact urlencode_unmarked params (List.mem_reverse.mp member)
  have mark : "?".toList = ['?'] := rfl
  rw [queryOf, String.toList_append, String.toList_append, mark, List.reverse_append,
    List.takeWhile_append_of_pos unmarked, List.reverse_append]
  simp

theorem url_param (endpoint name : String) (params : List (String × String)) :
    urlParam (endpoint ++ "?" ++ urlencode params) name = params.lookup name := by
  rw [urlParam, query_of_url, parse_urlencode]

end Lehen.Query
