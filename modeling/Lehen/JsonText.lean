import Lehen.Python
import Mathlib.Data.List.Sort
import Mathlib.Tactic.IntervalCases

/-!
`json.dumps(value, separators=(",", ":"), sort_keys=True)` and `json.loads`.
Only ASCII is written: other characters become `\uXXXX`, above the basic plane
as a surrogate pair. A lone surrogate that is read becomes U+FFFD, since a
character here is a Unicode scalar value.
-/

namespace Lehen.JsonText

open Json (hexDigit)

def quote : Char := Char.ofNat 34
def backslash : Char := Char.ofNat 92

def escapeUnit (unit : Nat) : List Char :=
  [backslash, 'u', hexDigit (unit / 4096), hexDigit (unit / 256 % 16),
    hexDigit (unit / 16 % 16), hexDigit (unit % 16)]

def escape (c : Char) : List Char :=
  if c = quote then [backslash, quote]
  else if c = backslash then [backslash, backslash]
  else if c = '\n' then [backslash, 'n']
  else if c = '\r' then [backslash, 'r']
  else if c = '\t' then [backslash, 't']
  else if c.toNat = 8 then [backslash, 'b']
  else if c.toNat = 12 then [backslash, 'f']
  else if 32 ≤ c.toNat ∧ c.toNat < 127 then [c]
  else if c.toNat < 0x10000 then escapeUnit c.toNat
  else escapeUnit (0xD800 + (c.toNat - 0x10000) / 0x400) ++
    escapeUnit (0xDC00 + (c.toNat - 0x10000) % 0x400)

def writeString (text : String) : List Char :=
  quote :: text.toList.flatMap escape ++ [quote]

def sortFields (fields : List (String × Json)) : List (String × Json) :=
  fields.insertionSort fun left right => left.1 ≤ right.1

mutual

def write : Json → List Char
  | .null => "null".toList
  | .bool true => "true".toList
  | .bool false => "false".toList
  | .int value => (toString value).toList
  | .float value => value.repr.toList
  | .str value => writeString value
  | .arr items => '[' :: writeItems items
  | .obj fields => '{' :: writeFields fields

def writeItems : List Json → List Char
  | [] => [']']
  | [item] => write item ++ [']']
  | item :: rest => write item ++ ',' :: writeItems rest

def writeFields : List (String × Json) → List Char
  | [] => ['}']
  | [(key, value)] => writeString key ++ ':' :: write value ++ ['}']
  | (key, value) :: rest => writeString key ++ ':' :: write value ++ ',' :: writeFields rest

end

mutual

/-- `sort_keys=True`. -/
def sortKeys : Json → Json
  | .arr items => .arr (sortItems items)
  | .obj fields => .obj (sortFields (sortMembers fields))
  | other => other

def sortItems : List Json → List Json
  | [] => []
  | item :: rest => sortKeys item :: sortItems rest

def sortMembers : List (String × Json) → List (String × Json)
  | [] => []
  | (key, value) :: rest => (key, sortKeys value) :: sortMembers rest

end

def dumps (value : Json) : String := String.ofList (write (sortKeys value))

/-! Reading. -/

def hexValue (c : Char) : Option Nat :=
  if c.isDigit then some (c.toNat - 48)
  else if 97 ≤ c.toNat ∧ c.toNat ≤ 102 then some (c.toNat - 87)
  else if 65 ≤ c.toNat ∧ c.toNat ≤ 70 then some (c.toNat - 55)
  else none

def hexUnit (a b c d : Char) : Option Nat := do
  return ((← hexValue a) * 4096 + (← hexValue b) * 256 + (← hexValue c) * 16 + (← hexValue d))

def simpleEscape (c : Char) : Option Nat :=
  if c = quote ∨ c = backslash ∨ c = '/' then some c.toNat
  else if c = 'n' then some 10
  else if c = 'r' then some 13
  else if c = 't' then some 9
  else if c = 'b' then some 8
  else if c = 'f' then some 12
  else none

def unitThen (unit : Nat) (rest : Option (List Nat × List Char)) :
    Option (List Nat × List Char) :=
  rest.map fun scanned => (unit :: scanned.1, scanned.2)

/-- The code units of a string up to its closing quote, and what follows. -/
def scanUnits : List Char → Option (List Nat × List Char)
  | [] => none
  | c :: rest =>
      if c = quote then some ([], rest)
      else if c = backslash then
        match rest with
        | [] => none
        | e :: tail =>
            if e = 'u' then
              match tail with
              | h₁ :: h₂ :: h₃ :: h₄ :: after =>
                  (hexUnit h₁ h₂ h₃ h₄).bind fun unit => unitThen unit (scanUnits after)
              | _ => none
            else (simpleEscape e).bind fun unit => unitThen unit (scanUnits tail)
      else if c.toNat < 32 then none
      else unitThen c.toNat (scanUnits rest)

def isHigh (unit : Nat) : Bool := 0xD800 ≤ unit && unit < 0xDC00
def isLow (unit : Nat) : Bool := 0xDC00 ≤ unit && unit < 0xE000

def unitChar (unit : Nat) : Char :=
  if isHigh unit || isLow unit then Char.ofNat 0xFFFD else Char.ofNat unit

def joinUnits : List Nat → List Char
  | [] => []
  | [unit] => [unitChar unit]
  | unit :: follow :: rest =>
      if isHigh unit && isLow follow then
        Char.ofNat (0x10000 + (unit - 0xD800) * 0x400 + (follow - 0xDC00)) :: joinUnits rest
      else unitChar unit :: joinUnits (follow :: rest)

def readString (input : List Char) : Option (String × List Char) :=
  (scanUnits input).map fun scanned => (String.ofList (joinUnits scanned.1), scanned.2)

def skipSpace (input : List Char) : List Char :=
  input.dropWhile fun c => c = ' ' || c = '\t' || c = '\n' || c = '\r'

def natOf (digits : List Char) : Nat := Nat.ofDigitChars 10 digits 0

/-- The value of a float literal, as far as `PyFloat` records it. -/
def floatOf (text : List Char) (spelled : isFloatText text = true) (negative : Bool)
    (whole fraction : List Char) (exponent : Int) : PyFloat :=
  let mantissa := natOf (whole ++ fraction)
  let shift := exponent - fraction.length
  let magnitude : Option Nat :=
    if mantissa = 0 then some 0
    else if 400 < shift + (whole ++ fraction).length then none
    else if 0 ≤ shift then some (mantissa * 10 ^ shift.toNat)
    else some (mantissa / 10 ^ (-shift).toNat)
  { repr := String.ofList text
    spelled := by rwa [String.toList_ofList]
    trunc := magnitude.map fun n => if negative then -(n : Int) else n
    isNan := false
    isZero := mantissa = 0 }

def readExponent (input : List Char) : Option (Int × List Char) :=
  match input with
  | e :: rest =>
      if e = 'e' ∨ e = 'E' then
        let negative := rest.head? = some '-'
        let unsigned := if negative ∨ rest.head? = some '+' then rest.tail else rest
        let digits := unsigned.takeWhile Char.isDigit
        if digits = [] then none
        else
          let value : Int := natOf digits
          some (if negative then -value else value, unsigned.dropWhile Char.isDigit)
      else none
  | [] => none

def readNumber (input : List Char) : Option (Json × List Char) :=
  let negative := input.head? = some '-'
  let unsigned := if negative then input.tail else input
  let digits := unsigned.takeWhile Char.isDigit
  -- A leading zero stands alone, so `01` reads as `0` and leaves `1` over.
  let whole := if unsigned.head? = some '0' then ['0'] else digits
  let after := unsigned.drop whole.length
  if whole = [] then none
  else
    let fraction := if after.head? = some '.' then after.tail.takeWhile Char.isDigit else []
    let afterFraction := if fraction = [] then after else after.drop (fraction.length + 1)
    match readExponent afterFraction with
    | some (exponent, rest) =>
        let text := input.take (input.length - rest.length)
        if spelled : isFloatText text = true then
          some (.float (floatOf text spelled negative whole fraction exponent), rest)
        else none
    | none =>
        if fraction = [] then
          let value : Int := natOf whole
          some (.int (if negative then -value else value), after)
        else
          let text := input.take (input.length - afterFraction.length)
          if spelled : isFloatText text = true then
            some (.float (floatOf text spelled negative whole fraction 0), afterFraction)
          else none

def readWord (input : List Char) : Option (Json × List Char) :=
  let words : List (String × Json) :=
    [("null", .null), ("true", .bool true), ("false", .bool false),
      ("NaN", .float { repr := "nan", trunc := none, isNan := true, isZero := false }),
      ("Infinity", .float { repr := "inf", trunc := none, isNan := false, isZero := false }),
      ("-Infinity", .float { repr := "-inf", trunc := none, isNan := false, isZero := false })]
  words.findSome? fun word =>
    if word.1.toList.isPrefixOf input then some (word.2, input.drop word.1.length) else none

/-- A repeated key keeps its last value. -/
def setField (fields : List (String × Json)) (key : String) (value : Json) :
    List (String × Json) :=
  fields.filter (fun field => field.1 != key) ++ [(key, value)]

mutual

def readValue : Nat → List Char → Option (Json × List Char)
  | 0, _ => none
  | fuel + 1, input =>
      match skipSpace input with
      | [] => none
      | c :: rest =>
          if c = quote then (readString rest).map fun read => (.str read.1, read.2)
          else if c = '{' then
            match skipSpace rest with
            | d :: after => if d = '}' then some (.obj [], after) else readFields fuel [] (d :: after)
            | [] => none
          else if c = '[' then
            match skipSpace rest with
            | d :: after => if d = ']' then some (.arr [], after) else readItems fuel [] (d :: after)
            | [] => none
          else (readWord (c :: rest)).orElse fun _ => readNumber (c :: rest)

def readFields : Nat → List (String × Json) → List Char → Option (Json × List Char)
  | 0, _, _ => none
  | fuel + 1, done, input =>
      match skipSpace input with
      | [] => none
      | c :: rest =>
          if c = quote then
            (readString rest).bind fun key =>
              match skipSpace key.2 with
              | [] => none
              | colon :: tail =>
                  if colon = ':' then
                    (readValue fuel tail).bind fun value =>
                      match skipSpace value.2 with
                      | [] => none
                      | d :: after =>
                          if d = ',' then readFields fuel (setField done key.1 value.1) after
                          else if d = '}' then some (.obj (setField done key.1 value.1), after)
                          else none
                  else none
          else none

def readItems : Nat → List Json → List Char → Option (Json × List Char)
  | 0, _, _ => none
  | fuel + 1, done, input =>
      (readValue fuel input).bind fun value =>
        match skipSpace value.2 with
        | [] => none
        | d :: after =>
            if d = ',' then readItems fuel (done ++ [value.1]) after
            else if d = ']' then some (.arr (done ++ [value.1]), after)
            else none

end

def loads (text : String) : Except PyError Json :=
  match readValue (text.length + 1) text.toList with
  | some (value, rest) =>
      if skipSpace rest = [] then .ok value
      else .error ⟨.jsonDecodeError, "Extra data"⟩
  | none => .error ⟨.jsonDecodeError, "Expecting value"⟩

/-! Reading back what `dumps` wrote, for an object whose values are scalars. -/

theorem hex_value_digit (digit : Nat) (small : digit < 16) :
    hexValue (hexDigit digit) = some digit := by
  interval_cases digit <;> decide

theorem hex_unit_escape (unit : Nat) (small : unit < 0x10000) :
    hexUnit (hexDigit (unit / 4096)) (hexDigit (unit / 256 % 16))
      (hexDigit (unit / 16 % 16)) (hexDigit (unit % 16)) = some unit := by
  have digits : unit / 4096 * 4096 + unit / 256 % 16 * 256 + unit / 16 % 16 * 16 + unit % 16
      = unit := by omega
  simp only [hexUnit, hex_value_digit _ (show unit / 4096 < 16 by omega),
    hex_value_digit _ (Nat.mod_lt _ (show 16 > 0 by decide)), Option.bind_eq_bind,
    Option.bind_some, Option.pure_def, digits]

/-- The code units a character is written as. -/
def unitsOf (c : Char) : List Nat :=
  if c.toNat < 0x10000 then [c.toNat]
  else [0xD800 + (c.toNat - 0x10000) / 0x400, 0xDC00 + (c.toNat - 0x10000) % 0x400]

theorem char_range (c : Char) : c.toNat < 0xD800 ∨ (0xDFFF < c.toNat ∧ c.toNat < 0x110000) := by
  have valid := c.valid
  simpa [UInt32.isValidChar, Nat.isValidChar] using valid

theorem scan_escape_unit (unit : Nat) (small : unit < 0x10000) (tail : List Char) :
    scanUnits (escapeUnit unit ++ tail) = unitThen unit (scanUnits tail) := by
  have notQuote : backslash ≠ quote := by decide
  simp only [escapeUnit, List.cons_append, List.nil_append, scanUnits, if_neg notQuote,
    if_true, hex_unit_escape unit small, Option.bind_some]

theorem scan_simple (c e : Char) (unit : Nat) (notU : e ≠ 'u')
    (known : simpleEscape e = some unit) (same : unit = c.toNat) (tail : List Char) :
    scanUnits (backslash :: e :: tail) = unitThen c.toNat (scanUnits tail) := by
  have notQuote : backslash ≠ quote := by decide
  rw [scanUnits.eq_def]
  simp only [if_neg notQuote, if_true, if_neg notU, known, Option.bind_some, same]

theorem scan_plain (c : Char) (notQuote : c ≠ quote) (notBackslash : c ≠ backslash)
    (printable : 32 ≤ c.toNat) (tail : List Char) :
    scanUnits (c :: tail) = unitThen c.toNat (scanUnits tail) := by
  rw [scanUnits.eq_def]
  simp only [if_neg notQuote, if_neg notBackslash, if_neg (Nat.not_lt.mpr printable)]

theorem char_of_code {c : Char} {code : Nat} (same : c.toNat = code) : c = Char.ofNat code := by
  rw [← same, Char.ofNat_toNat]

theorem scan_escape (c : Char) (tail : List Char) :
    scanUnits (escape c ++ tail) =
      (unitsOf c).foldr unitThen (scanUnits tail) := by
  by_cases isQuote : c = quote
  · subst isQuote
    exact scan_simple quote quote 34 (by decide) (by decide) (by decide) tail
  by_cases isBackslash : c = backslash
  · subst isBackslash
    exact scan_simple backslash backslash 92 (by decide) (by decide) (by decide) tail
  by_cases isNewline : c = '\n'
  · subst isNewline
    exact scan_simple '\n' 'n' 10 (by decide) (by decide) (by decide) tail
  by_cases isReturn : c = '\r'
  · subst isReturn
    exact scan_simple '\r' 'r' 13 (by decide) (by decide) (by decide) tail
  by_cases isTab : c = '\t'
  · subst isTab
    exact scan_simple '\t' 't' 9 (by decide) (by decide) (by decide) tail
  by_cases isBackspace : c.toNat = 8
  · obtain rfl := char_of_code isBackspace
    exact scan_simple _ 'b' 8 (by decide) (by decide) (by decide) tail
  by_cases isFeed : c.toNat = 12
  · obtain rfl := char_of_code isFeed
    exact scan_simple _ 'f' 12 (by decide) (by decide) (by decide) tail
  simp only [escape, if_neg isQuote, if_neg isBackslash, if_neg isNewline, if_neg isReturn,
    if_neg isTab, if_neg isBackspace, if_neg isFeed]
  by_cases printable : 32 ≤ c.toNat ∧ c.toNat < 127
  · have basic : c.toNat < 0x10000 := by omega
    rw [if_pos printable, unitsOf, if_pos basic]
    exact scan_plain c isQuote isBackslash printable.1 tail
  · rw [if_neg printable]
    by_cases basic : c.toNat < 0x10000
    · rw [if_pos basic, unitsOf, if_pos basic]
      exact scan_escape_unit _ basic tail
    · -- A character above the basic plane is two escapes, read one after the other.
      have range := char_range c
      rw [if_neg basic, unitsOf, if_neg basic, List.append_assoc,
        scan_escape_unit _ (by omega), scan_escape_unit _ (by omega)]
      rfl

theorem scan_written (chars rest : List Char) :
    scanUnits (chars.flatMap escape ++ quote :: rest) = some (chars.flatMap unitsOf, rest) := by
  induction chars with
  | nil =>
      change scanUnits (quote :: rest) = some ([], rest)
      rw [scanUnits.eq_def]
      rfl
  | cons c chars ih =>
      rw [List.flatMap_cons, List.append_assoc, scan_escape, ih, List.flatMap_cons]
      unfold unitsOf
      split <;> rfl

theorem unit_char_basic (c : Char) : unitChar c.toNat = c := by
  have range := char_range c
  have notSurrogate : (isHigh c.toNat || isLow c.toNat) = false := by
    simp only [isHigh, isLow, Bool.or_eq_false_iff, Bool.and_eq_false_iff, decide_eq_false_iff_not]
    omega
  simp [unitChar, notSurrogate]

theorem join_basic (c : Char) (units : List Nat) :
    joinUnits (c.toNat :: units) = c :: joinUnits units := by
  have range := char_range c
  have notHigh : isHigh c.toNat = false := by
    simp only [isHigh, Bool.and_eq_false_iff, decide_eq_false_iff_not]
    omega
  cases units with
  | nil => simp [joinUnits, unit_char_basic]
  | cons follow rest => simp [joinUnits, notHigh, unit_char_basic]

theorem join_units_of (chars : List Char) : joinUnits (chars.flatMap unitsOf) = chars := by
  induction chars with
  | nil => rfl
  | cons c chars ih =>
      rw [List.flatMap_cons]
      by_cases basic : c.toNat < 0x10000
      · rw [unitsOf, if_pos basic, List.singleton_append, join_basic, ih]
      · have range := char_range c
        have high : isHigh (0xD800 + (c.toNat - 0x10000) / 0x400) = true := by
          simp only [isHigh, Bool.and_eq_true, decide_eq_true_eq]
          omega
        have low : isLow (0xDC00 + (c.toNat - 0x10000) % 0x400) = true := by
          simp only [isLow, Bool.and_eq_true, decide_eq_true_eq]
          omega
        have code : 0x10000 + (0xD800 + (c.toNat - 0x10000) / 0x400 - 0xD800) * 0x400 +
            (0xDC00 + (c.toNat - 0x10000) % 0x400 - 0xDC00) = c.toNat := by omega
        simp only [unitsOf, if_neg basic, List.cons_append, List.nil_append, joinUnits, high,
          low, Bool.and_self, if_true, code, Char.ofNat_toNat, ih]

theorem read_written_string (text : String) (rest : List Char) :
    readString (text.toList.flatMap escape ++ quote :: rest) = some (text, rest) := by
  simp [readString, scan_written, join_units_of]

def IsScalar : Json → Prop
  | .null | .bool _ | .int _ | .str _ => True
  | .float _ | .arr _ | .obj _ => False

/-- A written value is followed by a comma or by the closing brace. -/
def Closes (tail : List Char) : Prop := ∃ after, tail = ',' :: after ∨ tail = '}' :: after

theorem digits_all (n : Nat) : ∀ c ∈ Nat.toDigits 10 n, c.isDigit = true :=
  fun _ member => Nat.isDigit_of_mem_toDigits (by decide) (by decide) member

/-- What the text of a number, of a constant or of a container may begin with. -/
def beginsValue (c : Char) : Bool :=
  c.isDigit || c ∈ ['-', '+', '.', 'e', 'E', 'n', 'a', 'i', 'f', 'N', 'T', 'F', '[', '{']

/-- `str` of anything else than a string begins with one of these. -/
theorem str_of_head {value : Json} {c : Char} (letter : beginsValue c = false)
    (starts : value.toStr.toList.head? = some c) : ∃ text, value = .str text := by
  have apart {text : List Char} {first : Char} (head : text.head? = some first)
      (other : beginsValue first = true) : text.head? ≠ some c := by
    intro same
    rw [head] at same
    rw [Option.some.inj same, letter] at other
    cases other
  have plain : c.isDigit = false := by
    simp only [beginsValue, Bool.or_eq_false_iff] at letter
    exact letter.1
  cases value with
  | str text => exact ⟨text, rfl⟩
  | null => exact absurd starts (apart rfl (by decide))
  | bool flag => cases flag <;> exact absurd starts (apart rfl (by decide))
  | int number =>
      -- A number begins with a digit or a sign.
      have digits (n : Nat) : c ∉ n.repr.toList := by
        intro member
        rw [Nat.toList_repr] at member
        rw [digits_all n c member] at plain
        cases plain
      cases number with
      | ofNat n => exact absurd (List.mem_of_head? starts) (digits n)
      | negSucc n =>
          simp only [Json.toStr, Json.repr, toString, Int.repr, String.toList_append] at starts
          exact absurd starts (apart rfl (by decide))
  | float number =>
      have spelled := number.spelled
      simp only [isFloatText, Bool.and_eq_true, List.all_eq_true] at spelled
      have allowed := spelled.2 c (List.mem_of_head? starts)
      rw [plain, Bool.false_or, decide_eq_true_iff] at allowed
      have begins : beginsValue c = true := by
        simp only [List.mem_cons, List.not_mem_nil, or_false] at allowed
        rcases allowed with rfl | rfl | rfl | rfl | rfl | rfl | rfl | rfl | rfl <;> decide
      rw [letter] at begins
      cases begins
  | arr items =>
      simp only [Json.toStr, Json.repr, String.toList_append] at starts
      exact absurd starts (apart rfl (by decide))
  | obj fields =>
      simp only [Json.toStr, Json.repr, String.toList_append] at starts
      exact absurd starts (apart rfl (by decide))

theorem digits_head (n : Nat) (positive : 0 < n) : (Nat.toDigits 10 n).head? ≠ some '0' := by
  induction n using Nat.strong_induction_on with
  | h n ih =>
      rw [Nat.toDigits_eq_if (by decide)]
      split
      · rename_i small
        interval_cases n <;> decide
      · have shorter := ih (n / 10) (by omega) (by omega)
        rw [List.head?_append_of_ne_nil _ Nat.toDigits_ne_nil]
        exact shorter

theorem closes_not_digit {tail : List Char} (closes : Closes tail) :
    tail.takeWhile Char.isDigit = [] ∧ tail.dropWhile Char.isDigit = tail := by
  obtain ⟨after, rfl | rfl⟩ := closes <;> constructor <;> rfl

theorem take_digits (n : Nat) {tail : List Char} (closes : Closes tail) :
    (Nat.toDigits 10 n ++ tail).takeWhile Char.isDigit = Nat.toDigits 10 n := by
  rw [List.takeWhile_append_of_pos (digits_all n), (closes_not_digit closes).1, List.append_nil]

theorem closes_no_exponent {tail : List Char} (closes : Closes tail) :
    readExponent tail = none ∧ tail.head? ≠ some '.' := by
  obtain ⟨after, rfl | rfl⟩ := closes <;> constructor <;> simp [readExponent]

theorem digits_cons (n : Nat) : ∃ c rest, Nat.toDigits 10 n = c :: rest ∧ c.isDigit = true := by
  cases digits : Nat.toDigits 10 n with
  | nil => exact absurd digits Nat.toDigits_ne_nil
  | cons c rest => exact ⟨c, rest, rfl, digits_all n c (by rw [digits]; simp)⟩

theorem whole_digits (n : Nat) {tail : List Char} (closes : Closes tail) :
    (if (Nat.toDigits 10 n ++ tail).head? = some '0' then ['0']
      else (Nat.toDigits 10 n ++ tail).takeWhile Char.isDigit) = Nat.toDigits 10 n := by
  rw [take_digits n closes, List.head?_append_of_ne_nil _ Nat.toDigits_ne_nil]
  by_cases zero : n = 0
  · subst zero
    rfl
  · rw [if_neg (digits_head n (Nat.pos_of_ne_zero zero))]

theorem read_number_digits (n : Nat) {tail : List Char} (closes : Closes tail) :
    readNumber (Nat.toDigits 10 n ++ tail) = some (.int n, tail) := by
  obtain ⟨c, rest, digits, digit⟩ := digits_cons n
  have unsigned : (Nat.toDigits 10 n ++ tail).head? ≠ some '-' := by
    rw [digits, List.cons_append, List.head?_cons]
    rintro ⟨⟩
    exact absurd digit (by decide)
  have noExponent := closes_no_exponent closes
  simp only [readNumber, if_neg unsigned, whole_digits n closes, List.drop_left,
    if_neg Nat.toDigits_ne_nil, if_neg noExponent.2, if_true, noExponent.1, natOf,
    Nat.ofDigitChars_ten_toDigits]

theorem read_number_negative (n : Nat) {tail : List Char} (closes : Closes tail) :
    readNumber ('-' :: (Nat.toDigits 10 n ++ tail)) = some (.int (-n), tail) := by
  have noExponent := closes_no_exponent closes
  simp only [readNumber, List.head?_cons, if_true, List.tail_cons, whole_digits n closes,
    List.drop_left, if_neg Nat.toDigits_ne_nil, if_neg noExponent.2, noExponent.1, natOf,
    Nat.ofDigitChars_ten_toDigits]

theorem digit_ne {c letter : Char} (digit : c.isDigit = true) (notDigit : letter.isDigit = false) :
    letter ≠ c := by
  rintro rfl
  rw [digit] at notDigit
  cases notDigit

theorem read_word_digit (c : Char) (rest : List Char) (digit : c.isDigit = true) :
    readWord (c :: rest) = none := by
  have n : 'n' ≠ c := digit_ne digit (by decide)
  have t : 't' ≠ c := digit_ne digit (by decide)
  have f : 'f' ≠ c := digit_ne digit (by decide)
  have upperN : 'N' ≠ c := digit_ne digit (by decide)
  have upperI : 'I' ≠ c := digit_ne digit (by decide)
  have minus : '-' ≠ c := digit_ne digit (by decide)
  simp [readWord, n, t, f, upperN, upperI, minus]

theorem read_word_minus (c : Char) (rest : List Char) (digit : c.isDigit = true) :
    readWord ('-' :: c :: rest) = none := by
  have upperI : 'I' ≠ c := digit_ne digit (by decide)
  simp [readWord, upperI]

theorem skip_space_visible (c : Char) (rest : List Char) (visible : 32 < c.toNat) :
    skipSpace (c :: rest) = c :: rest := by
  have notSpace : (c = ' ' || c = '\t' || c = '\n' || c = '\r') = false := by
    simp only [Bool.or_eq_false_iff, decide_eq_false_iff_not]
    refine ⟨⟨⟨?_, ?_⟩, ?_⟩, ?_⟩ <;> rintro rfl <;> exact absurd visible (by decide)
  simp [skipSpace, notSpace]

theorem skip_space_closes {tail : List Char} (closes : Closes tail) : skipSpace tail = tail := by
  obtain ⟨after, rfl | rfl⟩ := closes <;> exact skip_space_visible _ after (by decide)

theorem digit_visible {c : Char} (digit : c.isDigit = true) : 47 < c.toNat ∧ c.toNat < 58 := by
  simp only [Char.isDigit, Bool.and_eq_true, decide_eq_true_eq] at digit
  have low : 48 ≤ c.toNat := digit.1
  have high : c.toNat ≤ 57 := digit.2
  omega

theorem read_value_number (fuel : Nat) (c : Char) (rest : List Char)
    (numeric : 44 < c.toNat ∧ c.toNat < 58) (notWord : readWord (c :: rest) = none) :
    readValue (fuel + 1) (c :: rest) = readNumber (c :: rest) := by
  have notQuote : c ≠ quote := by rintro rfl; exact absurd numeric (by decide)
  have notBrace : c ≠ '{' := by rintro rfl; exact absurd numeric (by decide)
  have notBracket : c ≠ '[' := by rintro rfl; exact absurd numeric (by decide)
  rw [readValue.eq_def]
  simp only [skip_space_visible c rest (by omega), if_neg notQuote, if_neg notBrace,
    if_neg notBracket, notWord]
  rfl

theorem int_digits (value : Int) :
    (∃ n : Nat, value = n ∧ (toString value).toList = Nat.toDigits 10 n) ∨
      ∃ n : Nat, value = -n ∧ (toString value).toList = '-' :: Nat.toDigits 10 n := by
  cases value with
  | ofNat n => exact .inl ⟨n, rfl, Nat.toList_repr⟩
  | negSucc n =>
      refine .inr ⟨n + 1, rfl, ?_⟩
      change ("-" ++ Nat.repr (n + 1)).toList = _
      rw [String.toList_append, Nat.toList_repr]
      rfl

theorem read_written_int (fuel : Nat) (value : Int) {tail : List Char} (closes : Closes tail) :
    readValue (fuel + 1) ((toString value).toList ++ tail) = some (.int value, tail) := by
  rcases int_digits value with ⟨n, rfl, written⟩ | ⟨n, rfl, written⟩
  · obtain ⟨c, rest, digits, digit⟩ := digits_cons n
    have visible := digit_visible digit
    rw [written, ← read_number_digits n closes, digits, List.cons_append]
    exact read_value_number fuel c _ (by omega) (read_word_digit c _ digit)
  · obtain ⟨c, rest, digits, digit⟩ := digits_cons n
    rw [written, List.cons_append, ← read_number_negative n closes, digits, List.cons_append]
    exact read_value_number fuel '-' _ (by decide) (read_word_minus c _ digit)

theorem read_written_scalar (fuel : Nat) (value : Json) (scalar : IsScalar value)
    {tail : List Char} (closes : Closes tail) :
    readValue (fuel + 1) (write value ++ tail) = some (value, tail) := by
  match value, scalar with
  | .null, _ => rfl
  | .bool true, _ => rfl
  | .bool false, _ => rfl
  | .int value, _ =>
      rw [write]
      exact read_written_int fuel value closes
  | .str text, _ =>
      simp only [write, writeString, List.cons_append, List.append_assoc, List.nil_append]
      rw [readValue.eq_def]
      simp only [skip_space_visible quote _ (by decide), if_true, read_written_string,
        Option.map_some]

theorem set_field_new (fields : List (String × Json)) (key : String) (value : Json)
    (fresh : key ∉ fields.map Prod.fst) : setField fields key value = fields ++ [(key, value)] := by
  have kept : fields.filter (fun field => field.1 != key) = fields := by
    apply List.filter_eq_self.mpr
    intro field member
    refine bne_iff_ne.mpr fun same => fresh ?_
    exact same ▸ List.mem_map_of_mem member
  rw [setField, kept]

/-- One field is read for each unit of fuel; `done` are the fields read so far. -/
theorem read_written_fields (fields done : List (String × Json)) (rest : List Char) (fuel : Nat)
    (some_field : fields ≠ []) (enough : fields.length < fuel)
    (scalars : ∀ field ∈ fields, IsScalar field.2)
    (distinct : ((done ++ fields).map Prod.fst).Nodup) :
    readFields fuel done (writeFields fields ++ rest) = some (.obj (done ++ fields), rest) := by
  induction fields generalizing done fuel with
  | nil => exact absurd rfl some_field
  | cons field fields ih =>
      obtain ⟨key, value⟩ := field
      obtain ⟨fuel, rfl⟩ : ∃ less, fuel = less + 2 := ⟨fuel - 2, by simp at enough; omega⟩
      have fresh : key ∉ done.map Prod.fst := by
        intro member
        rw [List.map_append, List.nodup_append] at distinct
        exact distinct.2.2 key member key (by simp) rfl
      have scalar := scalars (key, value) (by simp)
      cases fields with
      | nil =>
          -- The last field: the object closes behind it.
          have closes : Closes ('}' :: rest) := ⟨rest, .inr rfl⟩
          simp only [writeFields, writeString, List.cons_append, List.append_assoc,
            List.nil_append]
          rw [readFields.eq_def]
          simp only [skip_space_visible quote _ (by decide), if_true, read_written_string,
            Option.bind_some, skip_space_visible ':' _ (by decide),
            read_written_scalar fuel value scalar closes, skip_space_closes closes,
            set_field_new done key value fresh]
          rfl
      | cons next fields =>
          -- A comma follows, and with it another field.
          have closes : Closes (',' :: (writeFields (next :: fields) ++ rest)) := ⟨_, .inl rfl⟩
          have distinctRest : (((done ++ [(key, value)]) ++ next :: fields).map Prod.fst).Nodup := by
            simpa using distinct
          have tail := ih (done ++ [(key, value)]) (fuel + 1) (by simp)
            (by simp at enough ⊢; omega)
            (fun field member => scalars field (List.mem_cons_of_mem _ member)) distinctRest
          simp only [writeFields, writeString, List.cons_append, List.append_assoc,
            List.nil_append]
          rw [readFields.eq_def]
          simp only [skip_space_visible quote _ (by decide), if_true, read_written_string,
            Option.bind_some, skip_space_visible ':' _ (by decide),
            read_written_scalar fuel value scalar closes, skip_space_closes closes,
            set_field_new done key value fresh]
          simpa using tail

theorem write_fields_length (fields : List (String × Json)) :
    fields.length ≤ (writeFields fields).length := by
  induction fields with
  | nil => simp
  | cons field fields ih =>
      cases fields with
      | nil =>
          simp only [writeFields, List.length_append, List.length_cons, List.length_nil]
          omega
      | cons next fields =>
          simp only [writeFields, List.length_append, List.length_cons] at ih ⊢
          omega

theorem write_fields_head (fields : List (String × Json)) (some_field : fields ≠ []) :
    ∃ after, writeFields fields = quote :: after := by
  match fields, some_field with
  | [(key, value)], _ => exact ⟨_, rfl⟩
  | (key, value) :: next :: rest, _ => exact ⟨_, rfl⟩

/-- What `dumps` writes for a flat object, `loads` reads back. -/
theorem loads_written (fields : List (String × Json)) (some_field : fields ≠ [])
    (scalars : ∀ field ∈ fields, IsScalar field.2) (distinct : (fields.map Prod.fst).Nodup) :
    loads (String.ofList (write (.obj fields))) = .ok (.obj fields) := by
  have enough : fields.length < (write (.obj fields)).length := by
    have shorter := write_fields_length fields
    simp only [write, List.length_cons]
    omega
  have read := read_written_fields fields [] [] _ some_field enough scalars (by simpa using distinct)
  obtain ⟨after, head⟩ := write_fields_head fields some_field
  have value : readValue ((write (.obj fields)).length + 1) (write (.obj fields)) =
      some (.obj fields, []) := by
    rw [readValue.eq_def]
    have notQuote : '{' ≠ quote := by decide
    have notBrace : quote ≠ '}' := by decide
    simp only [write, skip_space_visible '{' _ (by decide), if_neg notQuote, if_true]
    rw [head, skip_space_visible quote _ (by decide)]
    simp only [if_neg notBrace]
    rw [← head]
    simpa [write] using read
  rw [loads, String.length_ofList, String.toList_ofList, value]
  rfl

theorem sorted_members_of_scalars (fields : List (String × Json))
    (scalars : ∀ field ∈ fields, IsScalar field.2) : sortMembers fields = fields := by
  induction fields with
  | nil => rfl
  | cons field fields ih =>
      obtain ⟨key, value⟩ := field
      have rest := ih fun field member => scalars field (List.mem_cons_of_mem _ member)
      have scalar := scalars (key, value) (by simp)
      rw [sortMembers, rest]
      match value, scalar with
      | .null, _ | .bool _, _ | .int _, _ | .str _, _ => rfl

theorem loads_dumps (fields : List (String × Json)) (some_field : fields ≠ [])
    (scalars : ∀ field ∈ fields, IsScalar field.2) (distinct : (fields.map Prod.fst).Nodup) :
    loads (dumps (.obj fields)) = .ok (.obj (sortFields fields)) := by
  have perm : (sortFields fields).Perm fields := List.perm_insertionSort _ fields
  have sortedNonempty : sortFields fields ≠ [] := by
    intro empty
    rw [empty] at perm
    exact some_field perm.nil_eq.symm
  rw [dumps, sortKeys, sorted_members_of_scalars fields scalars]
  exact loads_written _ sortedNonempty (fun field member => scalars field (perm.mem_iff.mp member))
    ((perm.map Prod.fst).nodup_iff.mpr distinct)

example : dumps (.obj [("b", .str "ä\"𝄞"), ("a", .int (-3))]) =
    "\x7b\"a\":-3,\"b\":\"\\u00e4\\\"\\ud834\\udd1e\"\x7d" := by decide

end Lehen.JsonText
