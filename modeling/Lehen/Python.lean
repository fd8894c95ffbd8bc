import Mathlib.Data.List.AList
import Mathlib.Data.String.Basic

/-!
The Python values the Hub handles dynamically, and the errors it raises. A
request payload, a token response and a stored `config_public` are JSON
values; everything with a fixed shape has a structure of its own elsewhere.
-/

namespace Lehen

/-- Exception classes, by the name the source gives them. -/
inductive ErrorKind where
  | typeError | valueError | keyError | attributeError | overflowError
  | unicodeError | binasciiError | jsonDecodeError
  | httpError | invalidTag
  | arcadeError
  | unsupportedKeyVersionError | invalidMasterKeyError | invalidAuditPepperError
  | unknownIntegrationTypeError
  | sourceAdapterError | sourceAdapterNotImplementedError
  | oauthStateError | oauthExchangeError
  | connectionAlreadyExistsError | connectionNotFoundError | integrationDisabledError
  | integrationNotAuthorizedForRoleError | redirectUriNotAllowedError | oauthFlowConfigError
  | integrationInstanceNotFoundError | integrationInstanceConflictError | integrationConfigError
  | unknownLlmProviderError | llmConfigNotFoundError | llmConfigError
  | jwtError | jwkError | invalidTokenError | jwksFetchError | localTokenError
  | localAdminAuthError | localAdminLockedError | localAdminDisabledError
  | localAdminNotConfiguredError
  | kcError | assertionError
  | httpException (statusCode : Nat)
  deriving DecidableEq, Repr

structure PyError where
  kind : ErrorKind
  text : String
  deriving DecidableEq, Repr

/-- Subclasses of `ValueError`, as an `except ValueError` clause sees them. -/
def ErrorKind.isValueError : ErrorKind → Bool
  | .valueError | .unicodeError | .binasciiError | .jsonDecodeError
  | .unsupportedKeyVersionError | .invalidMasterKeyError | .invalidAuditPepperError
  | .unknownIntegrationTypeError | .oauthStateError
  | .connectionAlreadyExistsError | .integrationDisabledError | .redirectUriNotAllowedError
  | .oauthFlowConfigError | .integrationInstanceConflictError | .integrationConfigError
  | .unknownLlmProviderError | .llmConfigError | .invalidTokenError | .localTokenError => true
  | _ => false

/-- `text[:count]`. -/
def prefixText (text : String) (count : Nat) : String := String.ofList (text.toList.take count)

/-- A dictionary with string keys. Only membership and lookup are observed, so
the order in which keys were inserted is not kept. -/
abbrev Dict (β : Type) := AList fun _ : String => β

namespace Dict

variable {β : Type}

def ofList (entries : List (String × β)) : Dict β :=
  entries.foldl (fun dict entry => AList.insert entry.1 entry.2 dict) ∅

/-- `{**old, **new}`. -/
def merge (old new : Dict β) : Dict β := new ∪ old

theorem lookup_merge_new (old new : Dict β) (key : String) (supplied : key ∈ new) :
    (merge old new).lookup key = new.lookup key :=
  AList.lookup_union_left supplied

theorem lookup_merge_old (old new : Dict β) (key : String) (omitted : key ∉ new) :
    (merge old new).lookup key = old.lookup key :=
  AList.lookup_union_right omitted

end Dict

/-- How a float is spelled: digits, a sign, a point, an exponent, `nan`, `inf`. -/
def isFloatText (text : List Char) : Bool :=
  text ≠ [] && text.all fun c => c.isDigit || c ∈ ['-', '+', '.', 'e', 'E', 'n', 'a', 'i', 'f']

/-- A float enters only by its text, its integer part and whether it is zero. -/
structure PyFloat where
  repr : String
  spelled : isFloatText repr.toList = true := by decide
  trunc : Option Int
  isNan : Bool
  isZero : Bool
  deriving DecidableEq, Repr

inductive Json where
  | null
  | bool (value : Bool)
  | int (value : Int)
  | float (value : PyFloat)
  | str (value : String)
  | arr (items : List Json)
  | obj (fields : List (String × Json))

namespace Json

def typeName : Json → String
  | .null => "NoneType"
  | .bool _ => "bool"
  | .int _ => "int"
  | .float _ => "float"
  | .str _ => "str"
  | .arr _ => "list"
  | .obj _ => "dict"

/-- `bool(value)`. -/
def truthy : Json → Bool
  | .null => false
  | .bool value => value
  | .int value => value != 0
  | .float value => !value.isZero
  | .str value => value != ""
  | .arr items => !items.isEmpty
  | .obj fields => !fields.isEmpty

/-- `value is None or value == ""`. -/
def isBlank : Json → Bool
  | .null => true
  | .str value => value == ""
  | _ => false

def ofOption : Option String → Json
  | none => .null
  | some value => .str value

/-- `data.get(key)` on what must be a dictionary. -/
def get (data : Json) (key : String) : Except PyError (Option Json) :=
  match data with
  | .obj fields => .ok (fields.lookup key)
  | other => .error
      { kind := .attributeError
        text := s!"\x27{other.typeName}\x27 object has no attribute \x27get\x27" }

/-- `data[key]` with a string key. -/
def getItem (data : Json) (key : String) : Except PyError Json :=
  match data with
  | .obj fields =>
      match fields.lookup key with
      | some value => .ok value
      | none => .error ⟨.keyError, s!"\x27{key}\x27"⟩
  | .arr _ => .error ⟨.typeError, "list indices must be integers or slices, not str"⟩
  | .str _ => .error ⟨.typeError, "string indices must be integers, not \x27str\x27"⟩
  | other => .error ⟨.typeError, s!"\x27{other.typeName}\x27 object is not subscriptable"⟩

/-- `key in text` on characters. -/
def isInfix (key : List Char) : List Char → Bool
  | [] => key.isEmpty
  | c :: rest => key.isPrefixOf (c :: rest) || isInfix key rest

/-- `key in data`. -/
def contains (data : Json) (key : String) : Except PyError Bool :=
  match data with
  | .obj fields => .ok (fields.any fun field => field.1 == key)
  | .arr items => .ok (items.any fun item => match item with | .str text => text == key | _ => false)
  | .str text => .ok (isInfix key.toList text.toList)
  | other => .error
      ⟨.typeError, s!"argument of type \x27{other.typeName}\x27 is not iterable"⟩

/-- `list(data.keys())`. -/
def keys (data : Json) : Except PyError Json :=
  match data with
  | .obj fields => .ok (.arr (fields.map fun field => .str field.1))
  | other => .error
      { kind := .attributeError
        text := s!"\x27{other.typeName}\x27 object has no attribute \x27keys\x27" }

/-! `str(value)`. Containers print with `repr` inside; a non-ASCII character of
a nested string is taken to be printable. -/

private def singleQuote : Char := Char.ofNat 39
private def doubleQuote : Char := Char.ofNat 34
private def backslash : Char := Char.ofNat 92

def hexDigit (value : Nat) : Char :=
  if value < 10 then Char.ofNat (48 + value) else Char.ofNat (87 + value)

def reprChar (quote c : Char) : List Char :=
  if c = quote ∨ c = backslash then [backslash, c]
  else if c = '\n' then [backslash, 'n']
  else if c = '\r' then [backslash, 'r']
  else if c = '\t' then [backslash, 't']
  else if c.toNat < 32 ∨ c.toNat = 127 then
    [backslash, 'x', hexDigit (c.toNat / 16), hexDigit (c.toNat % 16)]
  else [c]

def reprString (text : String) : String :=
  let quote := if singleQuote ∈ text.toList ∧ doubleQuote ∉ text.toList then doubleQuote
    else singleQuote
  String.ofList (quote :: text.toList.flatMap (reprChar quote) ++ [quote])

mutual

def repr : Json → String
  | .null => "None"
  | .bool true => "True"
  | .bool false => "False"
  | .int value => toString value
  | .float value => value.repr
  | .str value => reprString value
  | .arr items => "[" ++ reprItems items ++ "]"
  | .obj fields => "\x7b" ++ reprFields fields ++ "\x7d"

def reprItems : List Json → String
  | [] => ""
  | [item] => repr item
  | item :: rest => repr item ++ ", " ++ reprItems rest

def reprFields : List (String × Json) → String
  | [] => ""
  | [(key, value)] => reprString key ++ ": " ++ repr value
  | (key, value) :: rest => reprString key ++ ": " ++ repr value ++ ", " ++ reprFields rest

end

/-- `str(value)`. -/
def toStr : Json → String
  | .str value => value
  | other => repr other

@[simp] theorem toStr_str (value : String) : toStr (.str value) = value := rfl

/-- `str.isspace` of one character. -/
def isPySpace (c : Char) : Bool :=
  (9 ≤ c.toNat && c.toNat ≤ 13) || (28 ≤ c.toNat && c.toNat ≤ 32) ||
    (0x2000 ≤ c.toNat && c.toNat ≤ 0x200A) ||
    c.toNat ∈ [0x85, 0xA0, 0x1680, 0x2028, 0x2029, 0x202F, 0x205F, 0x3000]

/-- Where the ten decimal digits of each script begin, in Unicode 15. -/
def decimalZeros : List Nat :=
  [0x30, 0x660, 0x6F0, 0x7C0, 0x966, 0x9E6, 0xA66, 0xAE6, 0xB66, 0xBE6, 0xC66, 0xCE6, 0xD66,
    0xDE6, 0xE50, 0xED0, 0xF20, 0x1040, 0x1090, 0x17E0, 0x1810, 0x1946, 0x19D0, 0x1A80, 0x1A90,
    0x1B50, 0x1BB0, 0x1C40, 0x1C50, 0xA620, 0xA8D0, 0xA900, 0xA9D0, 0xA9F0, 0xAA50, 0xABF0,
    0xFF10, 0x104A0, 0x10D30, 0x11066, 0x110F0, 0x11136, 0x111D0, 0x112F0, 0x11450, 0x114D0,
    0x11650, 0x116C0, 0x11730, 0x118E0, 0x11950, 0x11C50, 0x11D50, 0x11DA0, 0x11F50, 0x16A60,
    0x16AC0, 0x16B50, 0x1D7CE, 0x1D7D8, 0x1D7E2, 0x1D7EC, 0x1D7F6, 0x1E140, 0x1E2F0, 0x1E4F0,
    0x1E950, 0x1FBF0]

/-- `unicodedata.decimal`. -/
def decimalOf (c : Char) : Option Nat :=
  (decimalZeros.find? fun first => first ≤ c.toNat && c.toNat < first + 10).map (c.toNat - ·)

/-- A character as `int()` takes it: beyond ASCII a space is a blank, a digit of any
script its value, and everything else refused. -/
def asciiOf (c : Char) : Char :=
  if c.toNat < 127 then c
  else if isPySpace c then ' '
  else match decimalOf c with
    | some digit => Char.ofNat (48 + digit)
    | none => '?'

/-- The blanks that `int()` strips; of those of `str.isspace` it takes no U+001C to U+001F. -/
def isBlankChar (c : Char) : Bool :=
  c = ' ' || (9 ≤ c.toNat && c.toNat ≤ 13)

/-- Digits as `int()` reads them, with their number: single underscores may stand
between digits. -/
def readDigits (total count : Nat) (afterDigit : Bool) : List Char → Option (Nat × Nat)
  | [] => if afterDigit then some (total, count) else none
  | c :: rest =>
      if c = '_' then if afterDigit then readDigits total count false rest else none
      else if c.isDigit then readDigits (total * 10 + (c.toNat - 48)) (count + 1) true rest
      else none

/-- The number a text spells, and how many digits it has. -/
def readInt (text : String) : Option (Int × Nat) :=
  let chars := text.toList.map asciiOf
  let stripped := ((chars.dropWhile isBlankChar).reverse.dropWhile isBlankChar).reverse
  match stripped with
  | [] => none
  | sign :: rest =>
      if sign = '-' then (readDigits 0 0 false rest).map fun read => (-(read.1 : Int), read.2)
      else if sign = '+' then (readDigits 0 0 false rest).map fun read => (Int.ofNat read.1, read.2)
      else (readDigits 0 0 false stripped).map fun read => (Int.ofNat read.1, read.2)

/-- `sys.get_int_max_str_digits()`, as it is set. -/
def intMaxStrDigits : Nat := 4300

/-- `int(text)`. -/
def intOfText (text : String) : Except PyError Int :=
  match readInt text with
  | some (whole, count) =>
      if count ≤ intMaxStrDigits then .ok whole
      else .error
        { kind := .valueError
          text := s!"Exceeds the limit ({intMaxStrDigits} digits) for integer string conversion: " ++
            s!"value has {count} digits; use sys.set_int_max_str_digits() to increase the limit" }
  | none => .error
      { kind := .valueError
        text := s!"invalid literal for int() with base 10: {prefixText (reprString text) 200}" }

/-- `int(value)`. -/
def toInt : Json → Except PyError Int
  | .int value => .ok value
  | .bool value => .ok (if value then 1 else 0)
  | .float value =>
      match value.trunc with
      | some whole => .ok whole
      | none =>
          if value.isNan then
            .error ⟨.valueError, "cannot convert float NaN to integer"⟩
          else .error ⟨.overflowError, "cannot convert float infinity to integer"⟩
  | .str text => intOfText text
  | other => .error
      { kind := .typeError
        text := "int() argument must be a string, a bytes-like object or a real number, " ++
          s!"not \x27{other.typeName}\x27" }

/-- Digits of any script count, a no-break space is stripped, a file separator is not. -/
example :
    (toInt (.str "\u00A0+1_２٣ ") matches .ok 123) ∧ (toInt (.str "\u001C5") matches .error _) :=
  ⟨rfl, rfl⟩

end Json

end Lehen
