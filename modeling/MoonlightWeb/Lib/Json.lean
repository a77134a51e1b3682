import MoonlightWeb.Lib.Utf16

/-! JSON values and texts. A text is read in tokens, and the tokens with the containers
that are open held in a list, so that no nesting is too deep. -/
namespace MoonlightWeb

/-- A value as a text gives it: numbers as they are written, members in their order. -/
inductive Json where
  | null
  | boolean (value : Bool)
  | number (literal : List UInt16)
  | string (text : List UInt16)
  | array (items : List Json)
  | object (members : List (List UInt16 × Json))

namespace Json

/-- The units of a text that is written out. -/
def units (text : String) : List UInt16 := Utf16.encode text.toList

def unit (char : Char) : UInt16 := UInt16.ofNat char.toNat

section Numbers

def isDigit (symbol : UInt16) : Bool := unit '0' ≤ symbol && symbol ≤ unit '9'

/-- At least one digit, and no zero before others. -/
def isInteger (digits : List UInt16) : Bool :=
  !digits.isEmpty && (digits.length = 1 || digits.head? ≠ some (unit '0'))

def isExponent : List UInt16 → Bool
  | [] => true
  | letter :: rest =>
    let digits := match rest with
      | sign :: digits => if sign = unit '+' || sign = unit '-' then digits else rest
      | [] => []
    (letter = unit 'e' || letter = unit 'E') && !digits.isEmpty && digits.all isDigit

/-- What may follow the digits of an integer. -/
def isFraction : List UInt16 → Bool
  | [] => true
  | point :: rest =>
    if point = unit '.' then
      !(rest.takeWhile isDigit).isEmpty && isExponent (rest.dropWhile isDigit)
    else isExponent (point :: rest)

def isNumber (text : List UInt16) : Bool :=
  let unsigned := match text with
    | sign :: rest => if sign = unit '-' then rest else text
    | [] => []
  isInteger (unsigned.takeWhile isDigit) && isFraction (unsigned.dropWhile isDigit)

end Numbers

section Tokens

inductive Token where
  | beginArray
  | endArray
  | beginObject
  | endObject
  | nameSeparator
  | valueSeparator
  | scalar (value : Json)

/-- Between tokens, within a word or number, or within a string, perhaps behind a
backslash or among the four digits of a code. -/
inductive Scanner where
  | between
  | bare (text : List UInt16)
  | quoted (text : List UInt16)
  | escaped (text : List UInt16)
  | code (text : List UInt16) (left value : Nat)

def isSpace (symbol : UInt16) : Bool :=
  symbol = unit ' ' || symbol = unit '\t' || symbol = unit '\n' || symbol = unit '\r'

def structural (symbol : UInt16) : Option Token :=
  if symbol = unit '[' then some .beginArray
  else if symbol = unit ']' then some .endArray
  else if symbol = unit '\x7b' then some .beginObject
  else if symbol = unit '\x7d' then some .endObject
  else if symbol = unit ':' then some .nameSeparator
  else if symbol = unit ',' then some .valueSeparator
  else none

def word (text : List UInt16) : Option Token :=
  if text = units "null" then some (.scalar .null)
  else if text = units "true" then some (.scalar (.boolean true))
  else if text = units "false" then some (.scalar (.boolean false))
  else if isNumber text then some (.scalar (.number text))
  else none

def escape (symbol : UInt16) : Option UInt16 :=
  if symbol = unit '"' || symbol = unit '\\' || symbol = unit '/' then some symbol
  else if symbol = unit 'b' then some 8
  else if symbol = unit 'f' then some 12
  else if symbol = unit 'n' then some 10
  else if symbol = unit 'r' then some 13
  else if symbol = unit 't' then some 9
  else none

def hexDigit (symbol : UInt16) : Option Nat :=
  if isDigit symbol then some (symbol.toNat - '0'.toNat)
  else if unit 'a' ≤ symbol && symbol ≤ unit 'f' then some (symbol.toNat - 'a'.toNat + 10)
  else if unit 'A' ≤ symbol && symbol ≤ unit 'F' then some (symbol.toNat - 'A'.toNat + 10)
  else none

/-- Outside of strings, where a token that came before has ended. -/
def scanBetween (symbol : UInt16) : Scanner × List Token :=
  if isSpace symbol then (.between, [])
  else if symbol = unit '"' then (.quoted [], [])
  else
    match structural symbol with
    | some token => (.between, [token])
    | none => (.bare [symbol], [])

def scan : Scanner → UInt16 → Option (Scanner × List Token)
  | .between, symbol => some (scanBetween symbol)
  | .bare text, symbol =>
    match scanBetween symbol with
    | (.bare more, _) => some (.bare (text ++ more), [])
    | (scanner, tokens) => (word text).map fun token => (scanner, token :: tokens)
  | .quoted text, symbol =>
    if symbol = unit '"' then some (.between, [.scalar (.string text)])
    else if symbol = unit '\\' then some (.escaped text, [])
    else if symbol < unit ' ' then none
    else some (.quoted (text ++ [symbol]), [])
  | .escaped text, symbol =>
    if symbol = unit 'u' then some (.code text 4 0, [])
    else (escape symbol).map fun escaped => (.quoted (text ++ [escaped]), [])
  | .code text left value, symbol =>
    (hexDigit symbol).map fun digit =>
      let value := 16 * value + digit
      if left = 1 then (.quoted (text ++ [UInt16.ofNat value]), [])
      else (.code text (left - 1) value, [])

def tokens : Scanner → List UInt16 → Option (List Token)
  | .between, [] => some []
  | .bare text, [] => (word text).map fun token => [token]
  | _, [] => none
  | scanner, symbol :: rest =>
    (scan scanner symbol).bind fun (scanner, first) =>
      (tokens scanner rest).map fun later => first ++ later

end Tokens

section Values

/-- A container whose next value is awaited. -/
inductive Frame where
  | array (items : List Json)
  | object (members : List (List UInt16 × Json)) (name : List UInt16)

/-- What is awaited. Only a container without content may end where its first content
is awaited. -/
inductive Place where
  | value (first : Bool)
  | name (members : List (List UInt16 × Json)) (first : Bool)
  | separator (members : List (List UInt16 × Json)) (name : List UInt16)
  | ended (value : Json)

def take (stack : List Frame) : Place → Token → Option (List Frame × Place)
  | .value _, .scalar value => some (stack, .ended value)
  | .value _, .beginArray => some (.array [] :: stack, .value true)
  | .value _, .beginObject => some (stack, .name [] true)
  | .value true, .endArray =>
    match stack with
    | .array items :: rest => some (rest, .ended (.array items))
    | _ => none
  | .name members _, .scalar (.string name) => some (stack, .separator members name)
  | .name members true, .endObject => some (stack, .ended (.object members))
  | .separator members name, .nameSeparator => some (.object members name :: stack, .value false)
  | .ended value, .valueSeparator =>
    match stack with
    | .array items :: rest => some (.array (items ++ [value]) :: rest, .value false)
    | .object members name :: rest => some (rest, .name (members ++ [(name, value)]) false)
    | [] => none
  | .ended value, .endArray =>
    match stack with
    | .array items :: rest => some (rest, .ended (.array (items ++ [value])))
    | _ => none
  | .ended value, .endObject =>
    match stack with
    | .object members name :: rest => some (rest, .ended (.object (members ++ [(name, value)])))
    | _ => none
  | _, _ => none

def assemble (stack : List Frame) : Place → List Token → Option Json
  | .ended value, [] => if stack.isEmpty then some value else none
  | _, [] => none
  | place, token :: rest =>
    (take stack place token).bind fun (stack, place) => assemble stack place rest

end Values

/-- `JSON.parse` -/
def parse (text : List UInt16) : Option Json :=
  (tokens .between text).bind fun tokens => assemble [] (.value false) tokens

end Json

end MoonlightWeb
