import ApiClient.Json.Basic
import ApiClient.Json.Decimal

/-!
JSON text without blanks. In strings only quotes, backslashes and control characters are escaped.
-/

namespace ApiClient

def Number.text : Number → String
  | .int i => toString i
  | .float f => Decimal.ofFloat f

namespace Json

/-- Four hexadecimal digits of a code point below U+0020. -/
def controlEscape (c : Char) : List Char :=
  ['\\', 'u', '0', '0', if c.toNat < 16 then '0' else '1', Nat.digitChar (c.toNat % 16)]

def escapeChar (c : Char) : List Char :=
  if c = '"' then ['\\', '"']
  else if c = '\\' then ['\\', '\\']
  else if c.toNat = 0x08 then ['\\', 'b']
  else if c = '\t' then ['\\', 't']
  else if c = '\n' then ['\\', 'n']
  else if c.toNat = 0x0C then ['\\', 'f']
  else if c = '\r' then ['\\', 'r']
  else if c.toNat < 0x20 then controlEscape c
  else [c]

def quoted (s : String) : String :=
  String.ofList ('"' :: s.toList.flatMap escapeChar ++ ['"'])

mutual

def text : Json → String
  | .null => "null"
  | .bool true => "true"
  | .bool false => "false"
  | .number n => n.text
  | .string s => quoted s
  | .array elems => "[" ++ String.intercalate "," (texts elems) ++ "]"
  | .object fields => "\x7b" ++ String.intercalate "," (fieldTexts fields) ++ "\x7d"

def texts : List Json → List String
  | [] => []
  | v :: rest => v.text :: texts rest

def fieldTexts : List (String × Json) → List String
  | [] => []
  | (name, v) :: rest => (quoted name ++ ":" ++ v.text) :: fieldTexts rest

end

/-- The text of a value that holds no others: a string is its own text, null is empty. -/
def scalarText? : Json → Option String
  | .null => some ""
  | .bool b => some (if b then "true" else "false")
  | .number n => some n.text
  | .string s => some s
  | .array _ | .object _ => none

end Json

end ApiClient
