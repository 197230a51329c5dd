import ApiClient.Entries

/-!
JSON values. A number is an integer as far as 64 bits reach, else a double. Objects keep the order
in which their names first came.
-/

namespace ApiClient

inductive Number
  | int (i : Int)
  | float (f : Float)
  deriving DecidableEq

inductive Json
  | null
  | bool (b : Bool)
  | number (n : Number)
  | string (s : String)
  | array (elems : List Json)
  | object (fields : List (String × Json))

namespace Json

instance : Inhabited Json := ⟨.null⟩

def ofInt (i : Int) : Json := .number (.int i)

def ofNat (n : Nat) : Json := .number (.int n)

def ofBytes (bytes : List UInt8) : Json := .array (bytes.map fun b => .ofNat b.toNat)

def fields? : Json → Option (Entries Json)
  | .object fields => some fields
  | _ => none

def field? (name : String) (v : Json) : Option Json := v.fields?.bind (Entries.find? name)

/-- What a value is, with its article. -/
def kind : Json → String
  | .null => "null"
  | .bool _ => "a boolean"
  | .number _ => "a number"
  | .string _ => "a string"
  | .array _ => "an array"
  | .object _ => "an object"

def isScalar : Json → Bool
  | .array _ | .object _ => false
  | _ => true

end Json

end ApiClient
