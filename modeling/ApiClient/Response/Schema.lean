import ApiClient.Json.Printer
import ApiClient.Text.Quoted
import ApiClient.Text.Utf8

/-!
What a response is expected to be, and how a JSON value is read as that. The result is the value in
the form in which the expected type is written: record fields in their declared order, maps sorted
by name, doubles as doubles. A mismatch says what was found and what was expected, and where.
-/

namespace ApiClient

inductive Schema
  | value
  | string
  | bytes
  | byteList
  | unit
  | bool
  | int64
  | uint8
  | float64
  | option (inner : Schema)
  | list (item : Schema)
  | map (item : Schema)
  | record (name : String) (fields : List (String × Schema))
  | enumeration (name : String) (variants : List String)

inductive Mismatch
  | type (found expected : String)
  | value (found expected : String)
  | length (found : Nat) (expected : String)
  | missingField (name : String)
  | unknownVariant (name : String) (variants : List String)
  deriving DecidableEq, Repr

namespace Mismatch

def backquoted (s : String) : String := s!"`{s}`"

def alternatives : List String → String
  | [] => "there are no variants"
  | [a] => s!"expected {backquoted a}"
  | [a, b] => s!"expected {backquoted a} or {backquoted b}"
  | names => "expected one of " ++ String.intercalate ", " (names.map backquoted)

def message : Mismatch → String
  | .type found expected => s!"invalid type: {found}, expected {expected}"
  | .value found expected => s!"invalid value: {found}, expected {expected}"
  | .length found expected => s!"invalid length {found}, expected {expected}"
  | .missingField name => s!"missing field {backquoted name}"
  | .unknownVariant name variants =>
    s!"unknown variant {backquoted name}, {alternatives variants}"

end Mismatch

inductive PathStep
  | index (i : Nat)
  | name (s : String)
  deriving DecidableEq, Repr

/-- The way from a value to one inside it, outermost step first. -/
abbrev ValuePath := List PathStep

namespace ValuePath

/-- Steps to names have a dot before them, except at the front. -/
def textAfter (first : Bool) : ValuePath → String
  | [] => ""
  | .index i :: rest => s!"[{i}]" ++ textAfter false rest
  | .name s :: rest => (if first then "" else ".") ++ s ++ textAfter false rest

def text (path : ValuePath) : String := if path.isEmpty then "." else textAfter true path

end ValuePath

structure Misplaced where
  mismatch : Mismatch
  path : ValuePath
  deriving DecidableEq, Repr

namespace Schema

abbrev Result := Except Misplaced Json

def mismatch {α : Type} (m : Mismatch) : Except Misplaced α := .error ⟨m, []⟩

def inside {α : Type} (step : PathStep) : Except Misplaced α → Except Misplaced α
  | .ok v => .ok v
  | .error e => .error { e with path := step :: e.path }

/-- Where a value comes from: parsed JSON, or the text, bytes or absence of a body. -/
inductive Source
  | json
  | plain
  deriving DecidableEq, Repr

def found (source : Source) : Json → String
  | .null => if source = .json then "null" else "unit value"
  | .bool b => if b then "boolean `true`" else "boolean `false`"
  | .number (.int i) => s!"integer `{i}`"
  | .number (.float f) => s!"floating point `{(Number.float f).text}`"
  | .string s => s!"string {Quoted.shown s}"
  | .array _ => "sequence"
  | .object _ => "map"

def wrongType (source : Source) (v : Json) (expected : String) : Result :=
  mismatch (.type (found source v) expected)

/-- Integers from `lo` to `hi`. -/
def readInt (lo hi : Int) (expected : String) (source : Source) : Json → Result
  | .number (.int i) =>
    if lo ≤ i ∧ i ≤ hi then .ok (.ofInt i) else mismatch (.value s!"integer `{i}`" expected)
  | v => wrongType source v expected

def readByte (source : Source) (v : Json) : Result := readInt 0 255 "u8" source v

def readItems (read : Json → Result) : Nat → List Json → Except Misplaced (List Json)
  | _, [] => .ok []
  | i, v :: rest => do
    let v ← inside (.index i) (read v)
    return v :: (← readItems read (i + 1) rest)

def readEntries (read : Json → Result) (fields : Entries Json) : Except Misplaced (Entries Json) :=
  fields.mapM fun (name, v) => do return (name, ← inside (.name name) (read v))

def sortByName (fields : Entries Json) : Entries Json :=
  fields.mergeSort fun a b => !decide (b.1 < a.1)

/-- A variant by its name, or as an object that gives the name null. -/
def readVariant (name : String) (variants : List String) : Source → Json → Result
  | _, .string s =>
    if variants.contains s then .ok (.string s) else mismatch (.unknownVariant s variants)
  | .json, .object [(s, content)] =>
    if variants.contains s then
      match content with
      | .null => .ok (.string s)
      | v => inside (.name s) (wrongType .json v "unit")
    else mismatch (.unknownVariant s variants)
  | .json, .object _ => mismatch (.value "map" "map with a single key")
  | .json, v => wrongType .json v "string or map"
  | .plain, v => wrongType .plain v s!"enum {name}"

def elementCount (n : Nat) : String := if n = 1 then "1 element" else s!"{n} elements"

/-- A list that holds more than the fields of a record. -/
def tooLong (source : Source) (found taken : Nat) : Mismatch :=
  match source with
  | .json => .length found "fewer elements in array"
  | .plain => .length found s!"{elementCount taken} in sequence"

/-- What a record without one of its fields has there. -/
def absent (name : String) : Schema → Result
  | .option _ => .ok .null
  | _ => mismatch (.missingField name)

/-- The read fields in declared order. -/
def collect (found : Entries Json) : List (String × Schema) → Except Misplaced (Entries Json)
  | [] => .ok []
  | (name, schema) :: rest => do
    let v ← match Entries.find? name found with
      | some v => .ok v
      | none => absent name schema
    return (name, v) :: (← collect found rest)

mutual

/-- Reads a value as what is expected. -/
def read : Schema → Source → Json → Result
  | .value, _, v => .ok v
  | .string, _, .string s => .ok (.string s)
  | .string, source, v => wrongType source v "a string"
  | .bytes, _, .string s => .ok (.ofBytes (utf8 s))
  | .bytes, source, .array items => Json.array <$> readItems (readByte source) 0 items
  | .bytes, source, v => wrongType source v "byte array"
  | .byteList, source, .array items => Json.array <$> readItems (readByte source) 0 items
  | .byteList, source, v => wrongType source v "a sequence"
  | .unit, _, .null => .ok .null
  | .unit, source, v => wrongType source v "unit"
  | .bool, _, .bool b => .ok (.bool b)
  | .bool, source, v => wrongType source v "a boolean"
  | .int64, source, v => readInt Int64.minValue.toInt Int64.maxValue.toInt "i64" source v
  | .uint8, source, v => readByte source v
  | .float64, _, .number (.int i) => .ok (.number (.float (Float.ofInt i)))
  | .float64, _, .number (.float f) => .ok (.number (.float f))
  | .float64, source, v => wrongType source v "f64"
  | .option _, _, .null => .ok .null
  | .option inner, .json, v => read inner .json v
  | .option _, .plain, v => wrongType .plain v "option"
  | .list item, source, .array items =>
    Json.array <$> readItems (fun v => read item source v) 0 items
  | .list _, source, v => wrongType source v "a sequence"
  | .map item, source, .object fields =>
    (fun fields => .object (sortByName fields)) <$>
      readEntries (fun v => read item source v) fields
  | .map _, source, v => wrongType source v "a map"
  | .record _ fields, source, .object given => do
    let found ← given.filterMapM fun (name, v) => readField fields source name v
    Json.object <$> collect found fields
  | .record name fields, source, .array items => do
    let (read, taken) ← readPositions name fields.length fields source 0 items
    if items.length ≤ taken then return .object read
    else mismatch (tooLong source items.length taken)
  | .record name _, source, v => wrongType source v s!"struct {name}"
  | .enumeration name variants, source, v => readVariant name variants source v

def readField : List (String × Schema) → Source → String → Json →
    Except Misplaced (Option (String × Json))
  | [], _, _, _ => .ok none
  | (field, schema) :: rest, source, name, v =>
    if field == name then do return some (name, ← inside (.name name) (read schema source v))
    else readField rest source name v

/-- Reads the fields of a record from the front of a list: the fields, and how many there are. -/
def readPositions (record : String) (size : Nat) : List (String × Schema) → Source → Nat →
    List Json → Except Misplaced (Entries Json × Nat)
  | [], _, i, _ => .ok ([], i)
  | _ :: _, _, i, [] => mismatch (.length i s!"struct {record} with {elementCount size}")
  | (field, schema) :: rest, source, i, v :: items => do
    let v ← inside (.index i) (read schema source v)
    let (more, taken) ← readPositions record size rest source (i + 1) items
    return ((field, v) :: more, taken)

end

end Schema

end ApiClient
