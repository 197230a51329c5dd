import ApiClient.Http.Headers
import ApiClient.Json.Printer

/-!
Headers as callers give them, and how they are laid over those a request starts with: name by name,
what is given replaces what was there.
-/

namespace ApiClient

inductive HeaderInput
  | value (text : String)
  | list (texts : List String)
  | json (v : Json)
  | remove

inductive HeaderFault
  | invalidName
  | invalidValue
  deriving DecidableEq, Repr

/-- A header that cannot be sent, named as the caller wrote it. -/
structure HeaderError where
  name : String
  fault : HeaderFault
  deriving DecidableEq, Repr

def HeaderFault.message : HeaderFault → String
  | .invalidName => "invalid HTTP header name"
  | .invalidValue => "failed to parse header value"

def HeaderError.message (e : HeaderError) : String :=
  s!"invalid header `{e.name}`: {e.fault.message}"

namespace HeaderInput

/-- Null removes, scalars are their text, an array is a list, an object stays JSON. -/
def ofJson : Json → HeaderInput
  | .null => .remove
  | .bool b => .value (if b then "true" else "false")
  | .number n => .value n.text
  | .string s => .value s
  | .array items => .list (items.map itemText)
  | .object fields => .json (.object fields)
where
  itemText : Json → String
    | .string s => s
    | other => other.text

def ofBool (b : Bool) : HeaderInput := .value (if b then "true" else "false")

def ofInt (i : Int) : HeaderInput := .value (toString i)

/-- Nothing removes. -/
def ofOption {α : Type} (input : α → HeaderInput) : Option α → HeaderInput
  | some a => input a
  | none => .remove

def texts : HeaderInput → List String
  | .value text => [text]
  | .list texts => texts
  | .json v => [v.text]
  | .remove => []

def values (name : String) (input : HeaderInput) : Except HeaderError (List HeaderValue) :=
  input.texts.mapM fun text =>
    match HeaderValue.ofText? text with
    | some v => .ok v
    | none => .error ⟨name, .invalidValue⟩

/-- Lays one input over a map. -/
def apply (headers : Headers) (name : String) (input : HeaderInput) :
    Except HeaderError Headers := do
  match HeaderName.parse? name with
  | none => .error ⟨name, .invalidName⟩
  | some key => return (headers.remove key).appendAll key (← input.values name)

end HeaderInput

/-- Lays the inputs over a map, one after the other. -/
def Headers.override (base : Headers) (inputs : Entries HeaderInput) :
    Except HeaderError Headers :=
  inputs.foldlM (fun headers (name, input) => input.apply headers name) base

end ApiClient
