import ApiClient.Http.Message
import ApiClient.Json.Parser
import ApiClient.Response.ParseMode
import ApiClient.Response.Schema

/-!
Response bodies, and how they are decoded. A text decodes as a string and raw bytes as bytes; what
takes no bytes is given the list of their numbers instead. A body that is empty decodes as nothing.
-/

namespace ApiClient

inductive ResponseBody
  | empty
  | json (v : Json)
  | text (s : String)
  | bytes (b : Bytes)
  | stream (b : Bytes)

inductive DecodeError
  | json (e : Misplaced)
  | notJson (e : Json.Parser.ParseError)
  | value (mismatch : Mismatch)
  deriving DecidableEq, Repr

namespace DecodeError

def path? : DecodeError → Option String
  | .json e => some e.path.text
  | .notJson _ => some (ValuePath.text [])
  | .value _ => none

def reason : DecodeError → String
  | .json e => e.mismatch.message
  | .notJson e => e.message
  | .value m => m.message

def message (e : DecodeError) : String :=
  match e.path? with
  | some path => s!"JSON deserialization error at path {path}: {e.reason}"
  | none => e.reason

end DecodeError

/-- Reads a parsed body as a value of some type. -/
abbrev Decoder (α : Type) := ResponseBody → Except DecodeError α

namespace Schema

/-- Bytes as they are, where they are expected or spell the expected string. -/
def ofRaw? (schema : Schema) (bytes : Bytes) : Option Json :=
  match schema with
  | .bytes => some (.ofBytes bytes)
  | .string => (ofUtf8? bytes).map .string
  | _ => none

/-- Reads a value that was not parsed from JSON; its parts have no names to point at. -/
def readPlain (schema : Schema) (v : Json) : Except DecodeError Json :=
  (schema.read .plain v).mapError fun e => .value e.mismatch

def decodeRaw (schema : Schema) (bytes : Bytes) : Except DecodeError Json :=
  match schema.ofRaw? bytes with
  | some v => .ok v
  | none => schema.readPlain (.ofBytes bytes)

def decode (schema : Schema) : Decoder Json
  | .empty => schema.readPlain .null
  | .json v => (schema.read .json v).mapError .json
  | .text s => schema.readPlain (.string s)
  | .bytes b => schema.decodeRaw b
  | .stream b => schema.decodeRaw b

end Schema

/-- Whether a response says that it has no body: by its status, or by its first content length. -/
def HttpResponse.declaresEmpty (r : HttpResponse) : Bool :=
  r.status = .noContent || r.headers.first? .contentLength = some (utf8 "0")

namespace ResponseBody

/-- The body of a success, parsed by the mode that the headers resolve. -/
def parse (mode : ParseMode) (r : HttpResponse) : Except DecodeError ResponseBody :=
  if r.declaresEmpty then .ok .empty
  else
    match mode.resolve r.headers with
    | .stream => .ok (.stream r.body)
    | .text => .ok (.text (String.ofList (Utf8.decodeLossy r.body)))
    | .arrayBuffer | .blob | .formData => .ok (.bytes r.body)
    | .json | .auto =>
      match Json.parse r.body with
      | .ok v => .ok (.json v)
      | .error e => .error (.notJson e)

/-- The body of a failure: JSON where it is that, else text. -/
def ofFailure (r : HttpResponse) : ResponseBody :=
  let text := Utf8.decodeLossy r.body
  if text.isEmpty then .empty
  else
    match Json.parse (Utf8.encode text) with
    | .ok v => .json v
    | .error _ => .text (String.ofList text)

end ResponseBody

end ApiClient
