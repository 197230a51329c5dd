import ApiClient.Http.Headers
import ApiClient.Json.Printer
import ApiClient.Text.Percent

/-!
Request bodies and their serializers. Only structured bodies are serialized; texts and bytes are
sent as they are. A serializer may name the content type of what it wrote.
-/

namespace ApiClient

inductive RequestBody
  | json (v : Json)
  | text (s : String)
  | raw (bytes : Bytes)

structure SerializedBody where
  bytes : Bytes
  contentType : Option HeaderValue := none
  deriving DecidableEq, Repr

/-- Why a body cannot be written as a form. Writing JSON never fails. -/
inductive BodyError
  | notAnObject (kind : String)
  | nestedField (name : String)
  deriving DecidableEq, Repr

def BodyError.message : BodyError → String
  | .notAnObject kind => s!"form bodies must be JSON objects, got {kind}"
  | .nestedField name => s!"form field `{name}` nests arrays or objects"

abbrev BodySerializer := Json → Except BodyError SerializedBody

namespace BodySerializer

/-- Compact JSON. -/
def json : BodySerializer := fun v => .ok ⟨utf8 v.text, none⟩

def formContentType : HeaderValue := utf8 "application/x-www-form-urlencoded"

/-- The values that a field of a form has: none for null, one for each element of an array. -/
def fieldValues : Json → List Json
  | .null => []
  | .array items => items
  | scalar => [scalar]

def formPair (name text : String) : List Char :=
  Percent.encodeForm name.toList ++ '=' :: Percent.encodeForm text.toList

def formPairs (name : String) (v : Json) : Except BodyError (List (List Char)) :=
  (fieldValues v).mapM fun item =>
    match item.scalarText? with
    | some text => .ok (formPair name text)
    | none => .error (.nestedField name)

def form : BodySerializer
  | .object fields => do
    let pairs ← fields.mapM fun (name, v) => formPairs name v
    return ⟨Utf8.encode (List.intercalate ['&'] pairs.flatten), some formContentType⟩
  | other => .error (.notAnObject other.kind)

end BodySerializer

end ApiClient
