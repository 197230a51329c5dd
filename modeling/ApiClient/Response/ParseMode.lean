import ApiClient.Http.Headers
import ApiClient.Http.MediaType

/-!
How the body of a response is parsed: by a mode that the caller names, or one found by the media
type.
-/

namespace ApiClient

inductive ParseMode
  | auto
  | arrayBuffer
  | blob
  | formData
  | json
  | text
  | stream
  deriving DecidableEq, Repr

namespace ParseMode

def all : List ParseMode := [auto, arrayBuffer, blob, formData, json, text, stream]

def name : ParseMode → String
  | .auto => "auto"
  | .arrayBuffer => "arrayBuffer"
  | .blob => "blob"
  | .formData => "formData"
  | .json => "json"
  | .text => "text"
  | .stream => "stream"

def ofName? (s : String) : Option ParseMode := all.find? (·.name == s)

/-- JSON by name or suffix comes before form data, and that before the types that are blobs. -/
def ofMediaType? (m : MediaType) : Option ParseMode :=
  if (m.type = "application" && m.subtype = "json") || m.suffix = some "json" then some .json
  else if m.type = "multipart" && m.subtype = "form-data" then some .formData
  else if ["application", "audio", "image", "video"].contains m.type then some .blob
  else if m.type = "text" then some .text
  else none

def ofContentType? (s : String) : Option ParseMode := (MediaType.parse? s).bind ofMediaType?

/-- The mode that `auto` stands for: that of the first content type, JSON where it gives none. -/
def resolve (mode : ParseMode) (headers : Headers) : ParseMode :=
  match mode with
  | .auto =>
    (((headers.first? .contentType).bind HeaderValue.toText?).bind ofContentType?).getD .json
  | named => named

end ParseMode

end ApiClient
