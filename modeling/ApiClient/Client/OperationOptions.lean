import ApiClient.Client.Prepare

/-!
The options of an operation's function. An operation's data declares what it brings along: a body,
headers, both or neither. What it declares the caller cannot set, and what the caller sets on the
rest becomes the request's options together with the data.
-/

namespace ApiClient

/-- What the data of an operation declares. -/
inductive Shape
  | plain
  | withBody
  | withHeaders
  | withBodyAndHeaders
  deriving DecidableEq, Repr

def Shape.declaresBody : Shape → Bool
  | .withBody | .withBodyAndHeaders => true
  | _ => false

def Shape.declaresHeaders : Shape → Bool
  | .withHeaders | .withBodyAndHeaders => true
  | _ => false

/-- The data of an operation, taken apart by where it goes. -/
structure DataParts where
  path : Entries Json := []
  query : Entries Json := []
  body : Option RequestBody := none
  headers : Entries HeaderInput := []

/-- A group of parameters from its JSON: the fields of an object, none for null. -/
def parameterMap : Json → Except String (Entries Json)
  | .object fields => .ok fields
  | .null => .ok []
  | other => .error s!"parameters must serialize to an object, got `{other.text}`"

/-- The options of an operation, and the client that it goes through, if not the default one. -/
structure OperationOptions (κ : Type) where
  base : RequestOptions := {}
  client : Option κ := none

inductive Setter (κ : Type)
  | client (c : κ)
  | baseUrl (url : String)
  | parseMode (mode : ParseMode)
  | bodySerializer (serializer : BodySerializer)
  | querySerializer (serializer : QuerySerializer)
  | transport (t : Transport)
  | body (b : RequestBody)
  | header (name : String) (input : HeaderInput)
  | headers (inputs : Entries HeaderInput)
  | transformer (t : Transformer)

/-- Bodies and headers can be set where the data declares none, a transformer only where it
declares neither. -/
def Setter.allowed {κ : Type} (shape : Shape) : Setter κ → Bool
  | .body _ => !shape.declaresBody
  | .header .. | .headers _ => !shape.declaresHeaders
  | .transformer _ => !shape.declaresBody && !shape.declaresHeaders
  | _ => true

namespace OperationOptions

variable {κ : Type}

def set (o : OperationOptions κ) : Setter κ → OperationOptions κ
  | .client c => { o with client := some c }
  | .baseUrl url => { o with base.baseUrl := some url }
  | .parseMode mode => { o with base.parseMode := some mode }
  | .bodySerializer serializer => { o with base.bodySerializer := some serializer }
  | .querySerializer serializer => { o with base.querySerializer := some serializer }
  | .transport t => { o with base.transport := some t }
  | .body b => { o with base.body := some b }
  | .header name input => { o with base.headers := o.base.headers.insert name input }
  | .headers inputs => { o with base.headers := inputs }
  | .transformer t => { o with base.transformer := some t }

def setAll (o : OperationOptions κ) (setters : List (Setter κ)) : OperationOptions κ :=
  setters.foldl set o

/-- The request's options. What the data declares replaces what was set, and then no transformer
is kept. -/
def toRequestOptions (o : OperationOptions κ) (shape : Shape) (parts : DataParts) (url : String) :
    RequestOptions :=
  let base := { o.base with
    url
    path := o.base.path.insertAll parts.path
    query := o.base.query.insertAll parts.query }
  let base :=
    if shape.declaresBody then { base with body := parts.body, transformer := none } else base
  if shape.declaresHeaders then { base with headers := parts.headers, transformer := none }
  else base

end OperationOptions

end ApiClient
