import ApiClient.Client.Prepare
import ApiClient.Client.Registry

/-!
One request from its options to its outcome. The journal tells what was run on the way, in order:
handlers, the transport and the transformer.
-/

namespace ApiClient

/-- Why a request that was built brought no data. -/
inductive ResponseError (ε : Type)
  /-- The response failed and its body is an error of the expected type. -/
  | api (status : Status) (error : ε)
  | undecodable (status : Status) (body : ResponseBody) (source : DecodeError)
  | transform (message : String)
  | transport (e : TransportError)

namespace ResponseError

variable {ε : Type}

def message : ResponseError ε → String
  | .api status _ => s!"request failed with status {status.text}"
  | .undecodable status _ source =>
    s!"response with status {status.text} could not be decoded: {source.message}"
  | .transform message => s!"response transformer failed: {message}"
  | .transport e => e.message

def status? : ResponseError ε → Option Status
  | .api status _ | .undecodable status _ _ => some status
  | .transform _ | .transport _ => none

end ResponseError

/-- What became of a request that was built: the request after its handlers, the response if there
was one, and data or an error. -/
structure Exchange (α ε : Type) where
  outcome : Except (ResponseError ε) α
  request : HttpRequest
  response : Option HttpResponse

/-- What is run for a request. -/
inductive Event
  | handled (stage : Stage) (id : HandlerId)
  | sent (request : HttpRequest)
  | transformed (v : Json)

abbrev Journaled := StateM (List Event)

namespace Journaled

def note (e : Event) : Journaled Unit := modify (· ++ [e])

def runHandlers {α β : Type} (stage : Stage) (run : β → α → α) :
    List (HandlerId × β) → α → Journaled α
  | [], a => return a
  | (id, handler) :: rest, a => do
    note (.handled stage id)
    runHandlers stage run rest (run handler a)

def send (transport : Transport) (request : HttpRequest) :
    Journaled (Except TransportError HttpResponse) := do
  note (.sent request)
  return transport request

def transform (transformer : Transformer) (v : Json) : Journaled (Except String Json) := do
  note (.transformed v)
  return transformer v

end Journaled

open Journaled

section

variable {α ε : Type}

/-- Transforms JSON where there is a transformer; all other bodies stay. -/
def ResponseBody.transform (transformer : Option Transformer) :
    ResponseBody → Journaled (Except String ResponseBody)
  | .json v =>
    match transformer with
    | some f => do return (← Journaled.transform f v).map .json
    | none => return .ok (.json v)
  | body => return .ok body

def readData (decode : Decoder α) (dispatch : Dispatch) (response : HttpResponse) :
    Journaled (Except (ResponseError ε) α) := do
  match ResponseBody.parse dispatch.parseMode response with
  | .error source => return .error (.undecodable response.status (.bytes response.body) source)
  | .ok body =>
    match ← body.transform dispatch.transformer with
    | .error message => return .error (.transform message)
    | .ok body =>
      match decode body with
      | .ok data => return .ok data
      | .error source => return .error (.undecodable response.status body source)

/-- The error that a failure comes to, after its handlers. -/
def readFailure (decode : Decoder ε) (interceptors : Interceptors) (response : HttpResponse)
    (request : HttpRequest) : Journaled (ResponseError ε) := do
  let body ← runHandlers .failure (fun run body => run body response request)
    interceptors.failure.handlers (.ofFailure response)
  match decode body with
  | .ok error => return .api response.status error
  | .error source => return .undecodable response.status body source

def receive (data : Decoder α) (error : Decoder ε) (interceptors : Interceptors)
    (dispatch : Dispatch) (request : HttpRequest) : Journaled (Exchange α ε) := do
  match dispatch.transport with
  | none => return ⟨.error (.transport .unavailable), request, none⟩
  | some transport =>
    match ← send transport request.duplicate with
    | .error e => return ⟨.error (.transport e), request, none⟩
    | .ok response =>
      let response ← runHandlers .response (fun run response => run response request)
        interceptors.response.handlers response
      if response.status.isSuccess then
        return ⟨← readData data dispatch response, request, some response⟩
      else
        return ⟨.error (← readFailure error interceptors response request), request, some response⟩

def exchange (data : Decoder α) (error : Decoder ε) (config : Config)
    (interceptors : Interceptors) (options : RequestOptions)
    (defaultTransport : Option Transport := none) :
    Journaled (Except ClientError (Exchange α ε)) := do
  match config.prepare options defaultTransport with
  | .error e => return .error e
  | .ok dispatch =>
    let request ← runHandlers .request (fun run request => run request)
      interceptors.request.handlers dispatch.request
    return .ok (← receive data error interceptors dispatch request)

end

end ApiClient
