import ApiClient.Entries
import ApiClient.Http.Headers
import ApiClient.Http.Status
import ApiClient.Http.Uri

/-!
Requests and responses as they go over the wire.
-/

namespace ApiClient

inductive Version
  | http09
  | http10
  | http11
  | http2
  | http3
  deriving DecidableEq, Repr

structure HttpRequest where
  method : Method
  uri : Uri
  version : Version := .http11
  headers : Headers
  body : Bytes
  /-- What handlers attach to a request for one another. It never goes over the wire. -/
  extensions : Entries String := []
  deriving DecidableEq, Repr

def HttpRequest.duplicate (r : HttpRequest) : HttpRequest :=
  { method := r.method, uri := r.uri, version := r.version, headers := r.headers, body := r.body }

structure HttpResponse where
  status : Status
  version : Version := .http11
  headers : Headers
  body : Bytes
  deriving DecidableEq, Repr

/-- Why no response came. A transport tells any failure of its own as `failed`. -/
inductive TransportError
  | unavailable
  | failed (message : String)
  deriving DecidableEq, Repr

def TransportError.message : TransportError → String
  | .unavailable =>
    "no transport configured; enable the `reqwest` feature or set `Config::fetch`"
  | .failed message => message

abbrev Transport := HttpRequest → Except TransportError HttpResponse

end ApiClient
