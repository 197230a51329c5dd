import ApiClient.Client.Config
import ApiClient.Request.Url

/-!
From settings and options to the request that goes out. What the options leave open comes from the
settings, and a transport that these lack too from the build. The first fault of these ends it: no
method, a bad header, a body or parameters that cannot be serialized, a URL that is no request
target.
-/

namespace ApiClient

/-- Why no request went out. -/
inductive ClientError
  | data (message : String)
  | body (e : BodyError)
  | parameters (e : NestedParameter)
  | header (e : HeaderError)
  | missingMethod
  | request (method : Method) (url : String) (fault : UriFault)
  deriving DecidableEq, Repr

def ClientError.message : ClientError → String
  | .data m => s!"failed to serialize operation data: {m}"
  | .body e => s!"failed to serialize request body: {e.message}"
  | .parameters e => s!"failed to serialize request parameters: {e.message}"
  | .header e => e.message
  | .missingMethod => "no request method given and the client config has no default method"
  | .request method url fault => s!"invalid request `{method.name} {url}`: {fault.message}"

structure Dispatch where
  request : HttpRequest
  transport : Option Transport
  parseMode : ParseMode
  transformer : Option Transformer

def RequestBody.isBlank : RequestBody → Bool
  | .text s => s.isEmpty
  | _ => false

/-- The bytes of a body, and the headers beside it. Without a body there is no content type. -/
def RequestBody.serialize (serializer : BodySerializer) (headers : Headers) :
    Option RequestBody → Except BodyError (Bytes × Headers)
  | none => .ok ([], headers.remove .contentType)
  | some (.json v) => do
    let written ← serializer v
    match written.contentType with
    | some type => return (written.bytes, headers.insert .contentType type)
    | none => return (written.bytes, headers)
  | some (.text s) => .ok (utf8 s, headers)
  | some (.raw bytes) => .ok (bytes, headers)

/-- The request of options under settings. The transport that a build brings along, if it does, is
the last resort. -/
def Config.prepare (config : Config) (options : RequestOptions)
    (defaultTransport : Option Transport := none) : Except ClientError Dispatch := do
  let method ← match options.method.or config.method with
    | some method => .ok method
    | none => .error .missingMethod
  let baseUrl := (options.baseUrl.map trimBaseUrl).getD config.baseUrl
  let headers ← (config.headers.override options.headers).mapError .header
  let body := (options.body.or config.body).filter (!·.isBlank)
  let serializer := options.bodySerializer.getD config.bodySerializer
  let (payload, headers) ← (RequestBody.serialize serializer headers body).mapError .body
  let querySerializer := options.querySerializer.getD config.querySerializer
  let url ← (Request.buildUrl baseUrl options.url options.path options.query
    querySerializer).mapError .parameters
  let uri ← (Uri.parse url).mapError (.request method url)
  return {
    request := { method, uri, headers, body := payload }
    transport := (options.transport.or config.transport).or defaultTransport
    parseMode := options.parseMode.getD config.parseMode
    transformer := options.transformer.or config.transformer }

end ApiClient
