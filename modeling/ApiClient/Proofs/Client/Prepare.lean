import ApiClient.Client.Prepare
import ApiClient.Proofs.Except
import ApiClient.Proofs.Lists
import ApiClient.Proofs.Parameter.Substitution
import ApiClient.Proofs.Request.HeaderOverlay

/-!
When a request is refused. The faults that a request may have are looked for in a fixed order, and
the first one that is present is the answer.
-/

namespace ApiClient

/-! ### The parts of a request -/

/-- Of all bodies only JSON is serialized. -/
theorem fault?_serialize (serializer : BodySerializer) (headers : Headers)
    (body : Option RequestBody) :
    fault? (RequestBody.serialize serializer headers body) =
      match body with
      | some (.json v) => fault? (serializer v)
      | _ => none := by
  match body with
  | none | some (.text _) | some (.raw _) => rfl
  | some (.json v) =>
      refine (fault?_bind rfl ?_).trans Option.or_none
      intro written _
      cases written.contentType <;> rfl

/-- A URL fails with the fault of its path, or else with that of its query. -/
theorem fault?_buildUrl (base endpoint : String) (path query : Entries Json)
    (serializer : QuerySerializer) :
    fault? (Request.buildUrl base endpoint path query serializer) =
      (fault? (Parameter.substitute path (Request.joinUrl base endpoint))).or
        (if query.isEmpty then none else fault? (serializer query)) := by
  have hquery : ∀ url, fault? (if query.isEmpty then pure url else do
      return Request.appendSearch url (← serializer query)) =
        if query.isEmpty then none else fault? (serializer query) := by
    intro url
    split
    case isTrue => rfl
    case isFalse => cases serializer query <;> rfl
  cases path with
  | nil =>
      rw [Parameter.substitute_nil]
      exact hquery _
  | cons entry path => exact fault?_bind rfl fun url _ => hquery url

/-! ### Refusals -/

namespace Config

/-! What the options of a request leave open is taken from the settings, and a transport that is
still missing from the build. -/

def methodFor (config : Config) (options : RequestOptions) : Option Method :=
  options.method.or config.method

/-- An empty text is no body. -/
def bodyFor (config : Config) (options : RequestOptions) : Option RequestBody :=
  (options.body.or config.body).filter (!·.isBlank)

def bodySerializerFor (config : Config) (options : RequestOptions) : BodySerializer :=
  options.bodySerializer.getD config.bodySerializer

def baseUrlFor (config : Config) (options : RequestOptions) : String :=
  (options.baseUrl.map trimBaseUrl).getD config.baseUrl

def querySerializerFor (config : Config) (options : RequestOptions) : QuerySerializer :=
  options.querySerializer.getD config.querySerializer

def urlFor (config : Config) (options : RequestOptions) : Except NestedParameter String :=
  Request.buildUrl (config.baseUrlFor options) options.url options.path options.query
    (config.querySerializerFor options)

def transportFor (config : Config) (options : RequestOptions)
    (defaultTransport : Option Transport) : Option Transport :=
  (options.transport.or config.transport).or defaultTransport

def parseModeFor (config : Config) (options : RequestOptions) : ParseMode :=
  options.parseMode.getD config.parseMode

def transformerFor (config : Config) (options : RequestOptions) : Option Transformer :=
  options.transformer.or config.transformer

variable {defaultTransport : Option Transport}

theorem prepare_of_methodFor_eq_none {config : Config} {options : RequestOptions}
    (h : config.methodFor options = none) :
    config.prepare options defaultTransport = .error .missingMethod := by
  rw [methodFor] at h
  rw [prepare, h]
  rfl

/-- What is done for a request that has a method. -/
theorem prepare_of_methodFor {config : Config} {options : RequestOptions} {method : Method}
    (h : config.methodFor options = some method) :
    config.prepare options defaultTransport = do
      let headers ← (config.headers.override options.headers).mapError .header
      let (payload, headers) ← (RequestBody.serialize (config.bodySerializerFor options) headers
        (config.bodyFor options)).mapError .body
      let url ← (config.urlFor options).mapError .parameters
      let uri ← (Uri.parse url).mapError (.request method url)
      return {
        request := { method, uri, headers, body := payload }
        transport := config.transportFor options defaultTransport
        parseMode := config.parseModeFor options
        transformer := config.transformerFor options } := by
  rw [methodFor] at h
  rw [prepare, h]
  rfl

end Config

/-- What a request is checked for. -/
inductive Check
  | method
  | headers
  | body
  | path
  | query
  | target
  deriving DecidableEq, Repr

namespace Check

/-- All checks in their order. -/
def all : List Check := [.method, .headers, .body, .path, .query, .target]

/-- The fault that a check finds in a request. -/
def fault? (config : Config) (options : RequestOptions) : Check → Option ClientError
  | .method => if (config.methodFor options).isNone then some .missingMethod else none
  | .headers =>
    (options.headers.findSome? fun (name, input) => (input.fault? name).map (⟨name, ·⟩)).map .header
  | .body =>
    match config.bodyFor options with
    | some (.json v) => (ApiClient.fault? (config.bodySerializerFor options v)).map .body
    | _ => none
  | .path =>
    (ApiClient.fault? (Parameter.substitute options.path
      (Request.joinUrl (config.baseUrlFor options) options.url))).map .parameters
  | .query =>
    if options.query.isEmpty then none
    else (ApiClient.fault? (config.querySerializerFor options options.query)).map .parameters
  | .target =>
    -- without a method or a URL there is no target to check
    match config.methodFor options, config.urlFor options with
    | some verb, .ok url => (ApiClient.fault? (Uri.parse url)).map (.request verb url)
    | _, _ => none

variable (config : Config) (options : RequestOptions)

theorem fault?_headers : ApiClient.fault? ((config.headers.override options.headers).mapError
    ClientError.header) = fault? config options .headers := by
  rw [fault?_mapError, fault?_override, fault?]

theorem fault?_body (headers : Headers) : ApiClient.fault? ((RequestBody.serialize
    (config.bodySerializerFor options) headers (config.bodyFor options)).mapError
    ClientError.body) = fault? config options .body := by
  rw [fault?_mapError, fault?_serialize, fault?]
  split <;> rfl

theorem fault?_parameters : ApiClient.fault? ((config.urlFor options).mapError
    ClientError.parameters) = (fault? config options .path).or (fault? config options .query) := by
  rw [fault?_mapError, Config.urlFor, fault?_buildUrl, Option.map_or, fault?, fault?]
  split <;> rfl

variable {config options}

theorem fault?_target {verb : Method} {url : String}
    (hmethod : config.methodFor options = some verb) (hurl : config.urlFor options = .ok url) :
    ApiClient.fault? ((Uri.parse url).mapError
    (ClientError.request verb url)) = fault? config options .target := by
  rw [fault?_mapError, fault?, hmethod, hurl]

end Check

namespace Config

/-- A request is refused for the first fault that the checks find in it, whatever the build brings
along. -/
theorem fault?_prepare (config : Config) (options : RequestOptions)
    (defaultTransport : Option Transport) :
    fault? (config.prepare options defaultTransport) =
      Check.all.findSome? (Check.fault? config options) := by
  simp only [Check.all, findSome?_cons_eq_or, List.findSome?_nil, Option.or_none]
  cases hmethod : config.methodFor options with
  | none =>
      rw [Check.fault?, hmethod, prepare_of_methodFor_eq_none hmethod]
      rfl
  | some method =>
      have hnone : Check.fault? config options .method = none := by
        rw [Check.fault?, hmethod]
        rfl
      rw [hnone, Option.none_or, prepare_of_methodFor hmethod]
      refine fault?_bind (Check.fault?_headers config options) fun headers _ => ?_
      refine fault?_bind (Check.fault?_body config options headers) ?_
      rintro ⟨payload, headers⟩ -
      -- both checks of the parameters belong to one step
      rw [← Option.or_assoc]
      refine fault?_bind (Check.fault?_parameters config options) fun url hparameters => ?_
      have hurl : config.urlFor options = .ok url := mapError_eq_ok_iff.mp hparameters
      rw [← Option.or_none (o := Check.fault? config options .target)]
      exact fault?_bind (Check.fault?_target hmethod hurl) fun uri _ => rfl

/-- A bad header is found before parameters that nest. -/
example :
    fault? (prepare {}
      { method := some .get, headers := [("a b", .value "")],
        query := [("q", .array [.array []])] }) = some (.header ⟨"a b", .invalidName⟩) := rfl

variable {defaultTransport : Option Transport}

/-- What is prepared, part by part. -/
theorem eq_of_prepare_eq_ok {config : Config} {options : RequestOptions} {dispatch : Dispatch}
    (h : config.prepare options defaultTransport = .ok dispatch) :
    ∃ method headers payload url uri, ∃ sent : Headers,
      config.methodFor options = some method ∧
      config.headers.override options.headers = .ok headers ∧
      RequestBody.serialize (config.bodySerializerFor options) headers (config.bodyFor options) =
        .ok (payload, sent) ∧
      config.urlFor options = .ok url ∧ Uri.parse url = .ok uri ∧
      dispatch = {
        request := { method, uri, headers := sent, body := payload }
        transport := config.transportFor options defaultTransport
        parseMode := config.parseModeFor options
        transformer := config.transformerFor options } := by
  cases hmethod : config.methodFor options with
  | none =>
      rw [prepare_of_methodFor_eq_none hmethod] at h
      cases h
  | some method =>
      rw [prepare_of_methodFor hmethod] at h
      obtain ⟨headers, hheaders, h⟩ := bind_eq_ok_iff.mp h
      obtain ⟨⟨payload, sent⟩, hbody, h⟩ := bind_eq_ok_iff.mp h
      obtain ⟨url, hurl, h⟩ := bind_eq_ok_iff.mp h
      obtain ⟨uri, huri, h⟩ := bind_eq_ok_iff.mp h
      cases h
      exact ⟨method, headers, payload, url, uri, sent, rfl, mapError_eq_ok_iff.mp hheaders,
        mapError_eq_ok_iff.mp hbody, mapError_eq_ok_iff.mp hurl, mapError_eq_ok_iff.mp huri, rfl⟩

theorem transport_of_prepare_eq_ok {config : Config} {options : RequestOptions}
    {dispatch : Dispatch} (h : config.prepare options defaultTransport = .ok dispatch) :
    dispatch.transport = config.transportFor options defaultTransport := by
  obtain ⟨method, headers, payload, url, uri, sent, -, -, -, -, -, rfl⟩ := eq_of_prepare_eq_ok h
  rfl

/-- How the response of a prepared request is read. -/
theorem reading_of_prepare_eq_ok {config : Config} {options : RequestOptions}
    {dispatch : Dispatch} (h : config.prepare options defaultTransport = .ok dispatch) :
    dispatch.parseMode = config.parseModeFor options ∧
      dispatch.transformer = config.transformerFor options := by
  obtain ⟨method, headers, payload, url, uri, sent, -, -, -, -, -, rfl⟩ := eq_of_prepare_eq_ok h
  exact ⟨rfl, rfl⟩

end Config

end ApiClient
