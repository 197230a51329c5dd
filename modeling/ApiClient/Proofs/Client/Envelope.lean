import ApiClient.Proofs.Client.Dispatch

/-!
What a result says of its response is true. Data, errors and statuses agree with the response that
the result carries, and a body that is shown as undecodable is one that cannot be decoded.
-/

namespace ApiClient

section

variable {α ε : Type} (data : Decoder α) (error : Decoder ε)

/-- How a response really is undecodable: what was to be JSON is none, or the decoder refuses what
is shown. -/
inductive Undecodable (response : HttpResponse) : ResponseBody → DecodeError → Prop
  | notJson {e : Json.Parser.ParseError} (success : response.status.isSuccess = true)
      (parse : Json.parse response.body = .error e)
      (path : (DecodeError.notJson e).path? = some ".") :
      Undecodable response (.bytes response.body) (.notJson e)
  | data {body : ResponseBody} {source : DecodeError}
      (success : response.status.isSuccess = true) (decoding : data body = .error source) :
      Undecodable response body source
  | error {body : ResponseBody} {source : DecodeError}
      (failure : response.status.isSuccess = false) (decoding : error body = .error source) :
      Undecodable response body source

/-- The outcome of a result agrees with its response. -/
structure Exchange.Consistent (x : Exchange α ε) : Prop where
  unanswered : x.response = none ↔ ∃ e, x.outcome = .error (.transport e)
  success : ∀ a, x.outcome = .ok a → ∃ r, x.response = some r ∧ r.status.isSuccess = true
  transform : ∀ message, x.outcome = .error (.transform message) →
    ∃ r, x.response = some r ∧ r.status.isSuccess = true
  api : ∀ status e, x.outcome = .error (.api status e) →
    ∃ r, x.response = some r ∧ r.status.isSuccess = false ∧ status = r.status
  undecodable : ∀ status body source, x.outcome = .error (.undecodable status body source) →
    ∃ r, x.response = some r ∧ status = r.status ∧ Undecodable data error r body source

end

/-- A success only fails to parse where it was to be JSON. -/
theorem ResponseBody.notJson_of_parse_eq_error {mode : ParseMode} {r : HttpResponse}
    {source : DecodeError} (h : ResponseBody.parse mode r = .error source) :
    ∃ e, Json.parse r.body = .error e ∧ source = .notJson e := by
  rw [ResponseBody.parse] at h
  split at h
  case isTrue => cases h
  case isFalse =>
    split at h
    case h_1 | h_2 | h_3 | h_4 | h_5 => cases h
    case h_6 | h_7 =>
      split at h
      case h_1 => cases h
      case h_2 e hparse =>
        cases h
        exact ⟨e, hparse, rfl⟩

section

variable {α ε : Type} {data : Decoder α} {error : Decoder ε} {i : Interceptors}
  {dispatch : Dispatch} {request : HttpRequest} {x : Exchange α ε} {events : List Event}

theorem ReadsData.consistent {response : HttpResponse} {outcome : Except (ResponseError ε) α}
    (h : ReadsData data dispatch response outcome events)
    (success : response.status.isSuccess = true) :
    Exchange.Consistent data error ⟨outcome, request, some response⟩ := by
  cases h with
  | unparsed parse =>
      obtain ⟨e, hparse, rfl⟩ := ResponseBody.notJson_of_parse_eq_error parse
      refine ⟨by simp, by simp, by simp, by simp, ?_⟩
      rintro status body source ⟨⟩
      exact ⟨response, rfl, rfl, .notJson success hparse rfl⟩
  | untransformed parse transform =>
      exact ⟨by simp, by simp, fun _ _ => ⟨response, rfl, success⟩, by simp, by simp⟩
  | undecoded parse transform decoding =>
      refine ⟨by simp, by simp, by simp, by simp, ?_⟩
      rintro status body source ⟨⟩
      exact ⟨response, rfl, rfl, .data success decoding⟩
  | decoded parse transform decoding =>
      exact ⟨by simp, fun _ _ => ⟨response, rfl, success⟩, by simp, by simp, by simp⟩

theorem consistent_failureError {response : HttpResponse}
    (failure : response.status.isSuccess = false) (body : ResponseBody) :
    Exchange.Consistent data error
      ⟨.error (failureError error response body), request, some response⟩ := by
  rw [failureError]
  cases hdecode : error body with
  | ok e =>
      refine ⟨by simp, by simp, by simp, ?_, by simp⟩
      rintro status e' ⟨⟩
      exact ⟨response, rfl, failure, rfl⟩
  | error source =>
      refine ⟨by simp, by simp, by simp, by simp, ?_⟩
      rintro status body' source' ⟨⟩
      exact ⟨response, rfl, rfl, .error failure hdecode⟩

theorem Received.consistent (h : Received data error i dispatch request x events) :
    x.Consistent data error := by
  cases h with
  | unavailable | unanswered => exact ⟨by simp, by simp, by simp, by simp, by simp⟩
  | success _ answer handled status reading => exact reading.consistent status
  | failure _ answer handled status => exact consistent_failureError status _

/-- A response is what the transport answered, after the handlers of responses. -/
theorem Received.exists_of_response_eq_some (h : Received data error i dispatch request x events)
    {r : HttpResponse} (hr : x.response = some r) :
    ∃ transport received, dispatch.transport = some transport ∧
      transport request.duplicate = .ok received ∧ i.onResponse request received = r := by
  cases h with
  | unavailable | unanswered => cases hr
  | success h answer handled | failure h answer handled =>
      cases hr
      exact ⟨_, _, h, answer, handled⟩

end

/-- Every result agrees with its response, and that is what the transport answered to a copy of the
request after the handlers of responses. -/
theorem Session.request_consistent {α ε : Type} {data : Decoder α} {error : Decoder ε} {s : Session}
    {id : ClientId} {options : RequestOptions} {defaultTransport : Option Transport}
    {x : Exchange α ε}
    (h : ((request data error id options defaultTransport).run s).1.1 = .ok x) :
    x.Consistent data error ∧ ∀ r, x.response = some r → ∃ transport received,
      (s.config id).transportFor options defaultTransport = some transport ∧
      transport x.request.duplicate = .ok received ∧
      (s.client id).interceptors.onResponse x.request received = r := by
  cases hprepare : (s.config id).prepare options defaultTransport with
  | error e =>
      rw [run_request_of_error data error hprepare] at h
      cases h
  | ok dispatch =>
      obtain ⟨x', events, hrun, hreceived⟩ := run_request_of_ok data error hprepare
      rw [hrun] at h
      obtain rfl := Except.ok.inj h
      refine ⟨hreceived.consistent, ?_⟩
      rw [hreceived.request_eq, ← Config.transport_of_prepare_eq_ok hprepare]
      exact fun r hr => hreceived.exists_of_response_eq_some hr

/-- A request for JSON to a server that answers with something else. -/
def garbled : RequestOptions :=
  { url := "/", method := some .get, parseMode := some .json,
    transport := some fun _ => .ok { status := .ok, headers := .empty, body := utf8 "no" } }

theorem Session.request_consistent_garbled :
    ∃ x : Exchange Json Json,
      ((request Schema.value.decode Schema.value.decode defaultClient garbled).run {}).1.1 = .ok x ∧
      x.outcome = .error (.undecodable .ok (.bytes (utf8 "no")) (.notJson ⟨.expectedWord, 1, 2⟩)) ∧
      x.Consistent Schema.value.decode Schema.value.decode := by
  have hrequest : ((request Schema.value.decode Schema.value.decode defaultClient garbled).run
      {}).1.1 = (.ok _ : Except ClientError (Exchange Json Json)) := rfl
  exact ⟨_, hrequest, rfl, (request_consistent hrequest).1⟩

end ApiClient
