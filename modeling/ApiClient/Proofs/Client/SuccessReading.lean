import ApiClient.Proofs.Client.BinaryData
import ApiClient.Proofs.Client.Envelope

/-!
How a success is read. What it is parsed to follows from its status, its first content length and
content type and the mode that is asked for. JSON goes through the transformer, if there is one, and
that is the only place where it is called. What then is there is handed to the decoder.
-/

namespace ApiClient

/-! ### The mode -/

namespace ParseMode

/-- The mode by which a body is parsed when this one is asked for: itself, or the one that the first
content type gives. Where that gives none, it is JSON. -/
inductive Resolves (headers : Headers) : ParseMode → ParseMode → Prop
  | named {mode : ParseMode} (h : mode ≠ .auto) : Resolves headers mode mode
  | known {value : HeaderValue} {rest : List HeaderValue} {text : String} {type : MediaType}
      {mode : ParseMode} (first : headers.values .contentType = value :: rest)
      (readable : HeaderValue.toText? value = some text) (parse : MediaType.parse? text = some type)
      (h : ofMediaType? type = some mode) : Resolves headers .auto mode
  | missing (h : headers.values .contentType = []) : Resolves headers .auto .json
  | unreadable {value : HeaderValue} {rest : List HeaderValue}
      (first : headers.values .contentType = value :: rest)
      (h : HeaderValue.toText? value = none) : Resolves headers .auto .json
  | unparsable {value : HeaderValue} {rest : List HeaderValue} {text : String}
      (first : headers.values .contentType = value :: rest)
      (readable : HeaderValue.toText? value = some text)
      (h : MediaType.parse? text = none) : Resolves headers .auto .json
  | unknown {value : HeaderValue} {rest : List HeaderValue} {text : String} {type : MediaType}
      (first : headers.values .contentType = value :: rest)
      (readable : HeaderValue.toText? value = some text) (parse : MediaType.parse? text = some type)
      (h : ofMediaType? type = none) : Resolves headers .auto .json

theorem resolve_of_ne_auto {mode : ParseMode} (h : mode ≠ .auto) (headers : Headers) :
    mode.resolve headers = mode := by
  cases mode <;> first | rfl | exact absurd rfl h

theorem resolves_resolve (mode : ParseMode) (headers : Headers) :
    Resolves headers mode (mode.resolve headers) := by
  by_cases hauto : mode = .auto
  case neg =>
    rw [resolve_of_ne_auto hauto]
    exact .named hauto
  case pos =>
    subst hauto
    rw [resolve, Headers.first?]
    cases hvalues : headers.values .contentType with
    | nil => exact .missing hvalues
    | cons value rest =>
        cases htext : HeaderValue.toText? value with
        | none => simpa [htext] using Resolves.unreadable hvalues htext
        | some text =>
            cases htype : MediaType.parse? text with
            | none =>
                simpa [htext, ofContentType?, htype] using Resolves.unparsable hvalues htext htype
            | some type =>
                cases hmode : ofMediaType? type with
                | none =>
                    simpa [htext, ofContentType?, htype, hmode] using
                      Resolves.unknown hvalues htext htype hmode
                | some mode =>
                    simpa [htext, ofContentType?, htype, hmode] using
                      Resolves.known hvalues htext htype hmode

theorem ofMediaType?_ne_auto (type : MediaType) : ofMediaType? type ≠ some .auto := by
  unfold ofMediaType?
  split_ifs <;> simp

/-- What is left open is settled. -/
theorem resolve_ne_auto (mode : ParseMode) (headers : Headers) : mode.resolve headers ≠ .auto := by
  intro h
  have hresolves := resolves_resolve mode headers
  rw [h] at hresolves
  cases hresolves with
  | named hne => exact hne rfl
  | @known _ _ _ type _ _ _ _ hmode => exact ofMediaType?_ne_auto type hmode

theorem Resolves.eq_resolve {headers : Headers} {mode resolved : ParseMode}
    (h : Resolves headers mode resolved) : resolved = mode.resolve headers := by
  cases h with
  | named h => rw [resolve_of_ne_auto h]
  | missing h => simp [resolve, Headers.first?, h]
  | unreadable first h => simp [resolve, Headers.first?, first, h]
  | unparsable first readable h =>
      simp [resolve, Headers.first?, first, readable, ofContentType?, h]
  | known first readable parse h | unknown first readable parse h =>
      simp [resolve, Headers.first?, first, readable, ofContentType?, parse, h]

end ParseMode

/-! ### The body -/

/-- No body is there: the status says so, or the first content length is zero. -/
def HttpResponse.IsEmpty (r : HttpResponse) : Prop :=
  r.status.code = 204 ∨ ∃ rest, r.headers.values .contentLength = utf8 "0" :: rest

theorem HttpResponse.declaresEmpty_eq_true_iff {r : HttpResponse} :
    r.declaresEmpty = true ↔ r.IsEmpty := by
  have hstatus : r.status = .noContent ↔ r.status.code = 204 := by
    cases r.status
    simp [Status.noContent]
  rw [declaresEmpty, IsEmpty, Bool.or_eq_true, decide_eq_true_iff, decide_eq_true_iff, hstatus,
    Headers.first?, List.head?_eq_some_iff]

namespace ResponseBody

/-- What a success is parsed to when this mode is asked for, or why it cannot be. -/
inductive ParsesTo (mode : ParseMode) (r : HttpResponse) :
    Except Json.Parser.ParseError ResponseBody → Prop
  | empty (h : r.IsEmpty) : ParsesTo mode r (.ok .empty)
  | stream (full : ¬r.IsEmpty) (h : ParseMode.Resolves r.headers mode .stream) :
      ParsesTo mode r (.ok (.stream r.body))
  | bytes {resolved : ParseMode} (full : ¬r.IsEmpty)
      (h : ParseMode.Resolves r.headers mode resolved)
      (binary : resolved ∈ [.arrayBuffer, .blob, .formData]) : ParsesTo mode r (.ok (.bytes r.body))
  | text (full : ¬r.IsEmpty) (h : ParseMode.Resolves r.headers mode .text) :
      ParsesTo mode r (.ok (.text (String.ofList (Utf8.decodeLossy r.body))))
  | json {v : Json} (full : ¬r.IsEmpty) (h : ParseMode.Resolves r.headers mode .json)
      (parse : Json.parse r.body = .ok v) : ParsesTo mode r (.ok (.json v))
  | notJson {e : Json.Parser.ParseError} (full : ¬r.IsEmpty)
      (h : ParseMode.Resolves r.headers mode .json) (parse : Json.parse r.body = .error e) :
      ParsesTo mode r (.error e)

variable {mode : ParseMode} {r : HttpResponse}
  {parsed : Except Json.Parser.ParseError ResponseBody}

theorem ParsesTo.parse_eq (h : ParsesTo mode r parsed) :
    parse mode r = parsed.mapError .notJson := by
  have hempty := HttpResponse.declaresEmpty_eq_true_iff (r := r)
  cases h with
  | empty h =>
      rw [parse, if_pos (hempty.mpr h)]
      rfl
  | stream full h | text full h =>
      rw [parse, if_neg (mt hempty.mp full), ← h.eq_resolve]
      rfl
  | bytes full h binary =>
      rw [parse, if_neg (mt hempty.mp full), ← h.eq_resolve]
      simp only [List.mem_cons, List.not_mem_nil, or_false] at binary
      rcases binary with rfl | rfl | rfl <;> rfl
  | json full h hjson | notJson full h hjson =>
      rw [parse, if_neg (mt hempty.mp full), ← h.eq_resolve]
      dsimp only
      rw [hjson]
      rfl

variable (mode r)

theorem exists_parsesTo : ∃ parsed, ParsesTo mode r parsed := by
  by_cases hempty : r.IsEmpty
  case pos => exact ⟨_, .empty hempty⟩
  case neg =>
    have hresolves := ParseMode.resolves_resolve mode r.headers
    have hauto := ParseMode.resolve_ne_auto mode r.headers
    generalize mode.resolve r.headers = resolved at hresolves hauto
    cases resolved with
    | auto => exact absurd rfl hauto
    | stream => exact ⟨_, .stream hempty hresolves⟩
    | text => exact ⟨_, .text hempty hresolves⟩
    | arrayBuffer | blob | formData => exact ⟨_, .bytes hempty hresolves (by decide)⟩
    | json =>
        cases hjson : Json.parse r.body with
        | error e => exact ⟨_, .notJson hempty hresolves hjson⟩
        | ok v => exact ⟨_, .json hempty hresolves hjson⟩

/-- A success is parsed in one way. -/
theorem exists_parsesTo_iff :
    ∃ parsed, (∀ other, ParsesTo mode r other ↔ other = parsed) ∧
      parse mode r = parsed.mapError .notJson := by
  obtain ⟨parsed, hparsed⟩ := exists_parsesTo mode r
  refine ⟨parsed, fun other => ⟨fun hother => ?_, fun h => h ▸ hparsed⟩, hparsed.parse_eq⟩
  have heq := hother.parse_eq.symm.trans hparsed.parse_eq
  cases other <;> cases parsed <;> cases heq <;> rfl

end ResponseBody

/-! ### The transformer -/

/-- What the transformer was called on. -/
def Event.transformed? : Event → Option Json
  | .transformed v => some v
  | _ => none

/-- What the transformer was called on, call by call. -/
def transformerCalls (events : List Event) : List Json := events.filterMap Event.transformed?

theorem transformerCalls_runs {α : Type} (stage : Stage) (r : Registry α) :
    transformerCalls (r.runs stage) = [] := by
  refine List.filterMap_eq_nil_iff.mpr fun event hevent => ?_
  obtain ⟨entry, -, rfl⟩ := List.mem_map.mp hevent
  rfl

/-- Handlers do not call it. -/
theorem transformerCalls_runs_append {α : Type} (stage : Stage) (r : Registry α)
    (events : List Event) :
    transformerCalls (r.runs stage ++ events) = transformerCalls events := by
  rw [transformerCalls, List.filterMap_append, ← transformerCalls, transformerCalls_runs]
  rfl

section

variable {α ε : Type} {data : Decoder α} {error : Decoder ε} {i : Interceptors}
  {dispatch : Dispatch} {request : HttpRequest} {x : Exchange α ε} {events : List Event}

/-- The outcome when this body is handed to the decoder. -/
def decoded (data : Decoder α) (r : HttpResponse) (body : ResponseBody) :
    Except (ResponseError ε) α :=
  (data body).mapError (.undecodable r.status body)

/-- How a success goes on that was parsed to this: its outcome, and what the transformer is called
on. -/
def GoesOn (data : Decoder α) (transformer : Option Transformer) (r : HttpResponse)
    (outcome : Except (ResponseError ε) α) (calls : List Json) :
    Except Json.Parser.ParseError ResponseBody → Prop
  | .error e =>
    outcome = .error (.undecodable r.status (.bytes r.body) (.notJson e)) ∧ calls = []
  | .ok (.json v) =>
    match transformer with
    | none => outcome = decoded data r (.json v) ∧ calls = []
    | some f =>
      calls = [v] ∧
        match f v with
        | .ok v' => outcome = decoded data r (.json v')
        | .error message => outcome = .error (.transform message)
  | .ok body => outcome = decoded data r body ∧ calls = []

theorem ReadsData.goesOn {r : HttpResponse} {outcome : Except (ResponseError ε) α}
    {parsed : Except Json.Parser.ParseError ResponseBody}
    (h : ReadsData data dispatch r outcome events)
    (hparse : ResponseBody.parse dispatch.parseMode r = parsed.mapError .notJson) :
    GoesOn data dispatch.transformer r outcome (transformerCalls events) parsed := by
  cases parsed with
  | error e =>
      cases h with
      | unparsed parse =>
          rw [hparse] at parse
          cases parse
          exact ⟨rfl, rfl⟩
      | untransformed parse | undecoded parse | decoded parse =>
          rw [hparse] at parse
          cases parse
  | ok body =>
      obtain ⟨result, htransforms, rfl⟩ := h.exists_transforms hparse
      cases body with
      | json v =>
          cases htransformer : dispatch.transformer with
          | none =>
              obtain ⟨rfl, rfl⟩ := htransforms.of_skip (.inl htransformer)
              exact ⟨rfl, rfl⟩
          | some f =>
              rw [htransformer] at htransforms
              obtain ⟨rfl, rfl⟩ := htransforms.of_json
              refine ⟨rfl, ?_⟩
              cases f v <;> rfl
      | empty | text | bytes | stream =>
          obtain ⟨rfl, rfl⟩ := htransforms.of_skip (.inr (by simp))
          exact ⟨rfl, rfl⟩

/-- A success is read after everything else, and the transformer is called there at most. -/
theorem Received.goesOn (h : Received data error i dispatch request x events) {r : HttpResponse}
    (hr : x.response = some r) (success : r.status.isSuccess = true) :
    ∃ parsed, (∀ other, ResponseBody.ParsesTo dispatch.parseMode r other ↔ other = parsed) ∧
      GoesOn data dispatch.transformer r x.outcome (transformerCalls events) parsed := by
  obtain ⟨reading, hreads, rfl⟩ := h.exists_readsData hr success
  obtain ⟨parsed, hparsed, hparse⟩ := ResponseBody.exists_parsesTo_iff dispatch.parseMode r
  refine ⟨parsed, hparsed, ?_⟩
  have hcalls : transformerCalls (.sent request.duplicate :: i.response.runs .response ++ reading) =
      transformerCalls reading := transformerCalls_runs_append .response i.response reading
  rw [hcalls]
  exact hreads.goesOn hparse

/-- Without a success the transformer is not called. -/
theorem Received.transformerCalls_eq_nil (h : Received data error i dispatch request x events)
    (hr : ∀ r, x.response = some r → r.status.isSuccess = false) :
    transformerCalls events = [] := by
  cases h with
  | unavailable | unanswered => rfl
  | success _ answer handled status =>
      rw [hr _ rfl] at status
      cases status
  | failure =>
      show transformerCalls (i.response.runs .response ++ i.failure.runs .failure) = []
      rw [transformerCalls_runs_append, transformerCalls_runs]

end

namespace Session

/-- The response of a result is what the handlers of responses left of the answer. If it is a
success, there is one way in which it is parsed, and what it is parsed to goes on to the transformer
and to the decoder: JSON to both, and all else only to the decoder. The transformer is called for
nothing else. -/
theorem request_reads_success {α ε : Type} {data : Decoder α} {error : Decoder ε} {s : Session}
    {id : ClientId} {options : RequestOptions} {defaultTransport : Option Transport}
    {x : Exchange α ε} {events : List Event}
    (h : ((request data error id options defaultTransport).run s).1 = (.ok x, events)) :
    let config := s.config id
    let calls := transformerCalls events
    (x.response = none → calls = []) ∧
      ∀ r, x.response = some r →
        (∃ transport received, config.transportFor options defaultTransport = some transport ∧
          transport x.request.duplicate = .ok received ∧
          (s.client id).interceptors.onResponse x.request received = r) ∧
        (r.status.isSuccess = false → calls = []) ∧
        (r.status.isSuccess = true → ∃ parsed,
          (∀ other, ResponseBody.ParsesTo (config.parseModeFor options) r other ↔
            other = parsed) ∧
          GoesOn data (config.transformerFor options) r x.outcome calls parsed) := by
  intro config calls
  obtain ⟨dispatch, later, hprepare, hjournal, hreceived⟩ := received_of_request_eq h
  obtain ⟨hmode, htransformer⟩ := Config.reading_of_prepare_eq_ok hprepare
  have hcalls : calls = transformerCalls later := by
    show transformerCalls events = _
    rw [hjournal, transformerCalls_runs_append]
  rw [hcalls, ← hmode, ← htransformer]
  refine ⟨fun hnone => hreceived.transformerCalls_eq_nil (by simp [hnone]), fun r hr => ?_⟩
  refine ⟨?_, fun failure => ?_, hreceived.goesOn hr⟩
  · rw [hreceived.request_eq, ← Config.transport_of_prepare_eq_ok hprepare]
    exact hreceived.exists_of_response_eq_some hr
  · refine hreceived.transformerCalls_eq_nil fun r' hr' => ?_
    rw [Option.some.inj (hr'.symm.trans hr)]
    exact failure

/-- A request for a number that a transformer puts into an object. The server names two media types,
and the first one is JSON by its suffix. -/
def wrapping : RequestOptions :=
  { url := "/", method := some .get,
    transformer := some fun v => .ok (.object [("data", v)]),
    transport := some fun _ => .ok {
      status := .ok, body := utf8 "7",
      headers := (Headers.empty.append .contentType (utf8 "image/svg+json")).append .contentType
        (utf8 "text/plain") } }

theorem request_reads_success_wrapping :
    ∃ (x : Exchange Json Json) (events : List Event),
      ((request Schema.value.decode Schema.value.decode defaultClient wrapping).run {}).1 =
        (.ok x, events) ∧
      transformerCalls events = [.ofInt 7] ∧
      x.outcome = .ok (.object [("data", .ofInt 7)]) := by
  have hrequest : ((request Schema.value.decode Schema.value.decode defaultClient wrapping).run
      {}).1 = ((.ok _, _) : Except ClientError (Exchange Json Json) × List Event) := rfl
  obtain ⟨-, hresponse⟩ := request_reads_success hrequest
  obtain ⟨-, -, hsuccess⟩ := hresponse _ rfl
  obtain ⟨parsed, hparsed, hgoesOn⟩ := hsuccess rfl
  have hjson := (hparsed (.ok (.json (.ofInt 7)))).mp
    (.json (mt HttpResponse.declaresEmpty_eq_true_iff.mpr Bool.false_ne_true)
      (.known rfl rfl rfl rfl) rfl)
  subst hjson
  exact ⟨_, _, hrequest, hgoesOn⟩

end Session

end ApiClient
