import ApiClient.Client.Session

/-!
How exchanges go. Handlers are folded over what they are run for, in the order in which they were
registered. A request goes to its transport at most once, and what comes back is read as a success
or as a failure. `Received` lists the ways that are possible, each with the exchange it comes to and
with what is run for it.
-/

namespace ApiClient

open Journaled

/-- What comes next starts from the journal that is left to it. -/
theorem run_bind_of_eq {α β : Type} {first : Journaled α} {next : α → Journaled β}
    {journal journal' : List Event} {a : α} (h : first.run journal = (a, journal')) :
    (first >>= next).run journal = (next a).run journal' := by
  rw [StateT.run_bind, h]
  rfl

/-! ### Handlers -/

namespace Interceptors

/-- The request after its handlers. -/
def onRequest (i : Interceptors) (request : HttpRequest) : HttpRequest :=
  i.request.handlers.foldl (fun request entry => entry.2 request) request

/-- The response after its handlers. -/
def onResponse (i : Interceptors) (request : HttpRequest) (response : HttpResponse) :
    HttpResponse :=
  i.response.handlers.foldl (fun response entry => entry.2 response request) response

/-- The body of a failure after its handlers. -/
def onFailure (i : Interceptors) (request : HttpRequest) (response : HttpResponse)
    (body : ResponseBody) : ResponseBody :=
  i.failure.handlers.foldl (fun body entry => entry.2 body response request) body

end Interceptors

/-- What is noted when the handlers of a registry are run. -/
def Registry.runs {α : Type} (stage : Stage) (r : Registry α) : List Event :=
  r.handlers.map fun entry => .handled stage entry.1

theorem run_runHandlers {α β : Type} (stage : Stage) (run : β → α → α)
    (handlers : List (HandlerId × β)) (a : α) (journal : List Event) :
    (runHandlers stage run handlers a).run journal =
      (handlers.foldl (fun a entry => run entry.2 a) a,
        journal ++ handlers.map fun entry => .handled stage entry.1) := by
  induction handlers generalizing a journal with
  | nil =>
      rw [List.map_nil, List.append_nil]
      rfl
  | cons entry rest ih =>
      obtain ⟨id, handler⟩ := entry
      show (runHandlers stage run rest (run handler a)).run (journal ++ [.handled stage id]) = _
      rw [ih, List.append_assoc]
      rfl

/-! ### Successes -/

/-- What a transformer makes of a parsed body: it is run on JSON and on nothing else. -/
inductive Transforms (transformer : Option Transformer) :
    ResponseBody → Except String ResponseBody → List Event → Prop
  | run {f : Transformer} (v : Json) (h : transformer = some f) :
      Transforms transformer (.json v) ((f v).map .json) [.transformed v]
  | skip {body : ResponseBody} (h : transformer = none ∨ ∀ v, body ≠ .json v) :
      Transforms transformer body (.ok body) []

theorem Transforms.eq_transformed {transformer : Option Transformer} {body : ResponseBody}
    {result : Except String ResponseBody} {events : List Event}
    (h : Transforms transformer body result events) :
    ∀ event ∈ events, ∃ v, event = .transformed v := by
  cases h with
  | run v => simp
  | skip => simp

/-- A transformer is run once on JSON. -/
theorem Transforms.of_json {f : Transformer} {v : Json} {result : Except String ResponseBody}
    {events : List Event} (h : Transforms (some f) (.json v) result events) :
    result = (f v).map .json ∧ events = [.transformed v] := by
  cases h with
  | run _ hf =>
      cases hf
      exact ⟨rfl, rfl⟩
  | skip hskip => simp at hskip

theorem Transforms.of_skip {transformer : Option Transformer} {body : ResponseBody}
    {result : Except String ResponseBody} {events : List Event}
    (h : Transforms transformer body result events)
    (hskip : transformer = none ∨ ∀ v, body ≠ .json v) : result = .ok body ∧ events = [] := by
  cases h with
  | run v hf => simp [hf] at hskip
  | skip => exact ⟨rfl, rfl⟩

theorem run_transform (transformer : Option Transformer) (body : ResponseBody)
    (journal : List Event) :
    ∃ result events, (body.transform transformer).run journal = (result, journal ++ events) ∧
      Transforms transformer body result events := by
  cases body with
  | json v =>
      cases transformer with
      | none => exact ⟨_, [], by rw [List.append_nil]; rfl, .skip (.inl rfl)⟩
      | some f => exact ⟨_, _, rfl, .run v rfl⟩
  | empty | text | bytes | stream =>
      exact ⟨_, [], by rw [List.append_nil]; rfl, .skip (.inr (by simp))⟩

section

variable {α ε : Type}

/-- How a success is read. -/
inductive ReadsData (decode : Decoder α) (dispatch : Dispatch) (response : HttpResponse) :
    Except (ResponseError ε) α → List Event → Prop
  | unparsed {source : DecodeError}
      (parse : ResponseBody.parse dispatch.parseMode response = .error source) :
      ReadsData decode dispatch response
        (.error (.undecodable response.status (.bytes response.body) source)) []
  | untransformed {parsed : ResponseBody} {message : String} {events : List Event}
      (parse : ResponseBody.parse dispatch.parseMode response = .ok parsed)
      (transform : Transforms dispatch.transformer parsed (.error message) events) :
      ReadsData decode dispatch response (.error (.transform message)) events
  | undecoded {parsed body : ResponseBody} {source : DecodeError} {events : List Event}
      (parse : ResponseBody.parse dispatch.parseMode response = .ok parsed)
      (transform : Transforms dispatch.transformer parsed (.ok body) events)
      (decoding : decode body = .error source) :
      ReadsData decode dispatch response (.error (.undecodable response.status body source)) events
  | decoded {parsed body : ResponseBody} {data : α} {events : List Event}
      (parse : ResponseBody.parse dispatch.parseMode response = .ok parsed)
      (transform : Transforms dispatch.transformer parsed (.ok body) events)
      (decoding : decode body = .ok data) :
      ReadsData decode dispatch response (.ok data) events

/-- Nothing but the transformer is run to read a success. -/
theorem ReadsData.eq_transformed {decode : Decoder α} {dispatch : Dispatch}
    {response : HttpResponse} {outcome : Except (ResponseError ε) α} {events : List Event}
    (h : ReadsData decode dispatch response outcome events) :
    ∀ event ∈ events, ∃ v, event = .transformed v := by
  cases h with
  | unparsed => simp
  | untransformed _ transform | undecoded _ transform | decoded _ transform =>
      exact transform.eq_transformed

/-- What was parsed goes through the transformer, and what comes of that to the decoder. -/
theorem ReadsData.exists_transforms {decode : Decoder α} {dispatch : Dispatch}
    {response : HttpResponse} {outcome : Except (ResponseError ε) α} {events : List Event}
    {parsed : ResponseBody} (h : ReadsData decode dispatch response outcome events)
    (hparse : ResponseBody.parse dispatch.parseMode response = .ok parsed) :
    ∃ result, Transforms dispatch.transformer parsed result events ∧
      outcome =
        match result with
        | .error message => .error (.transform message)
        | .ok body => (decode body).mapError (.undecodable response.status body) := by
  cases h with
  | unparsed parse =>
      rw [hparse] at parse
      cases parse
  | untransformed parse transform =>
      obtain rfl := Except.ok.inj (hparse.symm.trans parse)
      exact ⟨_, transform, rfl⟩
  | undecoded parse transform decoding | decoded parse transform decoding =>
      obtain rfl := Except.ok.inj (hparse.symm.trans parse)
      refine ⟨_, transform, ?_⟩
      dsimp only
      rw [decoding]
      rfl

theorem run_readData (decode : Decoder α) (dispatch : Dispatch) (response : HttpResponse)
    (journal : List Event) :
    ∃ (outcome : Except (ResponseError ε) α) (events : List Event),
      (readData decode dispatch response).run journal = (outcome, journal ++ events) ∧
        ReadsData decode dispatch response outcome events := by
  cases hparse : ResponseBody.parse dispatch.parseMode response with
  | error source =>
      refine ⟨_, [], ?_, .unparsed hparse⟩
      rw [readData, hparse, List.append_nil]
      rfl
  | ok parsed =>
      obtain ⟨result, events, hrun, htransform⟩ :=
        run_transform dispatch.transformer parsed journal
      cases result with
      | error message =>
          refine ⟨_, events, ?_, .untransformed hparse htransform⟩
          rw [readData, hparse]
          exact run_bind_of_eq hrun
      | ok body =>
          cases hdecode : decode body with
          | error source =>
              refine ⟨_, events, ?_, .undecoded hparse htransform hdecode⟩
              rw [readData, hparse]
              refine (run_bind_of_eq hrun).trans ?_
              simp only [hdecode]
              rfl
          | ok data =>
              refine ⟨_, events, ?_, .decoded hparse htransform hdecode⟩
              rw [readData, hparse]
              refine (run_bind_of_eq hrun).trans ?_
              simp only [hdecode]
              rfl

/-! ### Failures -/

/-- The error that a failure comes to when this is its body after the handlers. -/
def failureError (decode : Decoder ε) (response : HttpResponse) (body : ResponseBody) :
    ResponseError ε :=
  match decode body with
  | .ok error => .api response.status error
  | .error source => .undecodable response.status body source

theorem run_readFailure (decode : Decoder ε) (i : Interceptors) (response : HttpResponse)
    (request : HttpRequest) (journal : List Event) :
    (readFailure decode i response request).run journal =
      (failureError decode response (i.onFailure request response (.ofFailure response)),
        journal ++ i.failure.runs .failure) := by
  have hrun := run_runHandlers .failure (fun run body => run body response request)
    i.failure.handlers (.ofFailure response) journal
  rw [readFailure, run_bind_of_eq hrun, Interceptors.onFailure]
  generalize i.failure.handlers.foldl _ _ = body
  rw [failureError]
  cases decode body <;> rfl

/-! ### Exchanges -/

/-- How it goes on once the handlers of the request have run. -/
inductive Received (data : Decoder α) (error : Decoder ε) (i : Interceptors) (dispatch : Dispatch)
    (request : HttpRequest) : Exchange α ε → List Event → Prop
  | unavailable (h : dispatch.transport = none) :
      Received data error i dispatch request ⟨.error (.transport .unavailable), request, none⟩ []
  | unanswered {transport : Transport} {e : TransportError}
      (h : dispatch.transport = some transport) (answer : transport request.duplicate = .error e) :
      Received data error i dispatch request ⟨.error (.transport e), request, none⟩
        [.sent request.duplicate]
  | success {transport : Transport} {received response : HttpResponse}
      {outcome : Except (ResponseError ε) α} {events : List Event}
      (h : dispatch.transport = some transport)
      (answer : transport request.duplicate = .ok received)
      (handled : i.onResponse request received = response)
      (status : response.status.isSuccess = true)
      (reading : ReadsData data dispatch response outcome events) :
      Received data error i dispatch request ⟨outcome, request, some response⟩
        (.sent request.duplicate :: i.response.runs .response ++ events)
  | failure {transport : Transport} {received response : HttpResponse}
      (h : dispatch.transport = some transport)
      (answer : transport request.duplicate = .ok received)
      (handled : i.onResponse request received = response)
      (status : response.status.isSuccess = false) :
      Received data error i dispatch request
        ⟨.error (failureError error response (i.onFailure request response (.ofFailure response))),
          request, some response⟩
        (.sent request.duplicate :: i.response.runs .response ++ i.failure.runs .failure)

theorem run_send {transport : Transport} {request : HttpRequest}
    {answer : Except TransportError HttpResponse} (h : transport request = answer)
    (journal : List Event) :
    (Journaled.send transport request).run journal = (answer, journal ++ [.sent request]) := by
  subst h
  rfl

/-- A response goes through its handlers before it is read. -/
theorem run_receive_of_answer (data : Decoder α) (error : Decoder ε) (i : Interceptors)
    {dispatch : Dispatch} {request : HttpRequest} {transport : Transport}
    {received response : HttpResponse} (h : dispatch.transport = some transport)
    (answer : transport request.duplicate = .ok received)
    (handled : i.onResponse request received = response) (journal : List Event) :
    (receive data error i dispatch request).run journal =
      (if response.status.isSuccess then do
        return ⟨← readData data dispatch response, request, some response⟩
      else do
        return ⟨.error (← readFailure error i response request), request, some response⟩ :
          Journaled (Exchange α ε)).run
        (journal ++ [.sent request.duplicate] ++ i.response.runs .response) := by
  have hhandlers := run_runHandlers .response (fun run response => run response request)
    i.response.handlers received (journal ++ [.sent request.duplicate])
  subst handled
  rw [receive, h]
  exact (run_bind_of_eq (run_send answer journal)).trans (run_bind_of_eq hhandlers)

theorem run_receive (data : Decoder α) (error : Decoder ε) (i : Interceptors) (dispatch : Dispatch)
    (request : HttpRequest) (journal : List Event) :
    ∃ x events, (receive data error i dispatch request).run journal = (x, journal ++ events) ∧
      Received data error i dispatch request x events := by
  cases htransport : dispatch.transport with
  | none =>
      refine ⟨_, [], ?_, .unavailable htransport⟩
      rw [receive, htransport, List.append_nil]
      rfl
  | some transport =>
      cases hanswer : transport request.duplicate with
      | error e =>
          refine ⟨_, _, ?_, .unanswered htransport hanswer⟩
          rw [receive, htransport]
          exact run_bind_of_eq (run_send hanswer journal)
      | ok received =>
          obtain ⟨response, hresponse⟩ : ∃ response, i.onResponse request received = response :=
            ⟨_, rfl⟩
          rw [run_receive_of_answer data error i htransport hanswer hresponse]
          cases hstatus : response.status.isSuccess with
          | true =>
              obtain ⟨outcome, events, hread, hreads⟩ := run_readData (ε := ε) data dispatch
                response (journal ++ [.sent request.duplicate] ++ i.response.runs .response)
              refine ⟨_, _, ?_, .success htransport hanswer hresponse hstatus hreads⟩
              rw [if_pos rfl, run_bind_of_eq hread, List.append_assoc, List.append_assoc]
              rfl
          | false =>
              refine ⟨_, _, ?_, .failure htransport hanswer hresponse hstatus⟩
              rw [if_neg Bool.false_ne_true, run_bind_of_eq (run_readFailure ..),
                List.append_assoc, List.append_assoc]
              rfl

variable {defaultTransport : Option Transport}

/-- A request that cannot be built runs nothing. -/
theorem run_exchange_of_error (data : Decoder α) (error : Decoder ε) {config : Config}
    (i : Interceptors) {options : RequestOptions} {e : ClientError}
    (h : config.prepare options defaultTransport = .error e) (journal : List Event) :
    (exchange data error config i options defaultTransport).run journal = (.error e, journal) := by
  rw [exchange, h]
  rfl

/-- A request that is built runs its handlers before all else. -/
theorem run_exchange_of_ok (data : Decoder α) (error : Decoder ε) {config : Config}
    (i : Interceptors) {options : RequestOptions} {dispatch : Dispatch}
    (h : config.prepare options defaultTransport = .ok dispatch) (journal : List Event) :
    ∃ x events, (exchange data error config i options defaultTransport).run journal =
        (.ok x, journal ++ i.request.runs .request ++ events) ∧
      Received data error i dispatch (i.onRequest dispatch.request) x events := by
  have hhandlers := run_runHandlers .request (fun run request => run request) i.request.handlers
    dispatch.request journal
  obtain ⟨x, events, hreceive, hreceived⟩ := run_receive data error i dispatch
    (i.onRequest dispatch.request) (journal ++ i.request.runs .request)
  refine ⟨x, events, ?_, hreceived⟩
  rw [exchange, h]
  exact (run_bind_of_eq hhandlers).trans (run_bind_of_eq hreceive)

namespace Session

theorem run_request_of_error (data : Decoder α) (error : Decoder ε) {s : Session} {id : ClientId}
    {options : RequestOptions} {e : ClientError}
    (h : (s.config id).prepare options defaultTransport = .error e) :
    (request data error id options defaultTransport).run s = ((.error e, []), s) :=
  congrArg (fun result => (result, s)) (run_exchange_of_error data error _ h [])

theorem run_request_of_ok (data : Decoder α) (error : Decoder ε) {s : Session} {id : ClientId}
    {options : RequestOptions} {dispatch : Dispatch}
    (h : (s.config id).prepare options defaultTransport = .ok dispatch) :
    let i := (s.client id).interceptors
    ∃ x events, (request data error id options defaultTransport).run s =
        ((.ok x, i.request.runs .request ++ events), s) ∧
      Received data error i dispatch (i.onRequest dispatch.request) x events := by
  intro i
  obtain ⟨x, events, hrun, hreceived⟩ := run_exchange_of_ok data error i h []
  exact ⟨x, events, congrArg (fun result => (result, s)) hrun, hreceived⟩

/-- A request that has a result was prepared. What is run for it are its handlers and then what its
receipt takes. -/
theorem received_of_request_eq {data : Decoder α} {error : Decoder ε} {s : Session} {id : ClientId}
    {options : RequestOptions} {x : Exchange α ε} {journal : List Event}
    (h : ((request data error id options defaultTransport).run s).1 = (.ok x, journal)) :
    let i := (s.client id).interceptors
    ∃ dispatch events, (s.config id).prepare options defaultTransport = .ok dispatch ∧
      journal = i.request.runs .request ++ events ∧
      Received data error i dispatch (i.onRequest dispatch.request) x events := by
  cases hprepare : (s.config id).prepare options defaultTransport with
  | error e =>
      rw [run_request_of_error data error hprepare] at h
      cases h
  | ok dispatch =>
      obtain ⟨x', events, hrun, hreceived⟩ := run_request_of_ok data error hprepare
      rw [hrun] at h
      obtain ⟨hx, rfl⟩ := Prod.mk.inj h
      obtain rfl := Except.ok.inj hx
      exact ⟨dispatch, events, rfl, rfl, hreceived⟩

/-- A request that has a result was prepared, and its result is one that can be received. -/
theorem received_of_request_eq_ok {data : Decoder α} {error : Decoder ε} {s : Session}
    {id : ClientId} {options : RequestOptions} {x : Exchange α ε}
    (h : ((request data error id options defaultTransport).run s).1.1 = .ok x) :
    let i := (s.client id).interceptors
    ∃ dispatch events, (s.config id).prepare options defaultTransport = .ok dispatch ∧
      Received data error i dispatch (i.onRequest dispatch.request) x events := by
  obtain ⟨dispatch, events, hprepare, -, hreceived⟩ := received_of_request_eq (Prod.ext h rfl)
  exact ⟨dispatch, events, hprepare, hreceived⟩

end Session

end

end ApiClient
