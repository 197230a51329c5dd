import ApiClient.Proofs.Client.Dispatch
import ApiClient.Proofs.Client.HandlerHistory

/-!
Which handlers are there after a run, and which of them a request runs: those that were registered
on its client and not taken away since, in the order in which they came. Handlers of failures are
run only for responses that are failures once the handlers of responses have run.
-/

namespace ApiClient

/-- The handler that was run. -/
def Event.handled? : Event → Option (Stage × HandlerId)
  | .handled stage id => some (stage, id)
  | _ => none

/-- The handlers that were run, in order. -/
def handled (events : List Event) : List (Stage × HandlerId) := events.filterMap Event.handled?

theorem handled_append (first rest : List Event) :
    handled (first ++ rest) = handled first ++ handled rest :=
  List.filterMap_append

theorem handled_runs {α : Type} (stage : Stage) (r : Registry α) :
    handled (r.runs stage) = r.handlers.map fun entry => (stage, entry.1) := by
  rw [handled, Registry.runs, List.filterMap_map]
  exact congrFun List.filterMap_eq_map r.handlers

theorem handled_eq_nil {events : List Event} (h : ∀ event ∈ events, ∃ v, event = .transformed v) :
    handled events = [] := by
  refine List.filterMap_eq_nil_iff.mpr fun event hevent => ?_
  obtain ⟨v, rfl⟩ := h event hevent
  rfl

section

variable {α ε : Type} {data : Decoder α} {error : Decoder ε} {i : Interceptors}
  {dispatch : Dispatch} {request : HttpRequest} {x : Exchange α ε} {events : List Event}

namespace Received

/-- Without a response no handler is run, and with a success none of failures. -/
theorem handled_eq (h : Received data error i dispatch request x events) :
    handled events = match x.response with
      | none => []
      | some response => handled (i.response.runs .response) ++
          if response.status.isSuccess then [] else handled (i.failure.runs .failure) := by
  cases h with
  | unavailable | unanswered => rfl
  | success h answer handled status reading =>
      simp only [status, if_true]
      show ApiClient.handled (i.response.runs .response ++ _) = _
      rw [handled_append, handled_eq_nil reading.eq_transformed]
  | failure h answer handled status =>
      simp only [status, Bool.false_eq_true, if_false]
      exact handled_append _ _

/-- A failure comes to what the decoder makes of its body after the handlers. -/
theorem outcome_of_failure (h : Received data error i dispatch request x events)
    {response : HttpResponse} (hresponse : x.response = some response)
    (hstatus : response.status.isSuccess = false) :
    x.outcome = .error (failureError error response
      (i.onFailure x.request response (.ofFailure response))) := by
  cases h with
  | unavailable | unanswered => cases hresponse
  | success h answer handled status reading =>
      cases hresponse
      rw [hstatus] at status
      cases status
  | failure =>
      cases hresponse
      rfl

end Received

end

namespace Session

/-- An eject only touches the registry that it is about. -/
theorem registry_eject {s : Session} {id : ClientId} (h : id < s.clients.length) (stage : Stage)
    (number : HandlerId) (j : ClientId) (other : Stage) :
    ((eject id stage number).run s).2.registry j other =
      if id = j ∧ stage = other then (s.registry j other).eject number
      else s.registry j other := by
  have hupdate : (((eject id stage number).run s).2.client j).interceptors = _ :=
    interceptors_updateInterceptors h (·.eject stage number) j
  rw [registry, hupdate, ite_and]
  split
  case isTrue => exact Interceptors.registry_eject _ stage other number
  case isFalse => rfl

/-- An eject answers whether the handler was there. -/
theorem answer_eject {s : Session} {id : ClientId} (h : id < s.clients.length) (stage : Stage)
    (number : HandlerId) :
    ((eject id stage number).run s).1 = (s.registry id stage).contains number := by
  have hanswer : ((eject id stage number).run s).1 = decide
      ((((eject id stage number).run s).2.client id).interceptors.size stage ≠
        (s.client id).interceptors.size stage) := rfl
  have hregistry := registry_eject h stage number id stage
  rw [if_pos ⟨rfl, rfl⟩, registry] at hregistry
  rw [hanswer, Interceptors.size_eq, Interceptors.size_eq, hregistry, Bool.eq_iff_iff,
    decide_eq_true_iff]
  exact Registry.size_eject_ne_iff

/-- A registry of a client is what its history says. No number was given twice, a number stands for
a handler while that is live, and an eject takes away the handler that it is about, if it is there,
and nothing else. -/
structure Tracks (s : Session) (id : ClientId) (stage : Stage)
    (changes : List (Registry.Change stage.Run)) : Prop where
  nodup : (Registry.given changes).Nodup
  handlers : (s.registry id stage).handlers = Registry.live changes
  size : (s.client id).interceptors.size stage = (Registry.live changes).length
  contains : ∀ number,
    (s.client id).interceptors.contains stage number = true ↔ Registry.IsLive number changes
  answer : ∀ number,
    ((eject id stage number).run s).1 = (s.client id).interceptors.contains stage number
  eject_live : ∀ (before after : List (HandlerId × stage.Run)) number run,
    Registry.live changes = before ++ (number, run) :: after →
      (((eject id stage number).run s).2.registry id stage).handlers = before ++ after
  eject_absent : ∀ number, (s.client id).interceptors.contains stage number = false →
    ((eject id stage number).run s).2.registry id stage = s.registry id stage
  eject_other : ∀ number j other, ¬(id = j ∧ stage = other) →
    ((eject id stage number).run s).2.registry j other = s.registry j other

theorem tracks_run (commands : List Command) {id : ClientId} {stage : Stage}
    (hid : id < (({} : Session).run commands).clients.length)
    (hlength : (Registry.given (history id stage commands)).length < UInt64.size) :
    (({} : Session).run commands).Tracks id stage (history id stage commands) := by
  have hfollows := follows_run commands hlength
  generalize ({} : Session).run commands = s at hid hfollows
  refine ⟨hfollows.nodup, hfollows.handlers, ?_, fun number => ?_, fun number => ?_, ?_, ?_, ?_⟩
  · rw [Interceptors.size_eq]
    exact congrArg List.length hfollows.handlers
  · rw [Interceptors.contains_eq]
    exact hfollows.contains_iff
  · rw [Interceptors.contains_eq]
    exact answer_eject hid stage number
  · intro before after number run hlive
    rw [registry_eject hid, if_pos ⟨rfl, rfl⟩]
    exact hfollows.handlers_eject hlive
  · intro number habsent
    rw [Interceptors.contains_eq] at habsent
    rw [registry_eject hid, if_pos ⟨rfl, rfl⟩]
    exact Registry.eject_of_contains_eq_false habsent
  · intro number j other hother
    rw [registry_eject hid, if_neg hother]

end Session

section

variable {α ε : Type}

/-- What a request goes through where these handlers are live. -/
structure Folds (error : Decoder ε) (dispatch : Dispatch)
    (live : (stage : Stage) → List (HandlerId × stage.Run)) (x : Exchange α ε)
    (journal : List Event) : Prop where
  request : x.request =
    (live .request).foldl (fun request entry => entry.2 request) dispatch.request
  response : ∀ transport, dispatch.transport = some transport →
    .sent x.request.duplicate ∈ journal ∧
    x.response = (transport x.request.duplicate).toOption.map fun received =>
      (live .response).foldl (fun response entry => entry.2 response x.request) received
  failure : ∀ response, x.response = some response → response.status.isSuccess = false →
    x.outcome = .error (failureError error response ((live .failure).foldl
      (fun body entry => entry.2 body response x.request) (.ofFailure response)))
  handled : handled journal = ((live .request).map fun entry => (Stage.request, entry.1)) ++
    match x.response with
    | none => []
    | some response => ((live .response).map fun entry => (Stage.response, entry.1)) ++
        if response.status.isSuccess then []
        else (live .failure).map fun entry => (Stage.failure, entry.1)

theorem Received.folds {data : Decoder α} {error : Decoder ε} {i : Interceptors}
    {dispatch : Dispatch} {x : Exchange α ε} {events : List Event}
    (h : Received data error i dispatch (i.onRequest dispatch.request) x events) :
    Folds error dispatch (fun stage => (i.registry stage).handlers) x
      (i.request.runs .request ++ events) := by
  refine ⟨h.request_eq, ?_, fun response => h.outcome_of_failure, ?_⟩
  · intro transport htransport
    obtain ⟨later, rfl, -, hresponse⟩ := h.of_transport_eq_some htransport
    rw [h.request_eq]
    exact ⟨by simp, hresponse⟩
  · rw [handled_append, h.handled_eq, handled_runs, handled_runs, handled_runs]
    rfl

end

namespace Session

/-- Handlers over whole runs, as long as no registry has 2^64 registrations. All registries are what
their histories say. A request that is built goes through the handlers of requests that are live, in
the order in which they came, its response through those of responses, and the body of what is a
failure then through those of failures. -/
theorem run_keeps_handlers (commands : List Command) {id : ClientId}
    (hid : id < (({} : Session).run commands).clients.length)
    (hlength : ∀ stage, (Registry.given (history id stage commands)).length < UInt64.size) :
    let s := ({} : Session).run commands
    (∀ stage, s.Tracks id stage (history id stage commands)) ∧
    ∀ {α ε : Type} (data : Decoder α) (error : Decoder ε) (options : RequestOptions)
      (defaultTransport : Option Transport) (dispatch : Dispatch),
      (s.config id).prepare options defaultTransport = .ok dispatch →
      ∃ x journal,
        (request data error id options defaultTransport).run s = ((.ok x, journal), s) ∧
        Folds error dispatch (fun stage => Registry.live (history id stage commands)) x
          journal := by
  intro s
  have htracks (stage : Stage) : s.Tracks id stage (history id stage commands) :=
    tracks_run commands hid (hlength stage)
  refine ⟨htracks, ?_⟩
  intro α ε data error options defaultTransport dispatch hprepare
  obtain ⟨x, events, hrun, hreceived⟩ := run_request_of_ok data error hprepare
  -- the handlers that are there are the live ones, at every stage
  have hlive : (fun stage => Registry.live (history id stage commands)) =
      fun stage => (s.registry id stage).handlers :=
    funext fun stage => (htracks stage).handlers.symm
  rw [hlive]
  exact ⟨x, _, hrun, hreceived.folds⟩

/-- Sends nothing along. -/
def dropBody : RequestHandler := fun request => { request with body := [] }

/-- A request to a server that fails. -/
def failing : RequestOptions :=
  { url := "/", method := some .post, body := some (.raw [0]),
    transport := some fun _ => .ok { status := ⟨500⟩, headers := .empty, body := [] } }

/-- The same handler twice, and the first of the two is taken away. -/
def dropTwice : List Command :=
  [.register "global" (.request dropBody), .register "global" (.request dropBody),
    .eject "global" .request ⟨0⟩]

theorem run_keeps_handlers_dropTwice :
    let s := ({} : Session).run dropTwice
    (s.registry defaultClient .request).handlers = [(⟨1⟩, dropBody)] ∧
      ((eject defaultClient .request ⟨0⟩).run s).1 = false ∧
      ∃ x journal, (request Schema.value.decode Schema.value.decode defaultClient failing).run s =
          ((.ok (x : Exchange Json Json), journal), s) ∧
        x.request.body = [] ∧ handled journal = [(.request, ⟨1⟩)] := by
  intro s
  have hlength : ∀ stage,
      (Registry.given (history defaultClient stage dropTwice)).length < UInt64.size := by
    intro stage
    cases stage <;> decide
  obtain ⟨htracks, hrequest⟩ :=
    run_keeps_handlers dropTwice (by decide : defaultClient < s.clients.length) hlength
  obtain ⟨x, journal, hrun, hfolds⟩ :=
    hrequest Schema.value.decode Schema.value.decode failing none _ rfl
  refine ⟨(htracks .request).handlers, (htracks .request).answer ⟨0⟩, x, journal, hrun, ?_, ?_⟩
  · rw [hfolds.request]
    rfl
  · rw [hfolds.handled, (hfolds.response _ rfl).2]
    rfl

end Session

end ApiClient
