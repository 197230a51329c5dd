import ApiClient.Proofs.Client.Exchange
import ApiClient.Proofs.Client.Prepare

/-!
What goes out. A request that is refused runs nothing. Any other one runs the handlers of requests
and is then sent once, or not at all where there is no transport, neither its own nor one of the
build. What is run after that only reads the response.
-/

namespace ApiClient

/-- What may be run once a request is out. -/
def Event.isLate : Event → Bool
  | .handled stage _ => stage ≠ .request
  | .sent _ => false
  | .transformed _ => true

theorem isLate_of_mem_runs {α : Type} {stage : Stage} (h : stage ≠ .request) (r : Registry α) :
    ∀ event ∈ r.runs stage, event.isLate = true := by
  intro event hevent
  obtain ⟨entry, -, rfl⟩ := List.mem_map.mp hevent
  exact decide_eq_true h

section

variable {α ε : Type} {data : Decoder α} {error : Decoder ε} {i : Interceptors}
  {dispatch : Dispatch} {request : HttpRequest} {x : Exchange α ε} {events : List Event}

namespace Received

theorem request_eq (h : Received data error i dispatch request x events) : x.request = request := by
  cases h <;> rfl

/-- Without a transport nothing is sent. -/
theorem of_transport_eq_none (h : Received data error i dispatch request x events)
    (hnone : dispatch.transport = none) :
    x.outcome = .error (.transport .unavailable) ∧ x.response = none ∧ events = [] := by
  cases h with
  | unavailable => exact ⟨rfl, rfl, rfl⟩
  | unanswered h | success h | failure h =>
      rw [hnone] at h
      cases h

/-- A transport gets one copy of the request, and the response is what it answers after the handlers
of responses. -/
theorem of_transport_eq_some {transport : Transport}
    (h : Received data error i dispatch request x events)
    (hsome : dispatch.transport = some transport) :
    ∃ later, events = .sent request.duplicate :: later ∧
      (∀ event ∈ later, event.isLate = true) ∧
      x.response = (transport request.duplicate).toOption.map (i.onResponse request) := by
  have hresponse := isLate_of_mem_runs (by decide : Stage.response ≠ .request) i.response
  have hfailure := isLate_of_mem_runs (by decide : Stage.failure ≠ .request) i.failure
  cases h with
  | unavailable h =>
      rw [hsome] at h
      cases h
  | unanswered h answer =>
      cases hsome.symm.trans h
      exact ⟨[], rfl, by simp, by rw [answer]; rfl⟩
  | success h answer handled status reading =>
      cases hsome.symm.trans h
      refine ⟨_, rfl, ?_, by rw [answer, ← handled]; rfl⟩
      intro event hevent
      rcases List.mem_append.mp hevent with hrun | hread
      · exact hresponse event hrun
      · obtain ⟨v, rfl⟩ := reading.eq_transformed event hread
        rfl
  | failure h answer handled status =>
      cases hsome.symm.trans h
      refine ⟨_, rfl, ?_, by rw [answer, ← handled]; rfl⟩
      intro event hevent
      exact (List.mem_append.mp hevent).elim (hresponse event) (hfailure event)

/-- Whatever is sent is a copy of the request. -/
theorem eq_duplicate_of_sent (h : Received data error i dispatch request x events)
    {sent : HttpRequest} (hsent : .sent sent ∈ events) : sent = request.duplicate := by
  cases htransport : dispatch.transport with
  | none =>
      rw [(h.of_transport_eq_none htransport).2.2] at hsent
      cases hsent
  | some transport =>
      obtain ⟨later, rfl, hlate, -⟩ := h.of_transport_eq_some htransport
      rcases List.mem_cons.mp hsent with hfirst | hlater
      · exact Event.sent.inj hfirst
      · cases hlate _ hlater

end Received

theorem not_mem_runs {β : Type} (stage : Stage) (r : Registry β) (sent : HttpRequest) :
    .sent sent ∉ r.runs stage := by
  intro hsent
  obtain ⟨entry, -, heq⟩ := List.mem_map.mp hsent
  cases heq

end

namespace Session

/-- A request is refused for the first of its faults, in the order of the checks, and then nothing
is run. A request that is not refused runs all handlers of requests. Where there is a transport, in
the options, in the settings or else in the build, it is called once after that, with a copy of the
request that the result shows, and before all handlers of responses and failures. In a build without
one, a request without one of its own has no response, and says so. -/
theorem request_refused_or_sent_once {α ε : Type} (data : Decoder α) (error : Decoder ε)
    (s : Session) (id : ClientId) (options : RequestOptions)
    (defaultTransport : Option Transport) :
    let config := s.config id
    let i := (s.client id).interceptors
    let answer := ((request data error id options defaultTransport).run s).1
    (∀ e, answer.1 = .error e ↔ Check.all.findSome? (Check.fault? config options) = some e) ∧
    (∀ e, answer.1 = .error e → answer.2 = []) ∧
    ∀ x, answer.1 = .ok x →
      (∃ dispatch, config.prepare options defaultTransport = .ok dispatch ∧
        x.request = i.onRequest dispatch.request) ∧
      match config.transportFor options defaultTransport with
      | none => x.outcome = .error (.transport .unavailable) ∧ x.response = none ∧
          answer.2 = i.request.runs .request
      | some transport => ∃ sent later,
          answer.2 = i.request.runs .request ++ .sent sent :: later ∧
          (∀ event ∈ later, event.isLate = true) ∧
          sent.method = x.request.method ∧ sent.uri = x.request.uri ∧
          sent.version = x.request.version ∧ sent.headers = x.request.headers ∧
          sent.body = x.request.body ∧
          x.response = (transport sent).toOption.map (i.onResponse x.request) := by
  intro config i answer
  cases hprepare : config.prepare options defaultTransport with
  | error e =>
      have hanswer : answer = (.error e, []) :=
        congrArg Prod.fst (run_request_of_error data error hprepare)
      have hfault : Check.all.findSome? (Check.fault? config options) = some e := by
        rw [← Config.fault?_prepare config options defaultTransport, hprepare]
        rfl
      clear_value answer
      subst hanswer
      rw [hfault]
      refine ⟨fun e' => ?_, fun _ _ => rfl, fun x hx => ?_⟩
      · rw [Except.error.injEq, Option.some.injEq]
      · cases hx
  | ok dispatch =>
      obtain ⟨x, events, hrun, hreceived⟩ := run_request_of_ok data error hprepare
      have hanswer : answer = (.ok x, i.request.runs .request ++ events) :=
        congrArg Prod.fst hrun
      have hfault : Check.all.findSome? (Check.fault? config options) = none := by
        rw [← Config.fault?_prepare config options defaultTransport, hprepare]
        rfl
      have htransport := Config.transport_of_prepare_eq_ok hprepare
      clear_value answer
      subst hanswer
      rw [hfault]
      refine ⟨fun e => ?_, fun e he => ?_, fun x' hx => ?_⟩
      · simp
      · cases he
      obtain rfl := Except.ok.inj hx
      refine ⟨⟨dispatch, rfl, hreceived.request_eq⟩, ?_⟩
      rw [hreceived.request_eq]
      split
      case h_1 hnone =>
        obtain ⟨houtcome, hresponse, rfl⟩ :=
          hreceived.of_transport_eq_none (htransport.trans hnone)
        exact ⟨houtcome, hresponse, List.append_nil _⟩
      case h_2 transport hsome =>
        obtain ⟨later, rfl, hlate, hresponse⟩ :=
          hreceived.of_transport_eq_some (htransport.trans hsome)
        exact ⟨_, later, rfl, hlate, rfl, rfl, rfl, rfl, rfl, hresponse⟩

end Session

end ApiClient
