import ApiClient.Proofs.Client.Envelope

/-!
What errors say of the status that came with them. An error tells the status of its response, but
for one that a transformer brought about: it tells none although there was a response. A transformer
only sees the JSON of successes, so such an error is known from the response and the settings.
-/

namespace ApiClient

/-- The JSON of a success that is read with these settings, which its transformer refuses. -/
structure Refused (mode : ParseMode) (transformer : Option Transformer) (r : HttpResponse) :
    Prop where
  success : r.status.isSuccess = true
  refusal : ∃ f v message, transformer = some f ∧ ResponseBody.parse mode r = .ok (.json v) ∧
    f v = .error message

section

variable {α ε : Type} {data : Decoder α} {error : Decoder ε} {i : Interceptors}
  {dispatch : Dispatch} {request : HttpRequest} {x : Exchange α ε} {events : List Event}

/-- A transformer fails exactly where it is run, on JSON, and refuses that. -/
theorem Transforms.eq_error_iff {transformer : Option Transformer} {body : ResponseBody}
    {result : Except String ResponseBody} (h : Transforms transformer body result events) :
    (∃ message, result = .error message) ↔
      ∃ f v message, transformer = some f ∧ body = .json v ∧ f v = .error message := by
  cases h with
  | @run f v hf =>
      subst hf
      constructor
      · rintro ⟨message, hmessage⟩
        cases hv : f v with
        | error e => exact ⟨f, v, e, rfl, rfl, hv⟩
        | ok v' =>
            rw [hv] at hmessage
            cases hmessage
      · rintro ⟨f', v', message, ⟨⟩, ⟨⟩, hv⟩
        exact ⟨message, by rw [hv]; rfl⟩
  | skip hskip =>
      refine iff_of_false (by simp) ?_
      rintro ⟨f, v, message, rfl, rfl, -⟩
      exact hskip.elim (by simp) fun hne => hne v rfl

/-- A success comes to an error of the transformer exactly where that refuses its JSON. -/
theorem ReadsData.eq_transform_iff {response : HttpResponse} {outcome : Except (ResponseError ε) α}
    (success : response.status.isSuccess = true)
    (h : ReadsData data dispatch response outcome events) :
    (∃ message, outcome = .error (.transform message)) ↔
      Refused dispatch.parseMode dispatch.transformer response := by
  have hrefused : Refused dispatch.parseMode dispatch.transformer response ↔
      ∃ f v message, dispatch.transformer = some f ∧
        ResponseBody.parse dispatch.parseMode response = .ok (.json v) ∧ f v = .error message :=
    ⟨fun h => h.refusal, fun h => ⟨success, h⟩⟩
  rw [hrefused]
  cases h with
  | unparsed parse => simp [parse]
  | untransformed parse transform | undecoded parse transform | decoded parse transform =>
      have hiff := transform.eq_error_iff
      simp only [parse, Except.ok.injEq]
      rw [← hiff]
      simp

theorem Received.eq_transform_iff (h : Received data error i dispatch request x events) :
    (∃ message, x.outcome = .error (.transform message)) ↔
      ∃ r, x.response = some r ∧ Refused dispatch.parseMode dispatch.transformer r := by
  cases h with
  | unavailable | unanswered => simp
  | success _ answer handled status reading => simpa using reading.eq_transform_iff status
  | failure _ answer handled status =>
      refine iff_of_false ?_ ?_
      · rw [failureError]
        split <;> simp
      · rintro ⟨r, ⟨⟩, hrefused⟩
        rw [hrefused.success] at status
        cases status

/-- All errors but those of transformers tell the status of the response, and none where there was
no response. -/
theorem Exchange.Consistent.status?_eq (h : x.Consistent data error) {e : ResponseError ε}
    (he : x.outcome = .error e) :
    (∃ message, e = .transform message) ∧ e.status? = none ∧ x.response.isSome = true ∨
      (∀ message, e ≠ .transform message) ∧ e.status? = x.response.map (·.status) := by
  cases e with
  | api status error =>
      obtain ⟨r, hr, -, rfl⟩ := h.api _ _ he
      exact .inr ⟨by simp, by rw [hr]; rfl⟩
  | undecodable status body source =>
      obtain ⟨r, hr, rfl, -⟩ := h.undecodable _ _ _ he
      exact .inr ⟨by simp, by rw [hr]; rfl⟩
  | transform message =>
      obtain ⟨r, hr, -⟩ := h.transform message he
      exact .inl ⟨⟨message, rfl⟩, rfl, by rw [hr]; rfl⟩
  | transport e =>
      have hr : x.response = none := h.unanswered.mpr ⟨e, he⟩
      exact .inr ⟨by simp, by rw [hr]; rfl⟩

end

namespace Session

/-- The status that an error tells is that of the response, unless the response is a success whose
JSON was refused by the transformer. Then the error tells no status. So an error without a status
means that there was no response, or such a one. -/
theorem request_error_status_iff {α ε : Type} {data : Decoder α} {error : Decoder ε} {s : Session}
    {id : ClientId} {options : RequestOptions} {defaultTransport : Option Transport}
    {x : Exchange α ε} {e : ResponseError ε}
    (h : ((request data error id options defaultTransport).run s).1.1 = .ok x)
    (he : x.outcome = .error e) :
    let refused := ∃ r, x.response = some r ∧
      Refused ((s.config id).parseModeFor options) ((s.config id).transformerFor options) r
    (e.status? = x.response.map (·.status) ↔ ¬refused) ∧
      (e.status? = none ↔ x.response = none ∨ refused) := by
  intro refused
  obtain ⟨dispatch, events, hprepare, hreceived⟩ := received_of_request_eq_ok h
  obtain ⟨hmode, htransformer⟩ := Config.reading_of_prepare_eq_ok hprepare
  have hrefused : (∃ message, e = .transform message) ↔ refused := by
    have hiff := hreceived.eq_transform_iff
    rw [he, hmode, htransformer] at hiff
    simpa using hiff
  rcases hreceived.consistent.status?_eq he with ⟨htransform, hnone, hsome⟩ | ⟨hne, heq⟩
  · have hr : refused := hrefused.mp htransform
    obtain ⟨r, hresponse⟩ := Option.isSome_iff_exists.mp hsome
    simp [hr, hnone, hresponse]
  · have hr : ¬refused := fun hr => (hrefused.mpr hr).elim hne
    simp [hr, heq]

/-- A request for JSON that its transformer refuses. -/
def refusing : RequestOptions :=
  { url := "/", method := some .get, parseMode := some .json,
    transformer := some fun _ => .error "no",
    transport := some fun _ => .ok { status := .ok, headers := .empty, body := utf8 "1" } }

/-- Its response has a status that the error does not tell. -/
theorem request_error_status_iff_refusing :
    ∃ (x : Exchange Json Json) (e : ResponseError Json),
      ((request Schema.value.decode Schema.value.decode defaultClient refusing).run {}).1.1 =
        .ok x ∧
      x.outcome = .error e ∧ x.response.map (·.status) = some .ok ∧ e.status? = none := by
  have hrequest : ((request Schema.value.decode Schema.value.decode defaultClient refusing).run
      {}).1.1 = (.ok _ : Except ClientError (Exchange Json Json)) := rfl
  obtain ⟨-, hnone⟩ := request_error_status_iff hrequest rfl
  refine ⟨_, _, hrequest, rfl, rfl, hnone.mpr (.inr ⟨_, rfl, rfl, _, _, _, rfl, rfl, rfl⟩)⟩

end Session

end ApiClient
