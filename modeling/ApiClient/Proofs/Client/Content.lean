import ApiClient.Proofs.Client.Prepare

/-!
What a prepared request carries. The body of the options, or else that of the settings, decides the
payload, and with it whether there is a content type. All other headers are as the inputs of the
options leave them.
-/

namespace ApiClient

namespace RequestBody

variable {serializer : BodySerializer} {headers sent : Headers} {payload : Bytes}

/-- What a serializer wrote goes out, under the content type that it names, if it does. -/
theorem eq_of_serialize_json_eq_ok {v : Json}
    (h : serialize serializer headers (some (.json v)) = .ok (payload, sent)) :
    ∃ written, serializer v = .ok written ∧ payload = written.bytes ∧
      sent =
        match written.contentType with
        | some type => headers.insert .contentType type
        | none => headers := by
  rw [serialize] at h
  obtain ⟨written, hwritten, h⟩ := bind_eq_ok_iff.mp h
  refine ⟨written, hwritten, ?_⟩
  cases htype : written.contentType with
  | some type =>
      rw [htype] at h
      cases h
      exact ⟨rfl, rfl⟩
  | none =>
      rw [htype] at h
      cases h
      exact ⟨rfl, rfl⟩

/-- A body brings no header along but its content type. -/
theorem values_of_serialize_eq_ok {body : Option RequestBody}
    (h : serialize serializer headers body = .ok (payload, sent)) {name : HeaderName}
    (hname : name ≠ .contentType) : sent.values name = headers.values name := by
  match body with
  | none =>
      cases h
      rw [Headers.values_remove, if_neg hname.symm]
  | some (.text _) | some (.raw _) =>
      cases h
      rfl
  | some (.json v) =>
      obtain ⟨written, -, -, rfl⟩ := eq_of_serialize_json_eq_ok h
      cases written.contentType with
      | some type => rw [Headers.values_insert, if_neg hname.symm]
      | none => rfl

end RequestBody

namespace Config

/-- A prepared request has the payload of its body. What a serializer makes of a structured body goes
out under the content type that it names. Where it names none, and for texts and bytes, which are
sent as they are, the content type is as the inputs leave it. Without a body, or with an empty text,
there is neither a payload nor a content type, whatever the inputs say. All other headers are as the
inputs leave them. -/
theorem prepare_carries_body {config : Config} {options : RequestOptions}
    {defaultTransport : Option Transport} {dispatch : Dispatch}
    (h : config.prepare options defaultTransport = .ok dispatch) :
    let payload := dispatch.request.body
    let contentTypes := dispatch.request.headers.values .contentType
    ∃ merged, config.headers.override options.headers = .ok merged ∧
      (∀ name, name ≠ .contentType →
        dispatch.request.headers.values name = merged.values name) ∧
      match options.body.or config.body with
      | none => payload = [] ∧ contentTypes = []
      | some (.json v) => ∃ written,
          (options.bodySerializer.getD config.bodySerializer) v = .ok written ∧
          payload = written.bytes ∧
          contentTypes =
            match written.contentType with
            | some type => [type]
            | none => merged.values .contentType
      | some (.text s) =>
          if s = "" then payload = [] ∧ contentTypes = []
          else payload = utf8 s ∧ contentTypes = merged.values .contentType
      | some (.raw bytes) => payload = bytes ∧ contentTypes = merged.values .contentType := by
  obtain ⟨method, merged, payload, url, uri, sent, -, hmerged, hbody, -, -, rfl⟩ :=
    eq_of_prepare_eq_ok h
  refine ⟨merged, hmerged,
    fun name hname => RequestBody.values_of_serialize_eq_ok hbody hname, ?_⟩
  rw [bodyFor] at hbody
  cases hgiven : options.body.or config.body with
  | none =>
      rw [hgiven] at hbody
      cases Except.ok.inj hbody
      exact ⟨rfl, by simp⟩
  | some body =>
      rw [hgiven] at hbody
      cases body with
      | json v =>
          obtain ⟨written, hwritten, rfl, rfl⟩ := RequestBody.eq_of_serialize_json_eq_ok hbody
          refine ⟨written, hwritten, rfl, ?_⟩
          cases written.contentType <;> simp
      | raw bytes =>
          cases Except.ok.inj hbody
          exact ⟨rfl, rfl⟩
      | text s =>
          by_cases hempty : s = ""
          · subst hempty
            cases Except.ok.inj hbody
            exact ⟨rfl, by simp⟩
          · have hblank : (RequestBody.text s).isBlank = false := by
              simpa [RequestBody.isBlank] using hempty
            rw [Option.filter_some, hblank] at hbody
            cases Except.ok.inj hbody
            show if s = "" then _ else _
            rw [if_neg hempty]
            exact ⟨rfl, rfl⟩

/-- Options with a form, and with a content type that they name themselves. -/
def formOptions : RequestOptions :=
  { url := "/x", method := some .post, bodySerializer := some .form,
    headers := [("Content-TYPE", .value "text/plain"), ("X-Id", .list ["1", "2"])],
    body := some (.json (.object [("a", .string "b c")])) }

theorem prepare_carries_body_form :
    ∃ dispatch, prepare {} formOptions = .ok dispatch ∧
      dispatch.request.body = utf8 "a=b+c" ∧
      dispatch.request.headers.values .contentType = [BodySerializer.formContentType] := by
  obtain ⟨dispatch, h⟩ : ∃ dispatch, prepare {} formOptions = .ok dispatch := ⟨_, rfl⟩
  obtain ⟨merged, -, -, written, hwritten, hpayload, htypes⟩ := prepare_carries_body h
  have hform : BodySerializer.form (.object [("a", .string "b c")]) =
      .ok ⟨utf8 "a=b+c", some BodySerializer.formContentType⟩ := rfl
  obtain rfl := Except.ok.inj (hform.symm.trans hwritten)
  exact ⟨dispatch, h, hpayload, htypes⟩

/-- An empty text of the options hides the body of the settings, and the content type goes too. -/
example :
    (prepare { body := some (.text "a") }
      { url := "/x", method := some .post, body := some (.text ""),
        headers := [("content-type", .value "text/plain")] }).map
      (fun dispatch => (dispatch.request.body, dispatch.request.headers.values .contentType)) =
      .ok ([], []) := rfl

end Config

end ApiClient
