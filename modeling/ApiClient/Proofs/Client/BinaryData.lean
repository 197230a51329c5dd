import ApiClient.Proofs.Client.Dispatch
import ApiClient.Proofs.Text.Utf8
import Mathlib.Data.List.Basic

/-!
Bodies that are expected as bytes. Where the mode asks for no reading of its own, the bytes of a
success are the data. The exception is a body that is declared to be empty: it counts as no body at
all, and no bytes come from that.
-/

namespace ApiClient

/-! ### Bodies that are not JSON -/

section

variable {α ε : Type} {data : Decoder α} {error : Decoder ε} {i : Interceptors}
  {dispatch : Dispatch} {request : HttpRequest} {x : Exchange α ε} {events : List Event}

/-- What is not JSON is decoded as it was parsed. -/
theorem ReadsData.outcome_eq {response : HttpResponse} {outcome : Except (ResponseError ε) α}
    {body : ResponseBody} (h : ReadsData data dispatch response outcome events)
    (hparse : ResponseBody.parse dispatch.parseMode response = .ok body)
    (hjson : ∀ v, body ≠ .json v) :
    outcome = (data body).mapError (.undecodable response.status body) := by
  obtain ⟨result, htransforms, rfl⟩ := h.exists_transforms hparse
  obtain ⟨rfl, -⟩ := htransforms.of_skip (.inr hjson)
  rfl

/-- A success is read once the handlers of responses have run. -/
theorem Received.exists_readsData (h : Received data error i dispatch request x events)
    {r : HttpResponse} (hr : x.response = some r) (success : r.status.isSuccess = true) :
    ∃ reading, ReadsData data dispatch r x.outcome reading ∧
      events = .sent request.duplicate :: i.response.runs .response ++ reading := by
  cases h with
  | unavailable | unanswered => cases hr
  | success _ answer handled status reading =>
      obtain rfl := Option.some.inj hr
      exact ⟨_, reading, rfl⟩
  | failure _ answer handled status =>
      obtain rfl := Option.some.inj hr
      rw [success] at status
      cases status

/-- The outcome of a success is what was read of it. -/
theorem Received.readsData (h : Received data error i dispatch request x events)
    {r : HttpResponse} (hr : x.response = some r) (success : r.status.isSuccess = true) :
    ∃ events, ReadsData data dispatch r x.outcome events := by
  obtain ⟨reading, hreads, -⟩ := h.exists_readsData hr success
  exact ⟨reading, hreads⟩

end

/-! ### Declared lengths -/

/-- Every content length of a response is the length of its body. -/
def HttpResponse.TellsLength (r : HttpResponse) : Prop :=
  ∀ v ∈ r.headers.values .contentLength, v = utf8 (toString r.body.length)

/-- Different lengths are written differently. -/
theorem utf8_toString_injective : Function.Injective fun n : Nat => utf8 (toString n) := by
  intro m n h
  have hdigits : Nat.toDigits 10 m = Nat.toDigits 10 n := by
    simpa using Utf8.encode_injective h
  calc
    m = Nat.ofDigitChars 10 (Nat.toDigits 10 m) 0 := Nat.ofDigitChars_ten_toDigits.symm
    _ = Nat.ofDigitChars 10 (Nat.toDigits 10 n) 0 := by rw [hdigits]
    _ = n := Nat.ofDigitChars_ten_toDigits

/-- A response declares its body to be empty by its status, or where it has a length to tell and
that is zero. -/
theorem HttpResponse.TellsLength.declaresEmpty_iff {r : HttpResponse} (h : r.TellsLength)
    (content : r.status ≠ .noContent) :
    r.declaresEmpty = true ↔ r.body = [] ∧ r.headers.values .contentLength ≠ [] := by
  rw [declaresEmpty, Headers.first?]
  cases hvalues : r.headers.values .contentLength with
  | nil => simp [content]
  | cons v rest =>
      have hv : v = utf8 (toString r.body.length) := h v (by simp [hvalues])
      have hzero : v = utf8 "0" ↔ r.body = [] := by
        rw [hv, ← List.length_eq_zero_iff]
        exact utf8_toString_injective.eq_iff (b := 0)
      simp [content, hzero]

/-! ### Bytes -/

/-- Modes that leave the bytes of a body as they are. -/
def ParseMode.isBinary : ParseMode → Bool
  | .stream | .blob | .arrayBuffer | .formData => true
  | _ => false

/-- What a body is that is left as it is. -/
theorem ResponseBody.parse_of_isBinary {mode : ParseMode} {r : HttpResponse}
    (h : (mode.resolve r.headers).isBinary = true) :
    parse mode r = .ok .empty ∧ r.declaresEmpty = true ∨
      (parse mode r = .ok (.stream r.body) ∨ parse mode r = .ok (.bytes r.body)) ∧
        r.declaresEmpty = false := by
  rw [parse]
  cases r.declaresEmpty with
  | true => exact .inl ⟨rfl, rfl⟩
  | false =>
      refine .inr ⟨?_, rfl⟩
      rw [if_neg (by decide)]
      cases hmode : mode.resolve r.headers with
      | stream => exact .inl rfl
      | blob | arrayBuffer | formData => exact .inr rfl
      | auto | json | text =>
          rw [hmode] at h
          cases h

theorem Json.ofBytes_injective : Function.Injective Json.ofBytes := by
  intro a b h
  refine List.map_injective_iff.mpr ?_ (Json.array.inj h)
  intro x y hxy
  have hint : (x.toNat : Int) = y.toNat := Number.int.inj (Json.number.inj hxy)
  exact UInt8.toNat_inj.mp (by omega)

/-- Why nothing cannot be read as bytes. -/
def noBytes : DecodeError := .value (.type "unit value" "byte array")

namespace Session

/-- The data of a success that is expected as bytes, in a mode that leaves them as they are, is the
body of the response, byte for byte. A status of no content and a content length of zero stand for
no body; where the length says so no data is decoded. -/
theorem request_delivers_bytes {ε : Type} {error : Decoder ε} {s : Session} {id : ClientId}
    {options : RequestOptions} {defaultTransport : Option Transport} {x : Exchange Json ε}
    {r : HttpResponse}
    (h : ((request Schema.bytes.decode error id options defaultTransport).run s).1.1 = .ok x)
    (hr : x.response = some r) (success : r.status.isSuccess = true)
    (content : r.status ≠ .noContent) (length : r.TellsLength)
    (mode : (((s.config id).parseModeFor options).resolve r.headers).isBinary = true) :
    (r.body ≠ [] ∨ r.headers.values .contentLength = [] →
      ∀ bytes, x.outcome = .ok (.ofBytes bytes) ↔ bytes = r.body) ∧
    (r.body = [] ∧ r.headers.values .contentLength ≠ [] →
      x.outcome = .error (.undecodable r.status .empty noBytes)) := by
  obtain ⟨dispatch, _, hprepare, hreceived⟩ := received_of_request_eq_ok h
  obtain ⟨_, hreads⟩ := hreceived.readsData hr success
  have hmode := (Config.reading_of_prepare_eq_ok hprepare).1
  rw [← hmode] at mode
  rcases ResponseBody.parse_of_isBinary mode with ⟨hparse, hempty⟩ | ⟨hparse, hfull⟩
  · have houtcome := hreads.outcome_eq hparse (by simp)
    rw [length.declaresEmpty_iff content] at hempty
    refine ⟨?_, fun _ => houtcome⟩
    rintro (hbody | hvalues)
    · exact absurd hempty.1 hbody
    · exact absurd hvalues hempty.2
  · have houtcome : x.outcome = .ok (.ofBytes r.body) := by
      rcases hparse with hparse | hparse <;> exact hreads.outcome_eq hparse (by simp)
    refine ⟨fun _ bytes => ?_, fun hempty => ?_⟩
    · rw [houtcome, Except.ok.injEq, Json.ofBytes_injective.eq_iff]
      exact eq_comm
    · rw [← length.declaresEmpty_iff content, hfull] at hempty
      cases hempty

/-- A download of these bytes with their length. -/
def download (bytes : Bytes) : RequestOptions :=
  { url := "/", method := some .get, parseMode := some .stream,
    transport := some fun _ => .ok {
      status := .ok, body := bytes,
      headers := Headers.empty.insert .contentLength (utf8 (toString bytes.length)) } }

theorem request_delivers_bytes_download :
    ∃ x : Exchange Json Json,
      ((request Schema.bytes.decode Schema.value.decode defaultClient (download [0, 255])).run
        {}).1.1 = .ok x ∧
      x.outcome = .ok (.ofBytes [0, 255]) := by
  have hrequest : ((request Schema.bytes.decode Schema.value.decode defaultClient
      (download [0, 255])).run {}).1.1 = (.ok _ : Except ClientError (Exchange Json Json)) := rfl
  have hlength : ∀ v ∈ [utf8 "2"], v = utf8 (toString 2) := by decide
  obtain ⟨hbytes, -⟩ := request_delivers_bytes hrequest rfl rfl (by decide) hlength rfl
  exact ⟨_, hrequest, (hbytes (.inl (by simp)) _).mpr rfl⟩

/-- A download of no bytes that says so does not come to data. -/
theorem emptyDownload_undecodable :
    ∃ (x : Exchange Json Json) (r : HttpResponse),
      ((request Schema.bytes.decode Schema.value.decode defaultClient (download [])).run {}).1.1 =
        .ok x ∧
      x.response = some r ∧ r.status.isSuccess = true ∧ r.status ≠ .noContent ∧ r.TellsLength ∧
      (((({} : Session).config defaultClient).parseModeFor (download [])).resolve
        r.headers).isBinary = true ∧
      r.body = [] ∧ x.outcome ≠ .ok (.ofBytes r.body) := by
  have hrequest : ((request Schema.bytes.decode Schema.value.decode defaultClient
      (download [])).run {}).1.1 = (.ok _ : Except ClientError (Exchange Json Json)) := rfl
  have hlength : ∀ v ∈ [utf8 "0"], v = utf8 (toString 0) := by decide
  exact ⟨_, _, hrequest, rfl, rfl, by decide, hlength, rfl, rfl, nofun⟩

end Session

end ApiClient
