import ApiClient.Proofs.Client.BinaryData
import ApiClient.Proofs.Client.HandlerRuns

/-!
Types that take every body. A plain JSON value is read from any body, and bytes are read from raw
ones as they are. So a failure whose error is expected as a plain value always comes to that error,
whatever its body is and whatever the handlers make of it.
-/

namespace ApiClient

namespace ResponseBody

/-- The JSON value that a body stands for: raw bytes for the list of their numbers. -/
def value : ResponseBody → Json
  | .empty => .null
  | .json v => v
  | .text s => .string s
  | .bytes b | .stream b => .array (b.map fun byte => .ofNat byte.toNat)

/-- Bodies of raw bytes. -/
def IsRaw (body : ResponseBody) (b : Bytes) : Prop := body = .bytes b ∨ body = .stream b

end ResponseBody

namespace Schema

/-- The types of bytes. -/
def IsBinary (schema : Schema) : Prop := schema = .bytes ∨ schema = .byteList

theorem decode_value (body : ResponseBody) : Schema.value.decode body = .ok body.value := by
  cases body <;> rfl

/-! ### Bytes -/

/-- The number of a byte is one. -/
theorem readByte_ofNat (source : Source) (b : UInt8) :
    readByte source (.ofNat b.toNat) = .ok (.ofNat b.toNat) := by
  have hb : b.toNat < 256 := b.toNat_lt
  exact if_pos ⟨by omega, by omega⟩

/-- A list of items that read as themselves does so as a whole. -/
theorem readItems_eq_self {read : Json → Result} {items : List Json}
    (h : ∀ v ∈ items, read v = .ok v) (i : Nat) : readItems read i items = .ok items := by
  induction items generalizing i with
  | nil => rfl
  | cons v items ih =>
      have hrest := ih (fun w hw => h w (List.mem_cons_of_mem v hw)) (i + 1)
      rw [readItems, h v List.mem_cons_self, inside, hrest]
      rfl

theorem readItems_ofBytes (source : Source) (bytes : Bytes) (i : Nat) :
    readItems (readByte source) i (bytes.map fun b => .ofNat b.toNat) =
      .ok (bytes.map fun b => .ofNat b.toNat) := by
  refine readItems_eq_self ?_ i
  intro v hv
  obtain ⟨b, -, rfl⟩ := List.mem_map.mp hv
  exact readByte_ofNat source b

/-- Bytes are taken as they are, and a list of bytes from the list of their numbers. -/
theorem decodeRaw_ofBytes {schema : Schema} (h : schema.IsBinary)
    (bytes : Bytes) : schema.decodeRaw bytes = .ok (.ofBytes bytes) := by
  rcases h with rfl | rfl
  · rfl
  · show (Schema.byteList.readPlain (.ofBytes bytes)) = _
    rw [readPlain, Json.ofBytes, read, readItems_ofBytes]
    rfl

theorem decode_of_isRaw {schema : Schema} (h : schema.IsBinary)
    {body : ResponseBody} {bytes : Bytes} (hraw : body.IsRaw bytes) :
    schema.decode body = .ok (.ofBytes bytes) := by
  rcases hraw with rfl | rfl <;> exact decodeRaw_ofBytes h bytes

end Schema

namespace Session

/-- Every body decodes as the JSON value that it stands for, and raw bytes decode as just these
bytes. So a failure whose error is expected as a value is that error, read from its body after the
handlers of failures. -/
theorem request_failure_has_value :
    (∀ body, Schema.value.decode body = .ok body.value) ∧
    (∀ schema : Schema, schema.IsBinary → ∀ (body : ResponseBody) (bytes : Bytes),
      body.IsRaw bytes → ∀ given, schema.decode body = .ok (.ofBytes given) ↔ given = bytes) ∧
    ∀ {α : Type} {data : Decoder α} {s : Session} {id : ClientId} {options : RequestOptions}
      {defaultTransport : Option Transport} {x : Exchange α Json} {r : HttpResponse},
      ((request data Schema.value.decode id options defaultTransport).run s).1.1 = .ok x →
      x.response = some r → r.status.isSuccess = false →
      x.outcome = .error (.api r.status
        ((s.client id).interceptors.onFailure x.request r (.ofFailure r)).value) := by
  refine ⟨Schema.decode_value, ?_, ?_⟩
  · intro schema hschema body bytes hraw given
    rw [Schema.decode_of_isRaw hschema hraw, Except.ok.injEq, Json.ofBytes_injective.eq_iff]
    exact eq_comm
  · intro α data s id options defaultTransport x r h hr failure
    obtain ⟨dispatch, events, -, hreceived⟩ := received_of_request_eq_ok h
    rw [hreceived.outcome_of_failure hr failure, failureError, Schema.decode_value]

/-- A request to a server that fails with these bytes. -/
def brokenServer (body : Bytes) : RequestOptions :=
  { url := "/", method := some .get,
    transport := some fun _ => .ok { status := ⟨500⟩, headers := .empty, body } }

/-- A client whose handler of failures hands on the raw body. -/
def rawFailures : Session :=
  ((register defaultClient (.failure fun _ response _ => .bytes response.body)).run {}).2

theorem request_failure_has_value_brokenServer :
    ∃ x : Exchange Json Json,
      ((request Schema.value.decode Schema.value.decode defaultClient (brokenServer [0, 255])).run
        rawFailures).1.1 = .ok x ∧
      x.outcome = .error (.api ⟨500⟩ (.array [.ofNat 0, .ofNat 255])) ∧
      Schema.byteList.decode (.stream [0, 255]) = .ok (.ofBytes [0, 255]) := by
  obtain ⟨-, hbytes, hfailure⟩ := request_failure_has_value
  have hrequest : ((request Schema.value.decode Schema.value.decode defaultClient
      (brokenServer [0, 255])).run rawFailures).1.1 =
        (.ok _ : Except ClientError (Exchange Json Json)) := rfl
  exact ⟨_, hrequest, hfailure hrequest rfl rfl,
    (hbytes _ (.inr rfl) _ _ (.inr rfl) _).mpr rfl⟩

end Session

end ApiClient
