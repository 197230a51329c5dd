import ApiClient.Proofs.Request.HeaderOverlay

/-!
Where header inputs come from. JSON that is neither null nor a list may be given alone, as the list
of it or as its text. These take different ways: a value is inserted, the elements of a list are
appended one by one, and an object stays JSON until it is sent. A value of another type is the input
that its JSON is.
-/

namespace ApiClient

namespace Headers

/-- After a name has been removed, inserting it comes to appending to it. -/
theorem insert_remove (name : HeaderName) (value : HeaderValue) (headers : Headers) :
    insert name value (remove name headers) = append name value (remove name headers) := by
  apply ext_values
  intro other
  rw [values_insert, values_append, values_remove]
  by_cases h : name = other <;> simp [h]

end Headers

namespace HeaderInput

variable {name : String} {key : HeaderName}

/-! ### One input, step by step -/

/-- The value that a text makes. -/
def valueOf (name text : String) : Except HeaderError HeaderValue :=
  match HeaderValue.ofText? text with
  | some v => .ok v
  | none => .error ⟨name, .invalidValue⟩

/-- The values that a name had go first. Then a value or JSON is inserted, while the elements of a
list are appended one after the other, up to the first that cannot be sent. -/
theorem apply_eq_insert_or_append (h : HeaderName.parse? name = some key) (headers : Headers)
    (input : HeaderInput) :
    input.apply headers name =
      match input with
      | .remove => .ok (headers.remove key)
      | .value text => (valueOf name text).map fun v => (headers.remove key).insert key v
      | .json v => (valueOf name v.text).map fun v => (headers.remove key).insert key v
      | .list texts =>
          texts.foldlM (fun merged text => (valueOf name text).map fun v => merged.append key v)
            (headers.remove key) := by
  have hall : input.apply headers name =
      (input.texts.mapM (valueOf name)).map fun vs => (headers.remove key).appendAll key vs :=
    apply_of_parse? h headers input
  have hone : ∀ text, ([text].mapM (valueOf name)).map
      (fun vs => (headers.remove key).appendAll key vs) =
        (valueOf name text).map fun v => (headers.remove key).insert key v := by
    intro text
    simp only [Headers.insert_remove]
    rw [List.mapM_cons, List.mapM_nil]
    cases valueOf name text <;> rfl
  rw [hall]
  cases input with
  | remove => rfl
  | value text => exact hone text
  | json v => exact hone v.text
  | list texts =>
      -- `hall` checks all texts before it appends the first value, the list here in between
      exact (foldlM_map_eq _ (fun merged v => Headers.append key v merged) texts _).symm

theorem apply_list_singleton (headers : Headers) (name text : String) :
    (list [text]).apply headers name = (value text).apply headers name := by
  cases hname : HeaderName.parse? name with
  | none => rw [apply, apply, hname]
  | some key =>
      rw [apply_eq_insert_or_append hname, apply_eq_insert_or_append hname]
      simp only [List.foldlM_cons, List.foldlM_nil, bind_pure, Headers.insert_remove]

theorem apply_json (headers : Headers) (name : String) (v : Json) :
    (json v).apply headers name = (value v.text).apply headers name := by
  cases hname : HeaderName.parse? name with
  | none => rw [apply, apply, hname]
  | some key => rw [apply_eq_insert_or_append hname, apply_eq_insert_or_append hname]

/-! ### JSON alone, in a list and as text -/

theorem apply_ofJson_singleton (v : Json) (headers : Headers) (name : String) :
    (ofJson (.array [v])).apply headers name =
      (value (ofJson.itemText v)).apply headers name :=
  apply_list_singleton headers name (ofJson.itemText v)

theorem apply_ofJson {v : Json} (hnull : v ≠ .null) (hlist : ∀ elems, v ≠ .array elems)
    (headers : Headers) (name : String) :
    (ofJson v).apply headers name = (value (ofJson.itemText v)).apply headers name := by
  cases v with
  | null => exact absurd rfl hnull
  | bool b => cases b <;> rfl
  | number n => rfl
  | string s => rfl
  | array elems => exact absurd rfl (hlist elems)
  | object fields => exact apply_json headers name (.object fields)

/-- Inputs that do the same to every map may stand for each other among other inputs. -/
theorem override_congr {a b : HeaderInput}
    (h : ∀ headers, a.apply headers name = b.apply headers name) (base : Headers)
    (before after : Entries HeaderInput) :
    base.override (before ++ (name, a) :: after) =
      base.override (before ++ (name, b) :: after) := by
  rw [Headers.override, Headers.override, List.foldlM_append, List.foldlM_append]
  simp only [List.foldlM_cons, h]

/-! ### Values of other types -/

/-- The types whose values can be given to a header: those that have an input of their own, JSON,
and what may be missing. -/
inductive Kind
  | text
  | flag
  | integer
  | texts
  | json
  | optional (kind : Kind)

namespace Kind

def Value : Kind → Type
  | .text => String
  | .flag => Bool
  | .integer => Int
  | .texts => List String
  | .json => Json
  | .optional kind => Option kind.Value

def toInput : (kind : Kind) → kind.Value → HeaderInput
  | .text => HeaderInput.value
  | .flag => ofBool
  | .integer => ofInt
  | .texts => HeaderInput.list
  | .json => ofJson
  | .optional kind => ofOption kind.toInput

/-- The value as JSON. What is missing is null. -/
def toJson : (kind : Kind) → kind.Value → Json
  | .text => Json.string
  | .flag => Json.bool
  | .integer => Json.ofInt
  | .texts => fun texts => .array (texts.map Json.string)
  | .json => id
  | .optional kind => fun given => given.elim .null kind.toJson

end Kind

theorem ofJson_strings (texts : List String) :
    ofJson (.array (texts.map Json.string)) = .list texts := by
  have hitems : ofJson.itemText ∘ Json.string = id := rfl
  rw [ofJson, List.map_map, hitems, List.map_id]

theorem Kind.toInput_eq_ofJson (kind : Kind) (given : kind.Value) :
    kind.toInput given = ofJson (kind.toJson given) := by
  induction kind with
  | text => rfl
  | flag => rfl
  | integer => rfl
  | texts => exact (ofJson_strings given).symm
  | json => rfl
  | optional kind ih =>
      cases given with
      | none => rfl
      | some given => exact ih given

/-- JSON that is neither null nor a list gives the same map, or the same error, alone, in a list and
as its text, over every map and among any other inputs. A value of another type is the input that
its JSON is. -/
theorem conversions_agree :
    (∀ v : Json, v ≠ .null → (∀ elems, v ≠ .array elems) →
      ∀ (base : Headers) (before after : Entries HeaderInput) (name : String),
        base.override (before ++ (name, ofJson v) :: after) =
            base.override (before ++ (name, ofJson (.array [v])) :: after) ∧
          base.override (before ++ (name, ofJson v) :: after) =
            base.override (before ++ (name, value (ofJson.itemText v)) :: after)) ∧
    ∀ (kind : Kind) (given : kind.Value), kind.toInput given = ofJson (kind.toJson given) := by
  refine ⟨?_, Kind.toInput_eq_ofJson⟩
  intro v hnull hlist base before after name
  have htext : ∀ headers, (ofJson v).apply headers name =
      (value (ofJson.itemText v)).apply headers name := fun headers =>
    apply_ofJson hnull hlist headers name
  have hsingle : ∀ headers, (ofJson v).apply headers name =
      (ofJson (.array [v])).apply headers name := by
    intro headers
    rw [htext, apply_ofJson_singleton]
  exact ⟨override_congr hsingle base before after, override_congr htext base before after⟩

/-- An object in the place of two values, and texts that could be missing twice over. -/
theorem conversions_agree_meta :
    let base := Headers.ofList [(⟨"x-meta"⟩, utf8 "a"), (⟨"x-meta"⟩, utf8 "b")]
    let v := Json.object [("a", .ofInt 1)]
    v ≠ .null ∧ (∀ elems, v ≠ .array elems) ∧
      base.override [("X-Meta", ofJson v)] =
        .ok (Headers.ofList [(⟨"x-meta"⟩, utf8 "\x7b\"a\":1\x7d")]) ∧
      base.override [("X-Meta", ofJson v)] = base.override [("X-Meta", ofJson (.array [v]))] ∧
      (Kind.optional (.optional .texts)).toInput (some (some ["c", "d"])) =
        ofJson (.array [.string "c", .string "d"]) := by
  intro base v
  have hnull : v ≠ .null := nofun
  have hlist : ∀ elems, v ≠ .array elems := nofun
  obtain ⟨hsame, htyped⟩ := conversions_agree
  refine ⟨hnull, hlist, rfl, ?_, ?_⟩
  · exact (hsame v hnull hlist base [] [] "X-Meta").1
  · exact htyped (.optional (.optional .texts)) (some (some ["c", "d"]))

end HeaderInput

end ApiClient
