import ApiClient.Proofs.Lists
import ApiClient.Proofs.Parameter.QueryReading
import ApiClient.Proofs.Text.Pairs
import ApiClient.Proofs.Text.Percent
import ApiClient.Request.Body

/-!
Forms read back. An object that holds only scalars, nulls and arrays of these is written as a form,
and its names and texts are read from the bytes again, whatever characters they have. All other
values are refused: what is no object, and an object by its first field that nests.
-/

namespace ApiClient.Form

open Query (valueText)

/-! ### The pairs of a form -/

/-- An object, or an array that holds arrays or objects. -/
def nests : Json → Bool
  | .array items => items.any (!·.isScalar)
  | v => !v.isScalar

def fieldPairs (name : String) : Json → List (String × String)
  | .null => []
  | .array items => items.map fun v => (name, valueText v)
  | scalar => [(name, valueText scalar)]

/-- The names and texts that a form holds, in order. -/
def pairs (fields : Entries Json) : List (String × String) :=
  fields.flatMap fun (name, v) => fieldPairs name v

def readPair? (p : List Char × List Char) : Option (String × String) :=
  (Percent.decodeForm? p.1).bind fun name =>
    (Percent.decodeForm? p.2).map fun text => (String.ofList name, String.ofList text)

/-- Reads a form: pairs between ampersands, the first equals sign behind the name. -/
def read? (bytes : Bytes) : Option (List (String × String)) :=
  (Utf8.decode? bytes).bind fun text => (Pairs.split? text).bind fun ps => ps.mapM readPair?

/-! ### What is written -/

/-- A pair as it is written. -/
def writePair (p : String × String) : List Char × List Char :=
  (Percent.encodeForm p.1.toList, Percent.encodeForm p.2.toList)

theorem separable_writePair (p : String × String) : Pairs.Separable (writePair p) where
  equals_name := Percent.not_mem_encodeForm (by decide) (by decide) _
  ampersand_name := Percent.not_mem_encodeForm (by decide) (by decide) _
  ampersand_value := Percent.not_mem_encodeForm (by decide) (by decide) _

theorem readPair?_writePair (p : String × String) : readPair? (writePair p) = some p := by
  simp [readPair?, writePair]

theorem formPairs_array (name : String) (items : List Json) :
    BodySerializer.formPairs name (.array items) =
      if items.all Json.isScalar then
        .ok (items.map fun v => Pairs.piece (writePair (name, valueText v)))
      else .error (.nestedField name) := by
  apply mapM_eq_ite
  intro item
  cases item <;> rfl

theorem formPairs_eq (name : String) (v : Json) :
    BodySerializer.formPairs name v =
      if nests v then .error (.nestedField name)
      else .ok ((fieldPairs name v).map fun p => Pairs.piece (writePair p)) := by
  cases v with
  | array items =>
      rw [formPairs_array, nests, ← List.not_all_eq_any_not, fieldPairs, List.map_map]
      cases items.all Json.isScalar <;> rfl
  | null | bool | number | string | object => rfl

theorem formPairs_eq_error_iff {name : String} {v : Json} {e : BodyError} :
    BodySerializer.formPairs name v = .error e ↔ nests v = true ∧ e = .nestedField name := by
  rw [formPairs_eq]
  cases nests v <;> simp [eq_comm]

theorem exists_formPairs_eq_ok_iff {name : String} {v : Json} :
    (∃ pieces, BodySerializer.formPairs name v = .ok pieces) ↔ nests v = false := by
  rw [formPairs_eq]
  cases nests v <;> simp

/-- An object without a field that nests is written as its pairs, joined by ampersands. -/
theorem form_object_eq_ok {fields : Entries Json}
    (h : ∀ field ∈ fields, nests field.2 = false) :
    BodySerializer.form (.object fields) =
      .ok ⟨Utf8.encode (Pairs.join ((pairs fields).map writePair)),
        some BodySerializer.formContentType⟩ := by
  have hfields : (fields.mapM fun (name, v) => BodySerializer.formPairs name v) =
      .ok (fields.map fun field =>
        (fieldPairs field.1 field.2).map fun p => Pairs.piece (writePair p)) := by
    apply mapM_eq_ok
    rintro ⟨name, v⟩ hfield
    show BodySerializer.formPairs name v = _
    rw [formPairs_eq, h (name, v) hfield]
    rfl
  have hpieces : (fields.map fun field =>
      (fieldPairs field.1 field.2).map fun p => Pairs.piece (writePair p)).flatten =
      ((pairs fields).map writePair).map Pairs.piece := by
    rw [pairs, List.map_map, List.map_flatMap, List.flatMap_def]
    rfl
  rw [BodySerializer.form, hfields]
  show Except.ok _ = _
  rw [hpieces]
  rfl

/-- An object is refused by its first field that nests. -/
theorem form_object_eq_error_iff {fields : Entries Json} {e : BodyError} :
    BodySerializer.form (.object fields) = .error e ↔
      ∃ before name v after, fields = before ++ (name, v) :: after ∧ nests v = true ∧
        (∀ field ∈ before, nests field.2 = false) ∧ e = .nestedField name := by
  have hform : BodySerializer.form (.object fields) = .error e ↔
      (fields.mapM fun (name, v) => BodySerializer.formPairs name v) = .error e := by
    rw [BodySerializer.form]
    cases fields.mapM fun (name, v) => BodySerializer.formPairs name v <;>
      simp [bind, Except.bind, pure, Except.pure]
  rw [hform, mapM_eq_error_iff]
  constructor
  · rintro ⟨before, ⟨name, v⟩, after, hfields, hv, hbefore⟩
    obtain ⟨hnests, rfl⟩ := formPairs_eq_error_iff.mp hv
    refine ⟨before, name, v, after, hfields, hnests, ?_, rfl⟩
    intro field hfield
    exact exists_formPairs_eq_ok_iff.mp (hbefore field hfield)
  · rintro ⟨before, name, v, after, hfields, hnests, hbefore, rfl⟩
    refine ⟨before, (name, v), after, hfields, formPairs_eq_error_iff.mpr ⟨hnests, rfl⟩, ?_⟩
    intro field hfield
    exact exists_formPairs_eq_ok_iff.mpr (hbefore field hfield)

theorem form_eq_notAnObject_iff {v : Json} {kind : String} :
    BodySerializer.form v = .error (.notAnObject kind) ↔ v.fields? = none ∧ kind = v.kind := by
  cases v with
  | object fields =>
      rw [form_object_eq_error_iff]
      simp [Json.fields?]
  | null | bool | number | string | array =>
      simp [BodySerializer.form, Json.fields?, eq_comm]

/-- A value that is no object is refused for that, an object by its first field that nests. Every
other object is written, and exactly its names and texts are read from what was written. -/
theorem form_reads_back_or_refuses (v : Json) :
    (∀ kind, BodySerializer.form v = .error (.notAnObject kind) ↔
      v.fields? = none ∧ kind = v.kind) ∧
    (∀ name, BodySerializer.form v = .error (.nestedField name) ↔
      ∃ before w after, v = .object (before ++ (name, w) :: after) ∧ nests w = true ∧
        ∀ field ∈ before, nests field.2 = false) ∧
    (∀ fields, v = .object fields → (∀ field ∈ fields, nests field.2 = false) →
      ∃ bytes,
        BodySerializer.form v = .ok ⟨bytes, some (utf8 "application/x-www-form-urlencoded")⟩ ∧
        (pairs fields = [] → bytes = []) ∧
        (pairs fields ≠ [] → read? bytes = some (pairs fields))) := by
  refine ⟨fun kind => form_eq_notAnObject_iff, ?_, ?_⟩
  · intro name
    cases v with
    | object fields =>
        rw [form_object_eq_error_iff]
        constructor
        · rintro ⟨before, name', w, after, rfl, hw, hbefore, hname⟩
          obtain rfl := BodyError.nestedField.inj hname
          exact ⟨before, w, after, rfl, hw, hbefore⟩
        · rintro ⟨before, w, after, hfields, hw, hbefore⟩
          exact ⟨before, name, w, after, Json.object.inj hfields, hw, hbefore, rfl⟩
    | null | bool | number | string | array => simp [BodySerializer.form]
  · rintro fields rfl hfields
    refine ⟨_, form_object_eq_ok hfields, ?_, ?_⟩
    · intro hpairs
      rw [hpairs]
      rfl
    · intro hpairs
      have hseparable : ∀ p ∈ (pairs fields).map writePair, Pairs.Separable p := by
        intro p hp
        obtain ⟨q, -, rfl⟩ := List.mem_map.mp hp
        exact separable_writePair q
      rw [read?, Utf8.decode?_encode, Option.bind_some,
        Pairs.split?_join (by simpa using hpairs) hseparable, Option.bind_some]
      exact mapM_map_eq_some readPair?_writePair (pairs fields)

end ApiClient.Form
