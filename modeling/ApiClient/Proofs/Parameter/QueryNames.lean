import ApiClient.Proofs.Parameter.Names
import ApiClient.Proofs.Parameter.QueryReading

/-!
The names that a query string is written with. Each stands in front of an equals sign, the first of
them at the very beginning, and all that is not encoded comes from them.
-/

namespace ApiClient.Query

variable (options : QueryOptions)

/-- The text of an entry whose value holds no nested ones. -/
def entryChars (name : String) : Json → List Char
  | .null => []
  | .array items =>
    options.arrayStyle.style.arrayChars options.explodeArrays options.allowReserved name
      (items.map Json.elementChars)
  | .object fields =>
    options.objectStyle.style.objectChars options.explodeObjects options.allowReserved name
      (Parameter.entryChars fields)
  | scalar => Parameter.pair options.allowReserved name.toList scalar.elementChars

theorem entryText_eq (name : String) (v : Json) :
    options.entryText name v =
      if isFlat v then .ok (entryChars options name v) else .error ⟨name⟩ := by
  cases v with
  | array items => exact Parameter.Style.array_eq ..
  | object fields => exact Parameter.Style.object_eq ..
  | _ => rfl

theorem eq_of_serialize_eq_ok {query : Entries Json} {search : String}
    (h : options.serialize query = .ok search) :
    search.toList = List.intercalate ['&']
      ((query.map fun (name, v) => entryChars options name v).filter (!·.isEmpty)) := by
  obtain ⟨texts, htexts, h⟩ := bind_eq_ok_iff.mp h
  cases h
  have hentry : ∀ (entry : String × Json) (text : List Char),
      options.entryText entry.1 entry.2 = .ok text →
        text = entryChars options entry.1 entry.2 := by
    intro entry text htext
    rw [entryText_eq] at htext
    split at htext
    case isTrue => exact (Except.ok.inj htext).symm
    case isFalse => cases htext
  rw [String.toList_ofList, eq_map_of_mapM_eq_ok hentry htexts]

/-- The names that an entry is written with. -/
def entryNames (name : String) : Json → List (List Char)
  | .null => []
  | .array items =>
    options.arrayStyle.style.arrayNames options.explodeArrays name.toList
      (items.map Json.elementChars)
  | .object fields =>
    options.objectStyle.style.objectNames options.explodeObjects name.toList
      (Parameter.entryChars fields)
  | _ => [name.toList]

/-- The names that a query is written with, in order. -/
def writtenNames (query : Entries Json) : List (List Char) :=
  query.flatMap fun (name, v) => entryNames options name v

theorem writtenNames_cons (name : String) (v : Json) (query : Entries Json) :
    writtenNames options ((name, v) :: query) =
      entryNames options name v ++ writtenNames options query := rfl

/-! ### What is not encoded -/

section

variable {c : Char} (hc : Parameter.isMark c = false)

include hc

theorem count_entryChars (hreserved : options.allowReserved = false) (name : String) (v : Json) :
    (entryChars options name v).count c = (entryNames options name v).flatten.count c := by
  unfold entryChars
  rw [hreserved]
  cases v with
  | null => rfl
  | array items => exact Parameter.Style.count_arrayChars _ _ hc _ _
  | object fields => exact Parameter.Style.count_objectChars _ _ hc _ _
  | bool | number | string =>
      show (Parameter.pair false name.toList _).count c = [name.toList].flatten.count c
      rw [List.flatten_singleton]
      exact Parameter.count_pair hc _ _

/-- Texts are encoded, so that a character like this comes from the names. -/
theorem count_of_serialize_eq_ok (hreserved : options.allowReserved = false)
    {query : Entries Json} {search : String} (h : options.serialize query = .ok search) :
    search.toList.count c = (writtenNames options query).flatten.count c := by
  have hfilter : ∀ texts : List (List Char),
      (texts.filter (!·.isEmpty)).flatten = texts.flatten := by
    intro texts
    induction texts with
    | nil => rfl
    | cons text texts ih => cases text <;> simp [ih]
  have hentry : ∀ entry : String × Json, (entryChars options entry.1 entry.2).count c =
      (entryNames options entry.1 entry.2).flatten.count c := fun entry =>
    count_entryChars options hc hreserved entry.1 entry.2
  rw [eq_of_serialize_eq_ok options h, Parameter.count_intercalate hc (by decide), hfilter,
    Parameter.count_flatten_map hentry, writtenNames, List.flatMap_def, List.flatten_flatten,
    List.map_map]
  rfl

theorem mem_iff_of_serialize_eq_ok (hreserved : options.allowReserved = false)
    {query : Entries Json} {search : String} (h : options.serialize query = .ok search) :
    c ∈ search.toList ↔ c ∈ (writtenNames options query).flatten := by
  rw [← List.count_pos_iff, ← List.count_pos_iff, count_of_serialize_eq_ok options hc hreserved h]

end

/-! ### How it begins -/

/-- A text that begins with the first of these names and an equals sign, and is empty where there
are none. -/
def LedBy (names : List (List Char)) (text : List Char) : Prop :=
  match names with
  | [] => text = []
  | first :: _ => ∃ rest, text = first ++ '=' :: rest

theorem exists_intercalate_cons (sep piece : List Char) (pieces : List (List Char)) :
    ∃ rest, List.intercalate sep (piece :: pieces) = piece ++ rest := by
  cases pieces with
  | nil => exact ⟨[], by simp⟩
  | cons next pieces =>
      rw [List.intercalate_cons_cons, List.append_assoc]
      exact ⟨_, rfl⟩

/-- Pairs are led by the first of their names. -/
theorem ledBy_pairs {α : Type} (name text : α → List Char) (l : List α) :
    LedBy (l.map name) (List.intercalate ['&']
      (l.map fun a => Parameter.pair options.allowReserved (name a) (text a))) := by
  cases l with
  | nil => rfl
  | cons a l =>
      obtain ⟨rest, hrest⟩ := exists_intercalate_cons ['&']
        (Parameter.pair options.allowReserved (name a) (text a))
        (l.map fun a => Parameter.pair options.allowReserved (name a) (text a))
      rw [List.map_cons, List.map_cons, hrest, Parameter.pair, List.append_assoc]
      exact ⟨_, rfl⟩

theorem ledBy_entryChars (name : String) (v : Json) :
    LedBy (entryNames options name v) (entryChars options name v) := by
  cases v with
  | null => rfl
  | bool | number | string => exact ⟨_, rfl⟩
  | array items =>
      rw [entryNames, entryChars, Parameter.Style.arrayChars]
      cases hexplode : options.explodeArrays with
      | true =>
          have hpairs := ledBy_pairs options (fun _ => name.toList) id
            (items.map Json.elementChars)
          cases options.arrayStyle <;> exact hpairs
      | false => cases options.arrayStyle <;> exact ⟨_, List.append_assoc _ _ _⟩
  | object fields =>
      rw [entryNames, entryChars, Parameter.Style.objectChars, Parameter.Style.objectNames]
      split
      case isTrue =>
        have hpairs := ledBy_pairs options
          (fun entry => options.objectStyle.style.entryName name.toList entry.1) (·.2)
          (Parameter.entryChars fields)
        cases hstyle : options.objectStyle <;> rw [hstyle] at hpairs <;> exact hpairs
      case isFalse hcollapsed =>
        cases hstyle : options.objectStyle with
        | deepObject => simp [hstyle, ObjectStyle.style] at hcollapsed
        | form => exact ⟨_, List.append_assoc _ _ _⟩

theorem isEmpty_eq_false_of_ledBy {first text : List Char} {names : List (List Char)}
    (h : LedBy (first :: names) text) : text.isEmpty = false := by
  obtain ⟨rest, rfl⟩ := h
  simp

/-- A query string is led by the first of all its names. -/
theorem ledBy_of_serialize_eq_ok {query : Entries Json} {search : String}
    (h : options.serialize query = .ok search) :
    LedBy (writtenNames options query) search.toList := by
  rw [eq_of_serialize_eq_ok options h]
  clear h
  induction query with
  | nil => rfl
  | cons entry query ih =>
      obtain ⟨name, v⟩ := entry
      have hentry := ledBy_entryChars options name v
      rw [List.map_cons, writtenNames_cons]
      cases hnames : entryNames options name v with
      | nil =>
          -- an entry without names has no text and is left out
          rw [hnames] at hentry
          rw [List.filter_cons_of_neg (by simp [show entryChars options name v = [] from hentry])]
          exact ih
      | cons first names =>
          rw [hnames] at hentry
          rw [List.filter_cons_of_pos (by simp [isEmpty_eq_false_of_ledBy hentry])]
          obtain ⟨rest, hrest⟩ := hentry
          obtain ⟨later, hlater⟩ := exists_intercalate_cons ['&'] (entryChars options name v)
            ((query.map fun (name, v) => entryChars options name v).filter (!·.isEmpty))
          rw [hlater, hrest, List.append_assoc]
          exact ⟨_, rfl⟩

end ApiClient.Query
