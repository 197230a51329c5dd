import ApiClient.Parameter.Query
import ApiClient.Proofs.Lists
import ApiClient.Proofs.Parameter.Style
import ApiClient.Proofs.Text.Pairs
import ApiClient.Proofs.Text.Percent

/-!
Query strings read back. A query stands for a list of pairs of names and texts: none for null, one
for a scalar, one for each element of an array and for each field of an object. When arrays and
objects are exploded and reserved characters encoded, exactly these pairs are read from the string,
whatever characters the texts have.
-/

namespace ApiClient.Query

/-! ### The pairs of a query -/

/-- The text of a value that holds no others. -/
def valueText (v : Json) : String := v.scalarText?.getD ""

/-- The name that a field of an object goes by. -/
def fieldName : ObjectStyle → String → String → String
  | .deepObject, name, key => name ++ "[" ++ key ++ "]"
  | .form, _, key => key

def entryPairs (style : ObjectStyle) (name : String) : Json → List (String × String)
  | .null => []
  | .array items => items.map fun v => (name, valueText v)
  | .object fields => fields.map fun (key, v) => (fieldName style name key, valueText v)
  | scalar => [(name, valueText scalar)]

/-- The names and texts that a query stands for, in order. -/
def pairs (style : ObjectStyle) (query : Entries Json) : List (String × String) :=
  query.flatMap fun (name, v) => entryPairs style name v

/-- Reads a pair whose value is percent-encoded. -/
def readPair? (p : List Char × List Char) : Option (String × String) :=
  (Percent.decode? p.2).map fun text => (String.ofList p.1, String.ofList text)

/-- Reads a query string: pairs between ampersands, the first equals sign behind the name. -/
def read? (search : String) : Option (List (String × String)) :=
  (Pairs.split? search.toList).bind fun ps => ps.mapM readPair?

/-! ### Queries that can be read back -/

/-- Arrays and objects hold only values that hold no others. -/
def isFlat : Json → Bool
  | .array items => items.all Json.isScalar
  | .object fields => fields.all (·.2.isScalar)
  | _ => true

def keys : Json → List String
  | .object fields => fields.map (·.1)
  | _ => []

/-- A name without separators of pairs. -/
def IsPlain (name : String) : Prop := '&' ∉ name.toList ∧ '=' ∉ name.toList

structure Readable (entry : String × Json) : Prop where
  name : IsPlain entry.1
  keys : ∀ key ∈ Query.keys entry.2, IsPlain key
  flat : isFlat entry.2 = true

theorem isPlain_fieldName {style : ObjectStyle} {name key : String} (hname : IsPlain name)
    (hkey : IsPlain key) : IsPlain (fieldName style name key) := by
  cases style with
  | form => exact hkey
  | deepObject =>
      obtain ⟨hname1, hname2⟩ := hname
      obtain ⟨hkey1, hkey2⟩ := hkey
      constructor <;> simp_all [fieldName]

theorem isPlain_of_mem_entryPairs {style : ObjectStyle} {name : String} {v : Json}
    {p : String × String} (h : Readable (name, v)) (hp : p ∈ entryPairs style name v) :
    IsPlain p.1 := by
  cases v with
  | null => simp [entryPairs] at hp
  | array items =>
      obtain ⟨v, -, rfl⟩ := List.mem_map.mp hp
      exact h.name
  | object fields =>
      obtain ⟨⟨key, v⟩, hfield, rfl⟩ := List.mem_map.mp hp
      exact isPlain_fieldName h.name (h.keys key (List.mem_map_of_mem hfield))
  | bool b | number n | string s =>
      rw [List.mem_singleton.mp hp]
      exact h.name

/-! ### What a query is written as -/

/-- A pair as it is written. -/
def writePair (p : String × String) : List Char × List Char :=
  (p.1.toList, Percent.encode p.2.toList)

theorem separable_writePair {p : String × String} (h : IsPlain p.1) :
    Pairs.Separable (writePair p) where
  equals_name := h.2
  ampersand_name := h.1
  ampersand_value := Percent.not_mem_encode (by decide) _

theorem readPair?_writePair (p : String × String) : readPair? (writePair p) = some p := by
  simp [readPair?, writePair]

theorem mapM_readPair? (ps : List (String × String)) :
    (ps.map writePair).mapM readPair? = some ps :=
  mapM_map_eq_some readPair?_writePair ps

/-- An exploded array is written as one pair for each element. -/
theorem arrayChars_eq_join (style : ArrayStyle) (name : String) (texts : List (List Char)) :
    style.style.arrayChars true false name texts =
      Pairs.join (texts.map fun text => (name.toList, Percent.encode text)) := by
  have helement : style.style.explodedElement false name.toList =
      fun text => Pairs.piece (name.toList, Percent.encode text) := by
    cases style <;> rfl
  rw [Parameter.Style.arrayChars, if_pos rfl, helement, Pairs.join, List.map_map]
  cases style <;> rfl

/-- An object that is exploded or in deep style is written as one pair for each field. -/
theorem objectChars_eq_join {style : ObjectStyle} {explode : Bool}
    (h : style = .deepObject ∨ explode = true) (name : String)
    (entries : List (List Char × List Char)) :
    style.style.objectChars explode false name entries =
      Pairs.join (entries.map fun (key, text) =>
        (style.style.entryName name.toList key, Percent.encode text)) := by
  have hexplode : (explode || style.style = .deepObject) = true := by
    rcases h with rfl | rfl
    · simp [ObjectStyle.style]
    · simp
  rw [Parameter.Style.objectChars, if_pos hexplode, Pairs.join, List.map_map]
  cases style <;> rfl

theorem entryText_scalar {options : QueryOptions} {name : String} {v : Json}
    (hv : v.isScalar = true) (hnull : v ≠ .null) :
    options.entryText name v =
      .ok (Parameter.pair options.allowReserved name.toList v.elementChars) := by
  cases v with
  | null => contradiction
  | array | object => contradiction
  | bool | number | string => rfl

theorem entryPairs_scalar {style : ObjectStyle} {name : String} {v : Json}
    (hv : v.isScalar = true) (hnull : v ≠ .null) :
    entryPairs style name v = [(name, valueText v)] := by
  cases v with
  | null => contradiction
  | array | object => contradiction
  | bool | number | string => rfl

theorem toList_fieldName (style : ObjectStyle) (name key : String) :
    (fieldName style name key).toList = style.style.entryName name.toList key.toList := by
  cases style <;> simp [fieldName, ObjectStyle.style, Parameter.Style.entryName]

section

variable {options : QueryOptions} (hreserved : options.allowReserved = false)
  (harrays : options.explodeArrays = true)
  (hobjects : options.objectStyle = .deepObject ∨ options.explodeObjects = true)

include hreserved harrays hobjects

/-- Each entry is written as its pairs. -/
theorem entryText_eq_join {name : String} {v : Json} (hv : isFlat v = true) :
    options.entryText name v =
      .ok (Pairs.join ((entryPairs options.objectStyle name v).map writePair)) := by
  cases v with
  | null => rfl
  | array items =>
      have hitems : items.all Json.isScalar = true := hv
      rw [QueryOptions.entryText, Parameter.Style.array_eq, if_pos hitems, hreserved, harrays,
        arrayChars_eq_join, entryPairs, List.map_map, List.map_map]
      rfl
  | object fields =>
      have hfields : fields.all (·.2.isScalar) = true := hv
      rw [QueryOptions.entryText, Parameter.Style.object_eq, if_pos hfields, hreserved,
        objectChars_eq_join hobjects, entryPairs, Parameter.entryChars, List.map_map, List.map_map]
      simp only [Function.comp_def, writePair, toList_fieldName]
      rfl
  | bool b | number n | string s =>
      rw [entryText_scalar rfl (by simp), entryPairs_scalar rfl (by simp), List.map_singleton,
        Pairs.join_singleton, hreserved]
      rfl

theorem mapM_entryText {query : Entries Json} (hquery : ∀ entry ∈ query, isFlat entry.2 = true) :
    (query.mapM fun (name, v) => options.entryText name v) =
      .ok (query.map fun (name, v) =>
        Pairs.join ((entryPairs options.objectStyle name v).map writePair)) := by
  apply mapM_eq_ok
  intro entry hentry
  exact entryText_eq_join hreserved harrays hobjects (hquery entry hentry)

/-- A query is written as its pairs, joined by ampersands. -/
theorem serialize_eq_join {query : Entries Json} (hquery : ∀ entry ∈ query, isFlat entry.2 = true) :
    options.serialize query =
      .ok (String.ofList (Pairs.join ((pairs options.objectStyle query).map writePair))) := by
  have hgroups : (query.map fun (name, v) =>
      Pairs.join ((entryPairs options.objectStyle name v).map writePair)) =
      (query.map fun (name, v) => (entryPairs options.objectStyle name v).map writePair).map
        Pairs.join := by
    rw [List.map_map]
    rfl
  rw [QueryOptions.serialize, mapM_entryText hreserved harrays hobjects hquery, hgroups]
  simp only [bind, Except.bind, pure, Except.pure, Pairs.intercalate_filter_join]
  rw [pairs, List.map_flatMap, List.flatMap_def]

end

/-- With arrays and objects exploded and reserved characters encoded, a query whose names hold no
separators is written, and exactly its names and texts are read from what was written. -/
theorem serialize_reads_back (options : QueryOptions) (query : Entries Json)
    (hreserved : options.allowReserved = false) (harrays : options.explodeArrays = true)
    (hobjects : options.objectStyle = .deepObject ∨ options.explodeObjects = true)
    (hquery : ∀ entry ∈ query, Readable entry) :
    ∃ search, options.serialize query = .ok search ∧
      (pairs options.objectStyle query = [] → search = "") ∧
      (pairs options.objectStyle query ≠ [] →
        read? search = some (pairs options.objectStyle query)) := by
  refine ⟨_, serialize_eq_join hreserved harrays hobjects fun entry h => (hquery entry h).flat,
    ?_, ?_⟩
  · intro hpairs
    rw [hpairs]
    rfl
  · intro hpairs
    have hseparable : ∀ p ∈ (pairs options.objectStyle query).map writePair,
        Pairs.Separable p := by
      intro p hp
      obtain ⟨q, hq, rfl⟩ := List.mem_map.mp hp
      obtain ⟨entry, hentry, hmem⟩ := List.mem_flatMap.mp hq
      exact separable_writePair (isPlain_of_mem_entryPairs (hquery entry hentry) hmem)
    rw [read?, String.toList_ofList, Pairs.split?_join (by simpa using hpairs) hseparable]
    exact mapM_readPair? _

/-- Separators in a text, a null, empty texts, an array without elements and an object. -/
def mixedQuery : Entries Json :=
  [("q", .string "a&b=%ü"), ("skip", .null), ("tags", .array [.string "", .null]),
    ("none", .array []), ("filter", .object [("on", .bool true)])]

theorem serialize_reads_back_mixedQuery :
    ∃ search, ({ arrayStyle := .pipeDelimited } : QueryOptions).serialize mixedQuery = .ok search ∧
      read? search =
        some [("q", "a&b=%ü"), ("tags", ""), ("tags", ""), ("filter[on]", "true")] := by
  have hreadable : ∀ entry ∈ mixedQuery, Readable entry := by
    simp only [mixedQuery, List.forall_mem_cons, List.not_mem_nil, false_implies, implies_true,
      and_true]
    refine ⟨⟨?_, ?_, rfl⟩, ⟨?_, ?_, rfl⟩, ⟨?_, ?_, rfl⟩, ⟨?_, ?_, rfl⟩, ⟨?_, ?_, rfl⟩⟩ <;>
      simp [IsPlain, keys]
  obtain ⟨search, hsearch, -, hread⟩ :=
    serialize_reads_back { arrayStyle := .pipeDelimited } mixedQuery rfl rfl (.inl rfl) hreadable
  exact ⟨search, hsearch, hread (by simp [pairs, mixedQuery, entryPairs])⟩

end ApiClient.Query
