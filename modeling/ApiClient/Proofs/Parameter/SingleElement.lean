import ApiClient.Proofs.Parameter.QueryReading
import ApiClient.Proofs.Parameter.Substitution

/-!
Scalars and the arrays that hold one of them. A scalar other than null is written as the array is
whose only element it is: in a query whatever the options are, and in a path for every template. So
no other entry of a query or a path has to be looked at to put one in the place of the other.
-/

namespace ApiClient

/-! ### Lookup -/

theorem Entries.find?_append {α : Type} (name : String) (entries more : Entries α) :
    Entries.find? name (entries ++ more) =
      (Entries.find? name entries).or (Entries.find? name more) := by
  induction entries with
  | nil => rfl
  | cons entry entries ih =>
      rw [List.cons_append, Entries.find?, Entries.find?, ih]
      split <;> rfl

namespace Parameter

/-! ### One text -/

/-- An array of a query with one text is a pair, exploded or not, whatever its style is. -/
theorem arrayChars_singleton (style : ArrayStyle) (explode allowReserved : Bool) (name : String)
    (text : List Char) :
    style.style.arrayChars explode allowReserved name [text] =
      pair allowReserved name.toList text := by
  rw [Style.arrayChars]
  cases style <;> cases explode <;>
    simp [ArrayStyle.style, Style.explodedHead, Style.explodedElement, Style.arrayHead, pair]

/-- A dot is not escaped, so it does not matter that a scalar in label style is encoded with it. -/
theorem encode_dot (text : List Char) : encode false ('.' :: text) = '.' :: encode false text := rfl

/-- An array of a path with one text is that text as a scalar, exploded or not. -/
theorem Style.IsPathStyle.arrayChars_singleton {style : Style} (h : style.IsPathStyle)
    (explode : Bool) (name : String) (text : List Char) :
    style.arrayChars explode false name [text] = style.scalar name text := by
  rw [Style.arrayChars]
  cases h <;> cases explode <;>
    simp [Style.explodedHead, Style.explodedElement, Style.arrayHead, Style.scalar, encode_dot,
      pair]

/-! ### One value -/

section

variable {v : Json} (hscalar : v.isScalar = true) (hnull : v ≠ .null)

include hscalar

theorem array_singleton (style : Style) (explode allowReserved : Bool) (name : String) :
    style.array explode allowReserved name [v] =
      .ok (style.arrayChars explode allowReserved name [v.elementChars]) := by
  rw [Style.array_eq, if_pos (by simpa using hscalar)]
  rfl

theorem entryText_singleton (options : QueryOptions) (name : String) :
    options.entryText name (.array [v]) =
      .ok (pair options.allowReserved name.toList v.elementChars) := by
  rw [QueryOptions.entryText, array_singleton hscalar, arrayChars_singleton]

theorem expand_singleton {inner : List Char} {path : Entries Json}
    (h : Entries.find? (Template.parse inner).name path = some (.array [v])) :
    (Template.parse inner).expand path =
      .ok (some ((Template.parse inner).style.scalar (Template.parse inner).name
        v.elementChars)) := by
  rw [Template.expand, h]
  dsimp only
  rw [array_singleton hscalar, (isPathStyle_parse inner).arrayChars_singleton]
  rfl

include hnull

theorem expand_scalar {t : Template} {path : Entries Json}
    (h : Entries.find? t.name path = some v) :
    t.expand path = .ok (some (t.style.scalar t.name v.elementChars)) := by
  rw [Template.expand, h]
  cases v with
  | null => contradiction
  | array | object => cases hscalar
  | bool | number | string => rfl

end

/-- A query of one entry that has a text is this text. -/
theorem serialize_singleton {options : QueryOptions} {name : String} {v : Json} {text : List Char}
    (h : options.entryText name v = .ok text) (hne : text ≠ []) :
    options.serialize [(name, v)] = .ok (String.ofList text) := by
  have hkept : ([text].filter (!·.isEmpty)) = [text] := List.filter_cons_of_pos (by simpa using hne)
  rw [QueryOptions.serialize, List.mapM_cons, List.mapM_nil]
  dsimp only
  rw [h]
  show Except.ok (String.ofList (List.intercalate ['&'] ([text].filter (!·.isEmpty)))) = _
  rw [hkept, List.intercalate_singleton]

/-! ### In the place of one another -/

theorem expand_congr {t : Template} {path other : Entries Json}
    (h : Entries.find? t.name path = Entries.find? t.name other) :
    t.expand path = t.expand other := by
  rw [Template.expand, Template.expand, h]

/-- A URL sees of a path only what its templates become. -/
theorem substitute_congr {path other : Entries Json}
    (h : ∀ inner, (Template.parse inner).expand path = (Template.parse inner).expand other)
    (url : String) : substitute path url = substitute other url := by
  have hsegment : Segment.expand path = Segment.expand other := by
    funext segment
    cases segment with
    | char c => rfl
    | template inner => rw [Segment.expand, Segment.expand, h]
  rw [substitute, substitute, substituteChars_eq_expandAll, substituteChars_eq_expandAll,
    expandAll, expandAll, hsegment]

/-- A query string sees of a value only its text. -/
theorem serialize_congr {options : QueryOptions} {name : String} {v w : Json}
    (h : options.entryText name v = options.entryText name w) (before after : Entries Json) :
    options.serialize (before ++ (name, v) :: after) =
      options.serialize (before ++ (name, w) :: after) := by
  rw [QueryOptions.serialize, QueryOptions.serialize, List.mapM_append, List.mapM_append,
    List.mapM_cons, List.mapM_cons]
  dsimp only
  rw [h]

theorem expand_eq_expand_of_singleton {v : Json} (hscalar : v.isScalar = true) (hnull : v ≠ .null)
    (before after : Entries Json) (name : String) (inner : List Char) :
    (Template.parse inner).expand (before ++ (name, v) :: after) =
      (Template.parse inner).expand (before ++ (name, .array [v]) :: after) := by
  have hfind : ∀ w, Entries.find? (Template.parse inner).name (before ++ (name, w) :: after) =
      (Entries.find? (Template.parse inner).name before).or
        (if name == (Template.parse inner).name then some w
          else Entries.find? (Template.parse inner).name after) :=
    fun w => Entries.find?_append _ _ _
  cases hbefore : Entries.find? (Template.parse inner).name before with
  | some u =>
      -- an earlier entry hides both
      apply expand_congr
      rw [hfind, hfind, hbefore]
      rfl
  | none =>
      cases hname : name == (Template.parse inner).name with
      | false =>
          apply expand_congr
          rw [hfind, hfind, hname]
          rfl
      | true =>
          rw [hbefore, hname] at hfind
          rw [expand_scalar hscalar hnull (hfind v), expand_singleton hscalar (hfind (.array [v]))]

/-- A scalar other than null is written as the array is that holds it alone. A query of one entry
with either is the name with the text. A template whose name has either is replaced by the same text.
And among other entries of a query or a path one may stand for the other. -/
theorem scalar_written_as_singleton {v : Json} (hscalar : v.isScalar = true) (hnull : v ≠ .null) :
    (∀ (options : QueryOptions) (name : String),
      let search := String.ofList (pair options.allowReserved name.toList v.elementChars)
      options.serialize [(name, v)] = .ok search ∧
        options.serialize [(name, .array [v])] = .ok search) ∧
    (∀ (inner : List Char) (path other : Entries Json),
      let t := Template.parse inner
      let text := t.style.scalar t.name v.elementChars
      Entries.find? t.name path = some v → Entries.find? t.name other = some (.array [v]) →
        t.expand path = .ok (some text) ∧ t.expand other = .ok (some text)) ∧
    ∀ (before after : Entries Json) (name : String),
      let entries := before ++ (name, v) :: after
      let others := before ++ (name, .array [v]) :: after
      (∀ options : QueryOptions, options.serialize entries = options.serialize others) ∧
        ∀ url, substitute entries url = substitute others url := by
  refine ⟨?_, ?_, ?_⟩
  · intro options name search
    have hpair : pair options.allowReserved name.toList v.elementChars ≠ [] := by simp [pair]
    exact ⟨serialize_singleton (Query.entryText_scalar hscalar hnull) hpair,
      serialize_singleton (entryText_singleton hscalar options name) hpair⟩
  · intro inner path other t text hpath hother
    exact ⟨expand_scalar hscalar hnull hpath, expand_singleton hscalar hother⟩
  · intro before after name entries others
    constructor
    · intro options
      refine serialize_congr ?_ before after
      rw [Query.entryText_scalar hscalar hnull, entryText_singleton hscalar]
    · exact substitute_congr (expand_eq_expand_of_singleton hscalar hnull before after name)

/-- Options that collapse arrays, with a separator that is encoded in texts. -/
def pipeOptions : QueryOptions := { arrayStyle := .pipeDelimited, explodeArrays := false }

theorem scalar_written_as_singleton_pipes :
    (Json.string "a|b").isScalar = true ∧ Json.string "a|b" ≠ .null ∧
      pipeOptions.serialize [("x", .string "a|b")] = .ok "x=a%7Cb" ∧
      pipeOptions.serialize [("x", .array [.string "a|b"])] = .ok "x=a%7Cb" ∧
      (Template.parse ";x*".toList).expand [("x", .array [.string "a|b"])] =
        .ok (some ";x=a%7Cb".toList) ∧
      substitute [("y", .null), ("x", .string "a|b")] "/\x7by\x7d/\x7b.x\x7d" =
        substitute [("y", .null), ("x", .array [.string "a|b"])] "/\x7by\x7d/\x7b.x\x7d" := by
  have hnull : Json.string "a|b" ≠ .null := by simp
  obtain ⟨hquery, htemplate, hplace⟩ := scalar_written_as_singleton (v := .string "a|b") rfl hnull
  have hsearch : String.ofList (pair pipeOptions.allowReserved "x".toList
      (Json.string "a|b").elementChars) = "x=a%7Cb" := by decide
  have htext : Style.matrix.scalar "x" (Json.string "a|b").elementChars = ";x=a%7Cb".toList := by
    decide
  have hfound := htemplate ";x*".toList [("x", .string "a|b")] [("x", .array [.string "a|b"])]
  have hparse : Template.parse ";x*".toList = ⟨"x", .matrix, true⟩ := by decide
  rw [hparse] at hfound
  refine ⟨rfl, hnull, ?_, ?_, ?_, (hplace [("y", .null)] [] "x").2 _⟩
  · rw [← hsearch]
    exact (hquery pipeOptions "x").1
  · rw [← hsearch]
    exact (hquery pipeOptions "x").2
  · rw [hparse, ← htext]
    exact (hfound rfl rfl).2

end Parameter

end ApiClient
