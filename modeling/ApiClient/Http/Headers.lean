import ApiClient.Http.Method
import ApiClient.Text.Utf8

/-!
Header names, header values and header maps. Names are kept in lower case. A map is read name by
name: `values` lists what a name has, in order, and two maps that agree in this are equal.
-/

namespace ApiClient

/-- A header name in lower case. -/
structure HeaderName where
  text : String
  deriving DecidableEq, Repr

namespace HeaderName

def contentType : HeaderName := ⟨"content-type"⟩
def contentLength : HeaderName := ⟨"content-length"⟩

def maxLength : Nat := 65535

/-- A name from its text in either case: token characters only, and at least one. -/
def parse? (text : String) : Option HeaderName :=
  let chars := text.toList
  if !chars.isEmpty && chars.all isTokenChar && chars.length ≤ maxLength then
    some ⟨String.ofList (chars.map Char.toLower)⟩
  else none

end HeaderName

/-- The bytes of a header value. -/
abbrev HeaderValue := Bytes

namespace HeaderValue

/-- Tabs and all bytes but controls may stand in a value. -/
def allowed (b : UInt8) : Bool := b = 0x09 || (0x20 ≤ b && b ≠ 0x7F)

def ofBytes? (bytes : Bytes) : Option HeaderValue :=
  if bytes.all allowed then some bytes else none

def ofText? (text : String) : Option HeaderValue := ofBytes? (utf8 text)

/-- Bytes of values that are read as text. -/
def readable (b : UInt8) : Bool := b = 0x09 || (0x20 ≤ b && b < 0x7F)

def toText? (value : HeaderValue) : Option String :=
  if value.all readable then some (String.ofList (value.map fun b => Char.ofNat b.toNat)) else none

end HeaderValue

abbrev HeaderEntry := HeaderName × HeaderValue

instance : LE HeaderName := ⟨fun a b => a.text ≤ b.text⟩

instance (a b : HeaderName) : Decidable (a ≤ b) := inferInstanceAs (Decidable (a.text ≤ b.text))

theorem HeaderName.le_antisymm {a b : HeaderName} (h : a ≤ b) (h' : b ≤ a) : a = b := by
  cases a
  cases b
  exact congrArg _ (String.le_antisymm h h')

def Ordered (entries : List HeaderEntry) : Prop := entries.Pairwise fun a b => a.1 ≤ b.1

/-- Headers in the order of their names. The values of one name stay in the order in which they
came, so a map is known by the values of each name. -/
structure Headers where
  entries : List HeaderEntry
  ordered : Ordered entries
  deriving DecidableEq, Repr

namespace Headers

def empty : Headers := ⟨[], .nil⟩

instance : EmptyCollection Headers := ⟨empty⟩

def values (name : HeaderName) (headers : Headers) : List HeaderValue :=
  (headers.entries.filter (·.1 = name)).map (·.2)

def first? (name : HeaderName) (headers : Headers) : Option HeaderValue :=
  (headers.values name).head?

/-- Puts an entry behind those whose names do not come after its own. -/
def place (entry : HeaderEntry) : List HeaderEntry → List HeaderEntry
  | [] => [entry]
  | e :: rest => if e.1 ≤ entry.1 then e :: place entry rest else entry :: e :: rest

theorem mem_place {x entry : HeaderEntry} {entries : List HeaderEntry} :
    x ∈ place entry entries ↔ x = entry ∨ x ∈ entries := by
  fun_induction place entry entries <;> grind

theorem ordered_place {entries : List HeaderEntry} (h : Ordered entries) (entry : HeaderEntry) :
    Ordered (place entry entries) := by
  fun_induction place entry entries with
  | case1 => exact List.pairwise_singleton _ _
  | case2 e rest le ih =>
    have ⟨head, tail⟩ := List.pairwise_cons.1 h
    refine List.pairwise_cons.2 ⟨fun x hx => ?_, ih tail⟩
    rcases mem_place.1 hx with rfl | hx
    · exact le
    · exact head x hx
  | case3 e rest nle =>
    have ⟨head, _⟩ := List.pairwise_cons.1 h
    have le : entry.1 ≤ e.1 := (String.le_total e.1.text entry.1.text).resolve_left nle
    refine List.pairwise_cons.2 ⟨fun x hx => ?_, h⟩
    rcases List.mem_cons.1 hx with rfl | hx
    · exact le
    · exact String.le_trans le (head x hx)

def append (name : HeaderName) (value : HeaderValue) (headers : Headers) : Headers :=
  ⟨place (name, value) headers.entries, ordered_place headers.ordered _⟩

def appendAll (name : HeaderName) (values : List HeaderValue) (headers : Headers) : Headers :=
  values.foldl (fun h value => append name value h) headers

def ofList (entries : List HeaderEntry) : Headers :=
  entries.foldl (fun h (name, value) => append name value h) empty

def remove (name : HeaderName) (headers : Headers) : Headers :=
  ⟨headers.entries.filter (·.1 ≠ name), List.Pairwise.filter _ headers.ordered⟩

/-- Gives a name one value in the place of those it had. -/
def insert (name : HeaderName) (value : HeaderValue) (headers : Headers) : Headers :=
  append name value (remove name headers)

def names (headers : Headers) : List HeaderName := (headers.entries.map (·.1)).eraseDups

/-- Each name of `overrides` has the values it has there, every other name those of `base`. -/
def merge (base overrides : Headers) : Headers :=
  overrides.names.foldl
    (fun merged name => appendAll name (overrides.values name) (remove name merged)) base

/-! ### Values -/

@[simp] theorem values_empty (name : HeaderName) : values name empty = [] := rfl

theorem filter_place (name : HeaderName) (entry : HeaderEntry) {entries : List HeaderEntry}
    (h : Ordered entries) :
    (place entry entries).filter (·.1 = name)
      = entries.filter (·.1 = name) ++ if entry.1 = name then [entry] else [] := by
  fun_induction place entry entries with
  | case1 => by_cases e : entry.1 = name <;> simp [e]
  | case2 e rest _ ih =>
    have tail := (List.pairwise_cons.1 h).2
    by_cases e' : e.1 = name <;> simp [e', ih tail]
  | case3 e rest nle =>
    by_cases e' : entry.1 = name
    · subst e'
      have none : (e :: rest).filter (·.1 = entry.1) = [] := by
        refine List.filter_eq_nil_iff.2 fun x hx => ?_
        have le : e.1 ≤ x.1 := by
          rcases List.mem_cons.1 hx with rfl | hx
          · exact String.le_refl _
          · exact (List.pairwise_cons.1 h).1 x hx
        intro eq
        exact nle (of_decide_eq_true eq ▸ le)
      rw [List.filter_cons_of_pos (by simp), none]
      simp
    · rw [List.filter_cons_of_neg (by simpa using e')]
      simp [e']

@[simp] theorem values_append (name other : HeaderName) (value : HeaderValue) (headers : Headers) :
    values name (append other value headers)
      = values name headers ++ if other = name then [value] else [] := by
  unfold values append
  rw [filter_place name _ headers.ordered]
  by_cases h : other = name <;> simp [h]

@[simp] theorem values_appendAll (name other : HeaderName) (vs : List HeaderValue)
    (headers : Headers) :
    values name (appendAll other vs headers)
      = values name headers ++ if other = name then vs else [] := by
  induction vs generalizing headers with
  | nil => simp [appendAll]
  | cons v vs ih =>
    have step : appendAll other (v :: vs) headers
      = appendAll other vs (append other v headers) := rfl
    rw [step, ih, values_append]
    by_cases h : other = name <;> simp [h]

@[simp] theorem values_remove (name other : HeaderName) (headers : Headers) :
    values name (remove other headers) = if other = name then [] else values name headers := by
  by_cases h : other = name
  · subst h
    simp [values, remove]
  · simp only [values, remove, List.filter_filter, h, if_false]
    congr 2
    funext entry
    by_cases e : entry.1 = name <;> simp [e, Ne.symm h]

@[simp] theorem values_insert (name other : HeaderName) (value : HeaderValue) (headers : Headers) :
    values name (insert other value headers)
      = if other = name then [value] else values name headers := by
  by_cases h : other = name <;> simp [insert, h]

/-- The first name of ordered entries comes before every name that has values. -/
theorem le_of_filter_ne_nil {e x : HeaderEntry} {rest : List HeaderEntry}
    (h : Ordered (e :: rest)) (hx : (e :: rest).filter (·.1 = x.1) ≠ []) : e.1 ≤ x.1 := by
  obtain ⟨y, hy⟩ := List.exists_mem_of_ne_nil _ hx
  have ⟨mem, eq⟩ := List.mem_filter.1 hy
  have eq : y.1 = x.1 := of_decide_eq_true eq
  rcases List.mem_cons.1 mem with rfl | mem
  · exact eq ▸ String.le_refl _
  · exact eq ▸ (List.pairwise_cons.1 h).1 y mem

theorem eq_of_filter_eq {a b : List HeaderEntry} (ha : Ordered a) (hb : Ordered b)
    (h : ∀ name, (a.filter (·.1 = name)).map (·.2) = (b.filter (·.1 = name)).map (·.2)) :
    a = b := by
  induction a generalizing b with
  | nil =>
    cases b with
    | nil => rfl
    | cons e rest => simpa using h e.1
  | cons e rest ih =>
    cases b with
    | nil => simpa using h e.1
    | cons e' rest' =>
      have le : e.1 ≤ e'.1 := le_of_filter_ne_nil ha fun none => by simpa [none] using h e'.1
      have le' : e'.1 ≤ e.1 := le_of_filter_ne_nil hb fun none => by simpa [none] using h e.1
      have name : e.1 = e'.1 := HeaderName.le_antisymm le le'
      have value : e.2 = e'.2 := by
        have first := h e.1
        simp [name] at first
        exact first.1
      have eq : e = e' := Prod.ext name value
      subst eq
      refine congrArg _ (ih (List.pairwise_cons.1 ha).2 (List.pairwise_cons.1 hb).2 fun n => ?_)
      have tail := h n
      by_cases en : e.1 = n <;> simpa [en] using tail

/-- Two maps with the same values for each name are the same. -/
theorem ext_values {a b : Headers} (h : ∀ name, a.values name = b.values name) : a = b := by
  obtain ⟨entries, ordered⟩ := a
  obtain ⟨entries', ordered'⟩ := b
  have eq : entries = entries' := eq_of_filter_eq ordered ordered' h
  subst eq
  rfl

end Headers

end ApiClient
