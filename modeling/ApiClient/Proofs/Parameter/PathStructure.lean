import ApiClient.Proofs.Except
import ApiClient.Proofs.Parameter.Names
import ApiClient.Proofs.Parameter.Substitution

/-!
What values do to the structure of a URL. Slashes, question marks and number signs are encoded in
the values that are put into a path, but not in the keys of objects. So substitution brings along
just those that the keys have.
-/

namespace ApiClient.Parameter

/-- The characters that part the segments of a path, its query and its fragment. -/
def separators : List Char := ['/', '?', '#']

theorem forall_mem_separators {p : Char → Prop} :
    (∀ c ∈ separators, p c) ↔ p '/' ∧ p '?' ∧ p '#' := by
  simp [separators]

/-- The keys that a template puts into a path. -/
def Template.keys (t : Template) (path : Entries Json) : List (List Char) :=
  match Entries.find? t.name path with
  | some (.object entries) => entries.map (·.1.toList)
  | _ => []

def Segment.keys (path : Entries Json) : Segment → List (List Char)
  | .char _ => []
  | .template inner => (Template.parse inner).keys path

/-- The keys that substitution puts into a URL, in order. -/
def insertedKeys (path : Entries Json) (url : List Char) : List (List Char) :=
  (segments url).flatMap (Segment.keys path)

/-! ### Templates -/

theorem mem_of_mem_name_parse {c : Char} {inner : List Char}
    (h : c ∈ (Template.parse inner).name.toList) : c ∈ inner := by
  have hinner : ∀ d ∈ if inner.getLast? = some '*' then inner.dropLast else inner, d ∈ inner := by
    intro d hd
    split at hd
    · exact (List.dropLast_sublist inner).subset hd
    · exact hd
  unfold Template.parse at h
  dsimp only at h
  split at h
  case h_1 name heq =>
    rw [String.toList_ofList] at h
    exact hinner c (heq ▸ List.mem_cons_of_mem _ h)
  case h_2 name heq =>
    rw [String.toList_ofList] at h
    exact hinner c (heq ▸ List.mem_cons_of_mem _ h)
  case h_3 =>
    rw [String.toList_ofList] at h
    exact hinner c h

section

variable {c : Char} (hc : isMark c = false)

include hc

/-- Of an array only the name of its template can bring a character along. -/
theorem count_arrayChars_eq_zero {name : String} (hname : c ∉ name.toList) (style : Style)
    (explode : Bool) (texts : List (List Char)) :
    (style.arrayChars explode false name texts).count c = 0 := by
  rw [style.count_arrayChars explode hc, List.count_eq_zero]
  intro hmem
  obtain ⟨written, hwritten, hmem⟩ := List.mem_flatten.mp hmem
  have hwritten : written = name.toList := by
    unfold Style.arrayNames at hwritten
    split at hwritten <;> grind
  exact hname (hwritten ▸ hmem)

/-- Of an object the name of its template and its keys can. -/
theorem count_objectChars_eq {name : String} (hname : c ∉ name.toList) {style : Style}
    (hstyle : style.IsPathStyle) (explode : Bool) (entries : List (List Char × List Char)) :
    (style.objectChars explode false name entries).count c =
      (entries.map (·.1)).flatten.count c := by
  have hhead : (style.headNames name.toList).flatten.count c = 0 := by
    cases hstyle <;> simp [Style.headNames, List.count_eq_zero.mpr hname]
  have hentry : style.entryName name.toList = id := by
    cases hstyle <;> rfl
  rw [style.count_objectChars explode hc, Style.objectNames]
  split
  case isTrue => rw [hentry]; rfl
  case isFalse => rw [List.flatten_append, List.count_append, hhead, Nat.zero_add]

theorem count_scalar_eq_zero {name : String} (hname : c ∉ name.toList) (style : Style)
    (text : List Char) : (style.scalar name text).count c = 0 := by
  unfold Style.scalar
  split
  case h_1 =>
    rw [List.count_cons_of_ne (ne_of_isMark hc (by decide)), count_pair hc]
    exact List.count_eq_zero.mpr hname
  all_goals exact count_encode hc _

/-- A template is replaced by a text with the characters of the keys that it puts in. -/
theorem count_expand_template {t : Template} (hname : c ∉ t.name.toList)
    (hstyle : t.style.IsPathStyle) {path : Entries Json} {text : List Char}
    (h : t.expand path = .ok (some text)) : text.count c = (t.keys path).flatten.count c := by
  unfold Template.expand at h
  unfold Template.keys
  cases hvalue : Entries.find? t.name path with
  | none => simp [hvalue] at h
  | some v =>
      rw [hvalue] at h
      cases v with
      | null => cases h
      | bool | number | string =>
          cases h
          exact count_scalar_eq_zero hc hname t.style _
      | array items =>
          obtain ⟨chars, harray, htext⟩ := map_eq_ok_iff.mp h
          obtain rfl := Option.some.inj htext
          rw [Style.array_eq] at harray
          split at harray
          case isTrue =>
            cases harray
            exact count_arrayChars_eq_zero hc hname t.style t.explode _
          case isFalse => cases harray
      | object entries =>
          obtain ⟨chars, hobject, htext⟩ := map_eq_ok_iff.mp h
          obtain rfl := Option.some.inj htext
          rw [Style.object_eq] at hobject
          split at hobject
          case isTrue =>
            cases hobject
            rw [count_objectChars_eq hc hname hstyle, entryChars, List.map_map]
            rfl
          case isFalse => cases hobject

/-- A segment without the character keeps none but what its keys bring along. -/
theorem count_expand_segment (hbrace : isBrace c = false) {path : Entries Json}
    {segment : Segment} (hsegment : ∀ inner, segment = .template inner → c ∉ inner)
    {text : List Char} (h : segment.expand path = .ok text) :
    text.count c = segment.text.count c + (segment.keys path).flatten.count c := by
  cases segment with
  | char d =>
      cases h
      rfl
  | template inner =>
      have hinner : c ∉ inner := hsegment inner rfl
      have htext : (Segment.template inner).text.count c = 0 := by
        rw [List.count_eq_zero, Segment.text]
        simp only [isBrace, Bool.or_eq_false_iff, decide_eq_false_iff_not] at hbrace
        simp [hinner, hbrace.1, hbrace.2]
      rw [htext, Nat.zero_add, Segment.keys]
      obtain ⟨value, hvalue, h⟩ := bind_eq_ok_iff.mp h
      cases h
      cases value with
      | none =>
          -- a template without a value stays, and then has no keys either
          have hkeys : (Template.parse inner).keys path = [] := by
            unfold Template.keys
            rcases expand_eq_none_iff.mp hvalue with hnone | hnull
            · rw [hnone]
            · rw [hnull]
          rw [hkeys]
          exact htext
      | some text =>
          exact count_expand_template hc (mt mem_of_mem_name_parse hinner)
            (isPathStyle_parse inner) hvalue

/-! ### URLs -/

theorem count_expandAll (hbrace : isBrace c = false) {path : Entries Json}
    {segs : List Segment} (hsegs : ∀ inner, .template inner ∈ segs → c ∉ inner)
    {text : List Char} (h : expandAll path segs = .ok text) :
    text.count c =
      (segs.flatMap Segment.text).count c + (segs.flatMap (Segment.keys path)).flatten.count c := by
  induction segs generalizing text with
  | nil =>
      cases h
      rfl
  | cons segment segs ih =>
      rw [expandAll_cons] at h
      obtain ⟨first, hfirst, h⟩ := bind_eq_ok_iff.mp h
      obtain ⟨rest, hrest, rfl⟩ := map_eq_ok_iff.mp h
      have hcount := count_expand_segment hc hbrace
        (fun inner heq => hsegs inner (heq ▸ List.mem_cons_self)) hfirst
      have hlater := ih (fun inner hinner => hsegs inner (List.mem_cons_of_mem _ hinner)) hrest
      rw [List.count_append, hcount, hlater, List.flatMap_cons, List.flatMap_cons,
        List.flatten_append, List.count_append, List.count_append]
      omega

end

theorem mem_insertedKeys_iff {path : Entries Json} {url key : List Char} :
    key ∈ insertedKeys path url ↔
      ∃ before inner after, Occurrence url before inner after ∧
        key ∈ (Template.parse inner).keys path := by
  simp only [insertedKeys, List.mem_flatMap]
  constructor
  · rintro ⟨segment, hsegment, hkey⟩
    cases segment with
    | char c => cases hkey
    | template inner =>
        obtain ⟨before, after, hoccurs⟩ := template_mem_segments_iff.mp hsegment
        exact ⟨before, inner, after, hoccurs, hkey⟩
  · rintro ⟨before, inner, after, hoccurs, hkey⟩
    exact ⟨.template inner, template_mem_segments_iff.mpr ⟨before, after, hoccurs⟩, hkey⟩

/-- Substitution brings along the separators in the keys of the objects that it puts in, and no
others. So the URL keeps its structure exactly when no such key has a separator. -/
theorem substitute_keeps_structure_iff (path : Entries Json) (url result : String)
    (htemplates : ∀ before inner after, Occurrence url.toList before inner after →
      ∀ c ∈ separators, c ∉ inner)
    (hresult : substitute path url = .ok result) :
    (∀ c ∈ separators, result.toList.count c =
        url.toList.count c + (insertedKeys path url.toList).flatten.count c) ∧
      ((∀ c ∈ separators, result.toList.count c = url.toList.count c) ↔
        ∀ before inner after, Occurrence url.toList before inner after →
          ∀ key ∈ (Template.parse inner).keys path, ∀ c ∈ separators, c ∉ key) := by
  have hchars : expandAll path (segments url.toList) = .ok result.toList := by
    obtain ⟨text, htext, rfl⟩ := map_eq_ok_iff.mp hresult
    rw [String.toList_ofList, ← substituteChars_eq_expandAll, htext]
  have hsegs : ∀ c ∈ separators, ∀ inner, .template inner ∈ segments url.toList → c ∉ inner := by
    intro c hc inner hinner
    obtain ⟨before, after, hoccurs⟩ := template_mem_segments_iff.mp hinner
    exact htemplates before inner after hoccurs c hc
  have hcount : ∀ c ∈ separators, result.toList.count c =
      url.toList.count c + (insertedKeys path url.toList).flatten.count c := by
    intro c hc
    have hmark : isMark c = false ∧ isBrace c = false := by
      revert c
      rw [forall_mem_separators]
      decide
    rw [count_expandAll hmark.1 hmark.2 (hsegs c hc) hchars, (reading_segments url.toList).text,
      insertedKeys]
  refine ⟨hcount, ?_⟩
  constructor
  · intro hsame before inner after hoccurs key hkey c hc hmem
    have hinserted : (insertedKeys path url.toList).flatten.count c = 0 := by
      have hresult := hcount c hc
      rw [hsame c hc] at hresult
      omega
    exact List.count_eq_zero.mp hinserted (List.mem_flatten.mpr
      ⟨key, mem_insertedKeys_iff.mpr ⟨before, inner, after, hoccurs, hkey⟩, hmem⟩)
  · intro hkeys c hc
    have hinserted : (insertedKeys path url.toList).flatten.count c = 0 := by
      rw [List.count_eq_zero]
      intro hmem
      obtain ⟨key, hkey, hmem⟩ := List.mem_flatten.mp hmem
      obtain ⟨before, inner, after, hoccurs, hkey⟩ := mem_insertedKeys_iff.mp hkey
      exact hkeys before inner after hoccurs key hkey c hc hmem
    rw [hcount c hc, hinserted, Nat.add_zero]

/-- An object with a slash in a key. -/
def slashKey : Entries Json := [("point", .object [("a/b", .string "c/d")])]

theorem substitute_keeps_structure_iff_slashKey :
    substitute slashKey "/pets/\x7bpoint*\x7d" = .ok "/pets/a/b=c%2Fd" ∧
      ¬∀ c ∈ separators,
        "/pets/a/b=c%2Fd".toList.count c = "/pets/\x7bpoint*\x7d".toList.count c := by
  have hinner : IsInner "point*".toList := by
    refine ⟨by decide, ?_⟩
    have hall : ("point*".toList.all fun c => isBrace c = false) = true := by decide
    simpa only [List.all_eq_true, decide_eq_true_eq] using hall
  have hsegments : segments "/pets/\x7bpoint*\x7d".toList =
      "/pets/".toList.map .char ++ [.template "point*".toList] := by
    have happend : "/pets/\x7bpoint*\x7d".toList =
        "/pets/".toList ++ '\x7b' :: ("point*".toList ++ '\x7d' :: []) := by
      decide
    rw [happend, segments_append (by decide), segments_template hinner, segments]
  have htemplates : ∀ before inner after,
      Occurrence "/pets/\x7bpoint*\x7d".toList before inner after → inner = "point*".toList := by
    intro before inner after hoccurs
    have hmem := template_mem_segments_iff.mpr ⟨before, after, hoccurs⟩
    rw [hsegments] at hmem
    simpa using hmem
  have hresult : substitute slashKey "/pets/\x7bpoint*\x7d" = .ok "/pets/a/b=c%2Fd" := by
    rw [substitute, substituteChars_eq_expandAll, hsegments]
    rfl
  obtain ⟨before, after, hoccurs⟩ : ∃ before after,
      Occurrence "/pets/\x7bpoint*\x7d".toList before "point*".toList after := by
    rw [← template_mem_segments_iff, hsegments]
    exact List.mem_append_right _ List.mem_cons_self
  obtain ⟨-, hkeeps⟩ := substitute_keeps_structure_iff slashKey _ _
    (fun before inner after hoccurs => by
      rw [htemplates before inner after hoccurs, forall_mem_separators]
      decide) hresult
  refine ⟨hresult, ?_⟩
  rw [hkeeps]
  intro hkeys
  exact hkeys before _ after hoccurs "a/b".toList (by decide) '/' (by decide) (by decide)

end ApiClient.Parameter
