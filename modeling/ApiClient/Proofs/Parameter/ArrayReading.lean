import ApiClient.Proofs.Parameter.Style
import ApiClient.Proofs.Text.Percent
import Mathlib.Data.List.Basic

/-!
Collapsed arrays read back. The elements under one name are encoded and their separator is not, so
the text splits at it into one piece for each element, and each piece decodes to the text of its
element.
-/

namespace ApiClient.Parameter

/-! ### Reading -/

/-- How the elements under one name are told apart: by what stands before them, and by the
character between any two of them. -/
structure Collapsed where
  head : List Char
  separator : Char

/-- All styles but one have such a form. That one puts an escaped blank between elements, which may
as well be a part of them. -/
def Style.collapsed? (style : Style) (name : List Char) : Option Collapsed :=
  match style with
  | .form | .deepObject => some ⟨name ++ ['='], ','⟩
  | .pipeDelimited => some ⟨name ++ ['='], '|'⟩
  | .simple => some ⟨[], ','⟩
  | .label => some ⟨['.'], ','⟩
  | .matrix => some ⟨';' :: name ++ ['='], ','⟩
  | .spaceDelimited => none

/-- Takes off what stands before the elements, splits what is left and decodes the pieces. -/
def Collapsed.read? (form : Collapsed) (text : List Char) : Option (List (List Char)) :=
  (text.dropPrefix? form.head).bind fun rest => (rest.splitOn form.separator).mapM Percent.decode?

/-! ### What is read -/

section

variable {style : Style} {name : List Char} {form : Collapsed}

/-- An encoded text never has the separator in it. -/
theorem isEncodedChar_separator (h : style.collapsed? name = some form) :
    Percent.isEncodedChar form.separator = false := by
  cases style <;> cases h <;> rfl

theorem arrayHead_eq (h : style.collapsed? name = some form) :
    style.arrayHead name = form.head := by
  cases style <;> cases h <;> rfl

theorem collapsedSeparator_eq (h : style.collapsed? name = some form) :
    style.collapsedSeparator = [form.separator] := by
  cases style <;> cases h <;> rfl

end

theorem dropPrefix?_append (head rest : List Char) : (head ++ rest).dropPrefix? head = some rest :=
  List.dropPrefix?_eq_some_iff.mpr ⟨head, rfl, beq_self_eq_true head⟩

/-- Encoded texts are told apart by any character that encoding escapes. -/
theorem decode_splitOn_intercalate {sep : Char} (hsep : Percent.isEncodedChar sep = false)
    {texts : List (List Char)} (hne : texts ≠ []) :
    ((List.intercalate [sep] (texts.map Percent.encode)).splitOn sep).mapM Percent.decode? =
      some texts := by
  have hpieces : ∀ piece ∈ texts.map Percent.encode, sep ∉ piece := by
    intro piece hpiece
    obtain ⟨text, -, rfl⟩ := List.mem_map.mp hpiece
    exact Percent.not_mem_encode hsep text
  rw [List.splitOn_intercalate sep hpieces (by simpa using hne)]
  exact mapM_map_eq_some Percent.decode?_encode texts

theorem read?_arrayChars {style : Style} {name : String} {form : Collapsed}
    (h : style.collapsed? name.toList = some form) {texts : List (List Char)} (hne : texts ≠ []) :
    form.read? (style.arrayChars false false name texts) = some texts := by
  have hchars : style.arrayChars false false name texts =
      form.head ++ List.intercalate [form.separator] (texts.map Percent.encode) := by
    rw [Style.arrayChars, if_neg (by decide), arrayHead_eq h, collapsedSeparator_eq h]
    rfl
  rw [hchars, Collapsed.read?, dropPrefix?_append]
  exact decode_splitOn_intercalate (isEncodedChar_separator h) hne

/-- A collapsed array with elements is written, and exactly the texts of these are read from what
was written. So arrays with different texts are written differently. -/
theorem array_reads_back {style : Style} {name : String} {form : Collapsed} {items : List Json}
    (hform : style.collapsed? name.toList = some form) (hne : items ≠ [])
    (hscalar : ∀ v ∈ items, v.isScalar = true) :
    (∃ text, style.array false false name items = .ok text ∧
      form.read? text = some (items.map Json.elementChars)) ∧
    ∀ others : List Json, others ≠ [] → others.map Json.elementChars ≠ items.map Json.elementChars →
      style.array false false name others ≠ style.array false false name items := by
  have hread : ∀ given : List Json, given ≠ [] →
      form.read? (style.arrayChars false false name (given.map Json.elementChars)) =
        some (given.map Json.elementChars) := by
    intro given hgiven
    exact read?_arrayChars hform (by simpa using hgiven)
  have hitems : style.array false false name items =
      .ok (style.arrayChars false false name (items.map Json.elementChars)) := by
    rw [Style.array_eq, if_pos (List.all_eq_true.mpr hscalar)]
  refine ⟨⟨_, hitems, hread items hne⟩, ?_⟩
  intro others hothers htexts heq
  rw [hitems, Style.array_eq] at heq
  split at heq
  case isFalse => cases heq
  case isTrue =>
    have hothers' := hread others hothers
    rw [Except.ok.inj heq, hread items hne] at hothers'
    exact htexts (Option.some.inj hothers').symm

/-- Separators in the name and in a text, a null, an empty text. -/
theorem array_reads_back_pipes :
    (∃ text, Style.pipeDelimited.array false false "a=|" [.string "b|c,", .null, .bool true] =
        .ok text ∧
      (⟨"a=|=".toList, '|'⟩ : Collapsed).read? text =
        some ["b|c,".toList, [], "true".toList]) ∧
    Style.pipeDelimited.array false false "a=|" [.string "b", .string "c,", .null, .bool true] ≠
      Style.pipeDelimited.array false false "a=|" [.string "b|c,", .null, .bool true] := by
  obtain ⟨hread, hdiffer⟩ := @array_reads_back .pipeDelimited "a=|" _
    [.string "b|c,", .null, .bool true] rfl (by simp) (by decide)
  exact ⟨hread, hdiffer [.string "b", .string "c,", .null, .bool true] (by simp) (by decide)⟩

/-- An escaped blank between elements is not told apart from one in them. -/
example : Style.spaceDelimited.array false false "a" [.string "b c"] =
    Style.spaceDelimited.array false false "a" [.string "b", .string "c"] := rfl

end ApiClient.Parameter
