import ApiClient.Service.Emit

/-!
Documentation as paragraphs. Adding a paragraph is associative, and documentation without lines is
neutral on both sides, so that paragraphs added one after the other are their lines with one empty
line between any two that have lines.
-/

namespace ApiClient.Service

namespace Documentation

theorem isEmpty_iff {d : Documentation} : d.isEmpty = true ↔ d = empty := by
  cases d with
  | mk lines => simp [isEmpty, empty]

theorem lines_ne_nil {d : Documentation} (h : d ≠ empty) : d.lines ≠ [] :=
  fun hlines => h (congrArg mk hlines)

theorem pushParagraph_empty (d : Documentation) : d.pushParagraph empty = d := rfl

theorem empty_pushParagraph (p : Documentation) : empty.pushParagraph p = p := by
  rw [pushParagraph]
  split
  case isTrue hp => exact (isEmpty_iff.mp hp).symm
  case isFalse => rfl

theorem pushParagraph_of_ne {d p : Documentation} (hd : d ≠ empty) (hp : p ≠ empty) :
    d.pushParagraph p = ⟨d.lines ++ [""] ++ p.lines⟩ := by
  rw [pushParagraph, if_neg (mt isEmpty_iff.mp hp), if_neg (mt isEmpty_iff.mp hd)]

theorem pushParagraph_ne_empty {d p : Documentation} (hd : d ≠ empty) (hp : p ≠ empty) :
    d.pushParagraph p ≠ empty := by
  rw [pushParagraph_of_ne hd hp]
  simp [empty]

theorem pushParagraph_assoc (a b c : Documentation) :
    a.pushParagraph (b.pushParagraph c) = (a.pushParagraph b).pushParagraph c := by
  by_cases ha : a = empty
  · rw [ha, empty_pushParagraph, empty_pushParagraph]
  by_cases hb : b = empty
  · rw [hb, empty_pushParagraph, pushParagraph_empty]
  by_cases hc : c = empty
  · rw [hc, pushParagraph_empty, pushParagraph_empty]
  rw [pushParagraph_of_ne ha (pushParagraph_ne_empty hb hc), pushParagraph_of_ne hb hc,
    pushParagraph_of_ne (pushParagraph_ne_empty ha hb) hc, pushParagraph_of_ne ha hb]
  simp

/-- The lines of those paragraphs that have lines, with one empty line between neighbours. -/
def joined (ps : List Documentation) : List String :=
  [""].intercalate ((ps.map lines).filter fun ls => !ls.isEmpty)

theorem joined_empty_cons (ps : List Documentation) : joined (empty :: ps) = joined ps := rfl

theorem joined_pushParagraph_cons (d p : Documentation) (ps : List Documentation) :
    joined (d.pushParagraph p :: ps) = joined (d :: p :: ps) := by
  by_cases hd : d = empty
  · rw [hd, empty_pushParagraph, joined_empty_cons]
  by_cases hp : p = empty
  · rw [hp, pushParagraph_empty]
    simp [joined, List.filter_cons, empty]
  rw [pushParagraph_of_ne hd hp]
  have hlines := lines_ne_nil hd
  have hlines' := lines_ne_nil hp
  cases hrest : (ps.map lines).filter (fun ls => !ls.isEmpty) <;>
    simp [joined, hlines, hlines', hrest]

/-- Paragraphs that are added one after the other to what is there already. -/
theorem lines_foldl_pushParagraph (ps : List Documentation) (d : Documentation) :
    (ps.foldl pushParagraph d).lines = joined (d :: ps) := by
  induction ps generalizing d with
  | nil => cases hlines : d.lines <;> simp [joined, hlines]
  | cons p ps ih => rw [List.foldl_cons, ih, joined_pushParagraph_cons]

theorem getLast?_pushParagraph (d : Documentation) {p : Documentation} (hp : p ≠ empty) :
    (d.pushParagraph p).lines.getLast? = p.lines.getLast? := by
  by_cases hd : d = empty
  · rw [hd, empty_pushParagraph]
  · rw [pushParagraph_of_ne hd hp]
    obtain ⟨line, hline⟩ := Option.ne_none_iff_exists'.mp
      (mt List.getLast?_eq_none_iff.mp (lines_ne_nil hp))
    rw [List.getLast?_append, hline, Option.some_or]

theorem singleton_ne_empty (line : String) : (⟨[line]⟩ : Documentation) ≠ empty := by simp [empty]

/-- Paragraphs that are added one after the other to nothing are the lines of those that have lines,
in order, with exactly one empty line between neighbours. Adding them is associative, with nothing as
identity on both sides. What documents an operation is its summary, its description and its route,
added in this way, and so it ends with the route. -/
theorem paragraphs_form_monoid :
    (∀ ps : List Documentation, (ps.foldl pushParagraph empty).lines =
      [""].intercalate ((ps.map lines).filter fun ls => !ls.isEmpty)) ∧
    (∀ a b c : Documentation,
      a.pushParagraph (b.pushParagraph c) = (a.pushParagraph b).pushParagraph c) ∧
    (∀ d : Documentation, empty.pushParagraph d = d ∧ d.pushParagraph empty = d) ∧
    ∀ o : Operation,
      o.documentation =
        [ofOption o.summary, ofOption o.description, ⟨[o.route]⟩].foldl pushParagraph empty ∧
      o.documentation.lines.getLast? = some o.route := by
  refine ⟨fun ps => ?_, pushParagraph_assoc,
    fun d => ⟨empty_pushParagraph d, pushParagraph_empty d⟩, fun o => ⟨?_, ?_⟩⟩
  · rw [lines_foldl_pushParagraph, joined_empty_cons, joined]
  · simp only [List.foldl_cons, List.foldl_nil]
    rw [empty_pushParagraph, Operation.documentation]
  · exact getLast?_pushParagraph _ (singleton_ne_empty _)

/-- A paragraph that is one empty line counts, one without lines does not. -/
example : ([ofText "a\nb", empty, ofText "\n", ofText "c"].foldl pushParagraph empty).lines =
    ["a", "b", "", "", "", "c"] := by decide +kernel

end Documentation

end ApiClient.Service
