import ApiClient.Http.Headers

/-!
Header maps laid over one another. A name that the upper map has gets its values from there, and
every other name keeps those that it has below. All laws of layers come from this one: they may be
grouped in any way, an empty map adds nothing, and a map that is laid on twice counts once.
-/

namespace ApiClient

namespace Headers

theorem mem_names_iff {name : HeaderName} {headers : Headers} :
    name ∈ headers.names ↔ headers.values name ≠ [] := by
  rw [names, List.mem_eraseDups, values, ne_eq, List.map_eq_nil_iff, List.filter_eq_nil_iff]
  simp

/-- A name with other values instead of those it had. -/
theorem values_replace (name other : HeaderName) (vs : List HeaderValue)
    (headers : Headers) :
    values name (appendAll other vs (remove other headers)) =
      if other = name then vs else values name headers := by
  rw [values_appendAll, values_remove]
  by_cases h : other = name <;> simp [h]

/-- Taking names over one by one, from the same map. A name that comes again gets what it has. -/
theorem values_foldl_replace (overrides : Headers) (name : HeaderName) (taken : List HeaderName)
    (merged : Headers) :
    values name (taken.foldl (fun merged other =>
      appendAll other (overrides.values other) (remove other merged)) merged) =
      if name ∈ taken then overrides.values name else values name merged := by
  induction taken generalizing merged with
  | nil => simp
  | cons other taken ih =>
      rw [List.foldl_cons, ih, values_replace]
      by_cases htaken : name ∈ taken
      · simp [htaken]
      · by_cases hother : other = name
        · simp [hother]
        · simp [htaken, hother, Ne.symm hother]

/-- What a name has in two layers. -/
theorem values_merge (name : HeaderName) (base overrides : Headers) :
    (base.merge overrides).values name =
      if overrides.values name = [] then base.values name else overrides.values name := by
  rw [merge, values_foldl_replace]
  by_cases h : overrides.values name = []
  · rw [if_pos h, if_neg fun hmem => mem_names_iff.mp hmem h]
  · rw [if_neg h, if_pos (mem_names_iff.mpr h)]

/-! ### Laws -/

theorem merge_assoc (a b c : Headers) : (a.merge b).merge c = a.merge (b.merge c) := by
  apply ext_values
  intro name
  simp only [values_merge]
  by_cases hc : c.values name = []
  · simp only [hc, if_true]
  · simp only [hc, if_false]

theorem empty_merge (headers : Headers) : empty.merge headers = headers := by
  apply ext_values
  intro name
  rw [values_merge]
  split
  case isTrue h => rw [h, values_empty]
  case isFalse => rfl

/-- No names, no change. -/
theorem merge_empty (headers : Headers) : headers.merge empty = headers := rfl

theorem merge_self (headers : Headers) : headers.merge headers = headers := by
  apply ext_values
  intro name
  rw [values_merge, ite_self]

/-- Layers may be grouped in any way, an empty one at either end may be left out, and one that is
laid on twice counts once. Maps are equal when they have the same values for each name, in the same
order. -/
theorem merge_associates_and_absorbs (a b c : Headers) :
    (a.merge b).merge c = a.merge (b.merge c) ∧
      empty.merge a = a ∧ a.merge empty = a ∧ (a.merge b).merge b = a.merge b := by
  refine ⟨merge_assoc a b c, empty_merge a, merge_empty a, ?_⟩
  rw [merge_assoc, merge_self]

end Headers

end ApiClient
