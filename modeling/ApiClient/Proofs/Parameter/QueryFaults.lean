import ApiClient.Proofs.Except
import ApiClient.Proofs.Parameter.QueryNames

/-!
Queries that are refused. An array or object that holds others cannot be written, in no style. So a
query is refused for its first entry with one, and neither the options nor what becomes of the
entries before it have a part in that.
-/

namespace ApiClient.Query

/-- An entry is at fault when its value holds an array or object that holds others. -/
def entryFault? (entry : String × Json) : Option NestedParameter :=
  if isFlat entry.2 then none else some ⟨entry.1⟩

theorem entryFault?_eq_none_iff {entry : String × Json} :
    entryFault? entry = none ↔ isFlat entry.2 = true := by
  rw [entryFault?]
  cases isFlat entry.2 <;> simp

theorem entryFault?_eq_some_iff {entry : String × Json} {e : NestedParameter} :
    entryFault? entry = some e ↔ isFlat entry.2 = false ∧ e = ⟨entry.1⟩ := by
  rw [entryFault?]
  cases isFlat entry.2 <;> simp [eq_comm]

theorem fault?_entryText (options : QueryOptions) (entry : String × Json) :
    fault? (options.entryText entry.1 entry.2) = entryFault? entry := by
  rw [entryText_eq, entryFault?]
  cases isFlat entry.2 <;> rfl

/-- A query fails with the fault of the first entry that has one. -/
theorem fault?_serialize_eq (options : QueryOptions) (query : Entries Json) :
    fault? (options.serialize query) = query.findSome? entryFault? := by
  have htexts : fault? (options.serialize query) =
      fault? (query.mapM fun entry => options.entryText entry.1 entry.2) := by
    rw [QueryOptions.serialize]
    cases query.mapM fun entry => options.entryText entry.1 entry.2 <;> rfl
  rw [htexts, fault?_mapM]
  simp only [fault?_entryText]

/-- A query is refused when an entry is an array or object that holds others, and only then. The
error has the name of the first such entry, whatever stands before it. Under all other options the
query is refused for the same name, or not at all either. -/
theorem serialize_refuses_nested (options : QueryOptions) (query : Entries Json) :
    ((∃ e, options.serialize query = .error e) ↔ ∃ entry ∈ query, isFlat entry.2 = false) ∧
    (∀ e, options.serialize query = .error e ↔
      ∃ before name v after, query = before ++ (name, v) :: after ∧ isFlat v = false ∧
        (∀ entry ∈ before, isFlat entry.2 = true) ∧ e = ⟨name⟩) ∧
    ∀ others : QueryOptions, fault? (others.serialize query) = fault? (options.serialize query) := by
  have hfault := fault?_serialize_eq options query
  refine ⟨?_, ?_, ?_⟩
  · constructor
    · rintro ⟨e, h⟩
      rw [← fault?_eq_some_iff, hfault] at h
      obtain ⟨entry, hmem, hentry⟩ := List.exists_of_findSome?_eq_some h
      exact ⟨entry, hmem, (entryFault?_eq_some_iff.mp hentry).1⟩
    · rintro ⟨entry, hmem, hnested⟩
      cases h : options.serialize query with
      | error e => exact ⟨e, rfl⟩
      | ok search =>
          rw [h] at hfault
          have hnone := List.findSome?_eq_none_iff.mp hfault.symm entry hmem
          rw [entryFault?_eq_none_iff, hnested] at hnone
          cases hnone
  · intro e
    rw [← fault?_eq_some_iff, hfault, List.findSome?_eq_some_iff]
    constructor
    · rintro ⟨before, ⟨name, v⟩, after, hquery, hentry, hbefore⟩
      obtain ⟨hnested, rfl⟩ := entryFault?_eq_some_iff.mp hentry
      refine ⟨before, name, v, after, hquery, hnested, ?_, rfl⟩
      intro entry hmem
      exact entryFault?_eq_none_iff.mp (hbefore entry hmem)
    · rintro ⟨before, name, v, after, hquery, hnested, hbefore, rfl⟩
      refine ⟨before, (name, v), after, hquery, entryFault?_eq_some_iff.mpr ⟨hnested, rfl⟩, ?_⟩
      intro entry hmem
      exact entryFault?_eq_none_iff.mpr (hbefore entry hmem)
  · intro others
    rw [hfault, fault?_serialize_eq]

/-- Entries without a text hide nothing, and the first of two errors counts. -/
example : QueryOptions.serialize {}
    [("a", .null), ("b", .array []), ("c", .object [("k", .array [])]), ("d", .array [.array []])] =
      .error ⟨"c"⟩ := rfl

end ApiClient.Query
