/-!
Pairs of names and values in one text: `name=value` for each pair, joined by ampersands. A text is
taken apart at every ampersand and each piece at its first equals sign, which undoes the joining as
long as no separator occurs where it would be read as one.
-/

namespace ApiClient.Pairs

/-- A name and a value as one piece. -/
def piece (p : List Char × List Char) : List Char := p.1 ++ '=' :: p.2

def join (pairs : List (List Char × List Char)) : List Char :=
  List.intercalate ['&'] (pairs.map piece)

@[simp] theorem join_singleton (p : List Char × List Char) : join [p] = piece p := by simp [join]

/-- Takes a piece apart at its first equals sign. -/
def cut? (piece : List Char) : Option (List Char × List Char) :=
  match piece.dropWhile (· ≠ '=') with
  | _ :: value => some (piece.takeWhile (· ≠ '='), value)
  | [] => none

/-- Takes a text apart into its pairs. -/
def split? (text : List Char) : Option (List (List Char × List Char)) :=
  (text.splitOn '&').mapM cut?

/-- What can be told apart again: an equals sign only in values, no ampersand at all. -/
structure Separable (p : List Char × List Char) : Prop where
  equals_name : '=' ∉ p.1
  ampersand_name : '&' ∉ p.1
  ampersand_value : '&' ∉ p.2

theorem cut?_piece {p : List Char × List Char} (h : '=' ∉ p.1) : cut? (piece p) = some p := by
  have hname : ∀ c ∈ p.1, (decide (c ≠ '=')) = true := by
    intro c hc
    simpa using ne_of_mem_of_not_mem hc h
  rw [cut?, piece, List.dropWhile_append_of_pos hname, List.takeWhile_append_of_pos hname]
  simp

theorem piece_ne_nil (p : List Char × List Char) : piece p ≠ [] := by simp [piece]

theorem split?_join {pairs : List (List Char × List Char)} (hne : pairs ≠ [])
    (h : ∀ p ∈ pairs, Separable p) : split? (join pairs) = some pairs := by
  have hpieces : ∀ text ∈ pairs.map piece, '&' ∉ text := by
    intro text htext
    obtain ⟨p, hp, rfl⟩ := List.mem_map.mp htext
    simp [piece, (h p hp).ampersand_name, (h p hp).ampersand_value]
  rw [split?, join, List.splitOn_intercalate '&' hpieces (by simpa using hne)]
  clear hne hpieces
  induction pairs with
  | nil => rfl
  | cons p pairs ih =>
      have hp := cut?_piece (h p List.mem_cons_self).equals_name
      have hpairs := ih fun q hq => h q (List.mem_cons_of_mem p hq)
      rw [List.map_cons, List.mapM_cons, hp, hpairs]
      rfl

/-! ### Joining in two steps -/

theorem intercalate_append {α : Type} (sep : List α) {xs ys : List (List α)} (hxs : xs ≠ [])
    (hys : ys ≠ []) :
    List.intercalate sep (xs ++ ys) =
      List.intercalate sep xs ++ sep ++ List.intercalate sep ys := by
  induction xs with
  | nil => contradiction
  | cons x xs ih =>
      cases xs with
      | nil => simp [List.intercalate_cons_of_ne_nil hys]
      | cons y xs => simpa using ih (by simp)

theorem intercalate_eq_nil {α : Type} {sep : List α} {xs : List (List α)}
    (h : ∀ x ∈ xs, x ≠ []) : List.intercalate sep xs = [] ↔ xs = [] := by
  cases xs with
  | nil => simp
  | cons x xs =>
      have hx : x ≠ [] := h x List.mem_cons_self
      cases xs with
      | nil => simp [hx]
      | cons y xs => simp [hx]

theorem join_eq_nil {pairs : List (List Char × List Char)} : join pairs = [] ↔ pairs = [] := by
  rw [join, intercalate_eq_nil]
  · simp
  · intro text htext
    obtain ⟨p, -, rfl⟩ := List.mem_map.mp htext
    exact piece_ne_nil p

theorem join_append {xs ys : List (List Char × List Char)} (hxs : xs ≠ []) (hys : ys ≠ []) :
    join (xs ++ ys) = join xs ++ '&' :: join ys := by
  have hxs' : xs.map piece ≠ [] := by simpa using hxs
  have hys' : ys.map piece ≠ [] := by simpa using hys
  rw [join, List.map_append, intercalate_append ['&'] hxs' hys', List.append_assoc]
  rfl

/-- Groups of pairs are joined group by group; a group without pairs adds no ampersand. -/
theorem intercalate_filter_join (groups : List (List (List Char × List Char))) :
    List.intercalate ['&'] ((groups.map join).filter (!·.isEmpty)) = join groups.flatten := by
  induction groups with
  | nil => rfl
  | cons group groups ih =>
      by_cases hgroup : group = []
      · subst hgroup
        simpa [join] using ih
      have hjoin : join group ≠ [] := mt join_eq_nil.mp hgroup
      by_cases hrest : groups.flatten = []
      · have hnone : (groups.map join).filter (!·.isEmpty) = [] := by
          rw [List.filter_eq_nil_iff]
          intro text htext
          obtain ⟨g, hg, rfl⟩ := List.mem_map.mp htext
          rw [List.flatten_eq_nil_iff.mp hrest g hg]
          simp [join]
        simp [hnone, hjoin, hrest]
      · have hsome : (groups.map join).filter (!·.isEmpty) ≠ [] := by
          intro hnone
          rw [hnone, List.intercalate_nil] at ih
          exact hrest (join_eq_nil.mp ih.symm)
        rw [List.flatten_cons, join_append hgroup hrest, ← ih, List.map_cons,
          List.filter_cons_of_pos (by simpa using hjoin),
          List.intercalate_cons_of_ne_nil hsome]
        simp

end ApiClient.Pairs
