import ApiClient.Service.Name
import Mathlib.Data.Finset.Card
import Mathlib.Data.List.Nodup
import Mathlib.Data.List.Perm.Subperm
import Mathlib.Data.Nat.Find
import Mathlib.Order.Bounds.Defs

/-!
Which name is made unique how. For a base there is a sequence of candidates, the base itself and
then the base with 2, 3 and so on behind it, all of them different. The unique name is the first
candidate that is not used, and there is one among the first candidates, one more than there are
used names. So the number behind the base is the least one that there can be, and any search that
goes far enough finds it.
-/

namespace ApiClient.Service

/-- The names that are tried for a base, in order. -/
def candidate (base : String) : Nat → String
  | 0 => base
  | i + 1 => numbered base (i + 2)

/-- What a candidate has behind the base. -/
def suffix : Nat → List Char
  | 0 => []
  | i + 1 => Nat.toDigits 10 (i + 2)

theorem toList_candidate (base : String) (i : Nat) :
    (candidate base i).toList = base.toList ++ suffix i := by
  cases i with
  | zero => simp [candidate, suffix]
  | succ i => simp [candidate, suffix, numbered]

theorem isDigit_of_mem_suffix {i : Nat} {c : Char} (h : c ∈ suffix i) : c.isDigit = true := by
  cases i with
  | zero => simp [suffix] at h
  | succ i => exact Nat.isDigit_of_mem_toDigits (by omega) (by omega) h

theorem suffix_injective : Function.Injective suffix := by
  intro i j h
  cases i with
  | zero =>
      cases j with
      | zero => rfl
      | succ j => exact absurd h.symm Nat.toDigits_ne_nil
  | succ i =>
      cases j with
      | zero => exact absurd h Nat.toDigits_ne_nil
      | succ j =>
          have hvalue := congrArg (Nat.ofDigitChars 10 · 0) h
          simp only [suffix, Nat.ofDigitChars_ten_toDigits] at hvalue
          omega

theorem candidate_injective (base : String) : Function.Injective (candidate base) := by
  intro i j h
  have hlist := congrArg String.toList h
  rw [toList_candidate, toList_candidate] at hlist
  exact suffix_injective (List.append_cancel_left hlist)

/-- Not all of the first candidates are used. -/
theorem exists_candidate_not_mem (base : String) (used : List String) :
    ∃ i ≤ used.length, candidate base i ∉ used := by
  by_contra hnone
  have hall : ∀ i ≤ used.length, candidate base i ∈ used := by simpa using hnone
  -- one more candidate than there are used names, all of them different
  have hsubset : (List.range (used.length + 1)).map (candidate base) ⊆ used := by
    intro name hname
    obtain ⟨i, hi, rfl⟩ := List.mem_map.mp hname
    exact hall i (by simpa [Nat.lt_succ_iff] using hi)
  have hnodup : ((List.range (used.length + 1)).map (candidate base)).Nodup :=
    List.nodup_range.map (candidate_injective base)
  have hlength := (hnodup.subperm hsubset).length_le
  rw [List.length_map, List.length_range] at hlength
  omega

theorem ensureUnique_eq_candidate_of {base : String} {used : List String} {i : Nat}
    (hi : i ≤ used.length) (hfree : candidate base i ∉ used)
    (hused : ∀ j < i, candidate base j ∈ used) : ensureUnique base used = candidate base i := by
  cases i with
  | zero => exact if_neg (by simpa [candidate] using hfree)
  | succ i =>
      -- the search runs over the numbers, which begin with the candidate after the base
      have hbase : used.contains base = true := by
        simpa [candidate] using hused 0 (by omega)
      have hfind : (List.range (used.length + 1)).find?
          (fun j => !used.contains (numbered base (j + 2))) = some i := by
        rw [List.find?_range_eq_some]
        refine ⟨by simpa [candidate] using hfree, List.mem_range.mpr (by omega), ?_⟩
        intro j hj
        simpa [candidate] using hused (j + 1) (by omega)
      rw [ensureUnique, if_pos hbase, List.find?_map]
      simp only [Function.comp_def]
      rw [hfind]
      rfl

/-- The first candidate that is not used. -/
theorem ensureUnique_spec (base : String) (used : List String) :
    ∃ i ≤ used.length, ensureUnique base used = candidate base i ∧ candidate base i ∉ used ∧
      ∀ j < i, candidate base j ∈ used := by
  classical
  have hexists := exists_candidate_not_mem base used
  obtain ⟨hle, hfree⟩ := Nat.find_spec hexists
  have hused : ∀ j < Nat.find hexists, candidate base j ∈ used := by
    intro j hj
    by_contra hmem
    exact Nat.find_min hexists hj ⟨by omega, hmem⟩
  exact ⟨_, hle, ensureUnique_eq_candidate_of hle hfree hused, hfree, hused⟩

theorem ensureUnique_not_mem (base : String) (used : List String) :
    ensureUnique base used ∉ used := by
  obtain ⟨i, -, hname, hfree, -⟩ := ensureUnique_spec base used
  rwa [hname]

/-! ### The least number -/

/-- A number that makes a base unused. -/
def IsFreeNumber (base : String) (used : List String) (k : Nat) : Prop :=
  2 ≤ k ∧ numbered base k ∉ used

/-- The first unused name among those with a number from 2 up to a last one. -/
def firstUnused? (base : String) (used : List String) (last : Nat) : Option String :=
  ((List.range' 2 (last - 1)).map (numbered base)).find? fun name => !used.contains name

theorem ensureUnique_of_not_mem {base : String} {used : List String} (h : base ∉ used) :
    ensureUnique base used = base :=
  if_neg (by simpa using h)

/-- How often a name is listed as used does not matter. -/
theorem exists_candidate_not_mem_le_card (base : String) (used : List String) :
    ∃ i ≤ used.toFinset.card, candidate base i ∉ used := by
  obtain ⟨i, hi, hfree⟩ := exists_candidate_not_mem base used.dedup
  refine ⟨i, ?_, fun hmem => hfree (List.mem_dedup.mpr hmem)⟩
  rwa [List.card_toFinset]

theorem ensureUnique_of_mem {base : String} {used : List String} (h : base ∈ used) :
    ∃ k, IsLeast {k | IsFreeNumber base used k} k ∧ k ≤ used.toFinset.card + 1 ∧
      ensureUnique base used = numbered base k := by
  obtain ⟨i, -, hname, hfree, hused⟩ := ensureUnique_spec base used
  cases i with
  | zero => exact absurd h hfree
  | succ i =>
      refine ⟨i + 2, ⟨⟨by omega, hfree⟩, ?_⟩, ?_, hname⟩
      · rintro k ⟨hk, hkfree⟩
        by_contra hlt
        obtain ⟨j, rfl⟩ := Nat.exists_eq_add_of_le' hk
        exact hkfree (hused (j + 1) (by omega))
      · obtain ⟨j, hj, hjfree⟩ := exists_candidate_not_mem_le_card base used
        by_contra hlt
        exact hjfree (hused j (by omega))

/-- A search that reaches the least number ends with it. -/
theorem firstUnused?_of_isLeast {base : String} {used : List String} {k last : Nat}
    (hk : IsLeast {k | IsFreeNumber base used k} k) (hlast : k ≤ last) :
    firstUnused? base used last = some (numbered base k) := by
  obtain ⟨⟨htwo, hfree⟩, hleast⟩ := hk
  have hfind : (List.range' 2 (last - 1)).find? (fun k => !used.contains (numbered base k)) =
      some k := by
    rw [List.find?_range'_eq_some]
    refine ⟨by simpa using hfree, ?_, ?_⟩
    · rw [List.mem_range'_1]
      omega
    · intro j hj hjk
      by_contra hjfree
      have hle : k ≤ j := hleast ⟨hj, by simpa using hjfree⟩
      omega
  rw [firstUnused?, List.find?_map]
  simp only [Function.comp_def]
  rw [hfind, Option.map_some]

/-- A unique name is not used. It is the base itself where that is not used. Else it is the base with
the least number from 2 on that makes it unused, and that number is at most one more than there are
used names. So a search through the numbers never runs out before it finds the name, wherever the
numbers end behind that. -/
theorem ensureUnique_finds_least (base : String) (used : List String) :
    ensureUnique base used ∉ used ∧
    (base ∉ used → ensureUnique base used = base) ∧
    (base ∈ used → ∃ k, IsLeast {k | IsFreeNumber base used k} k ∧
      k ≤ used.toFinset.card + 1 ∧ ensureUnique base used = numbered base k) ∧
    (base ∈ used → ∀ last, used.toFinset.card < last →
      firstUnused? base used last = some (ensureUnique base used)) := by
  refine ⟨ensureUnique_not_mem base used, ensureUnique_of_not_mem, ensureUnique_of_mem, ?_⟩
  intro hbase last hlast
  obtain ⟨k, hleast, hk, hname⟩ := ensureUnique_of_mem hbase
  rw [hname]
  exact firstUnused?_of_isLeast hleast (by omega)

/-- A name that is listed twice, and a number that stands behind another base as well. -/
def crowded : List String := ["pets", "pets2", "pets2", "pets22"]

theorem ensureUnique_finds_least_crowded :
    "pet" ∉ crowded ∧ ensureUnique "pet" crowded = "pet" ∧
      "pets" ∈ crowded ∧ ensureUnique "pets" crowded ∉ crowded ∧
      (∃ k, IsLeast {k | IsFreeNumber "pets" crowded k} k ∧ k ≤ 4 ∧
        ensureUnique "pets" crowded = numbered "pets" k) ∧
      firstUnused? "pets" crowded 2147483647 = some (ensureUnique "pets" crowded) := by
  have hfree : "pet" ∉ crowded := by decide
  have hused : "pets" ∈ crowded := by decide
  have hcard : crowded.toFinset.card = 3 := by decide
  obtain ⟨hnot, -, hleast, hsearch⟩ := ensureUnique_finds_least "pets" crowded
  rw [hcard] at hleast hsearch
  exact ⟨hfree, (ensureUnique_finds_least "pet" crowded).2.1 hfree, hused, hnot, hleast hused,
    hsearch hused 2147483647 (by omega)⟩

end ApiClient.Service
