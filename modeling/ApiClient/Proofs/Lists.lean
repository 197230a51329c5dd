import ApiClient.Proofs.Except
import Mathlib.Data.List.DropRight
import Mathlib.Data.List.TakeWhile

/-!
Lists that are searched from the front: where `dropWhile` stops, where `mapM` fails, where `splitOn`
cuts; and what is left of a list without its end.
-/

namespace ApiClient

variable {α β ε σ : Type}

theorem eq_of_dropWhile_eq_cons {p : α → Bool} {l rest : List α} {a : α}
    (h : l.dropWhile p = a :: rest) :
    l = l.takeWhile p ++ a :: rest ∧ (∀ b ∈ l.takeWhile p, p b = true) ∧ p a = false := by
  refine ⟨by rw [← h, List.takeWhile_append_dropWhile], ?_, ?_⟩
  · exact List.all_eq_true.mp List.all_takeWhile
  · have hhead := List.head_dropWhile_not p (l := l) (by simp [h])
    simpa [h] using hhead

/-- A part all of whose elements pass is cut off before the first element that does not. -/
theorem takeWhile_append_of_ends {p : α → Bool} {l rest : List α} (hl : l.all p = true)
    (hrest : ∀ a, rest.head? = some a → p a = false) :
    (l ++ rest).takeWhile p = l ∧ (l ++ rest).dropWhile p = rest := by
  have hall := List.all_eq_true.mp hl
  rw [List.takeWhile_append_of_pos hall, List.dropWhile_append_of_pos hall]
  cases rest with
  | nil => simp
  | cons a rest => simp [hrest a rfl]

theorem takeWhile_append_cons {p : α → Bool} {l : List α} {a : α} (hl : l.all p = true)
    (ha : p a = false) (rest : List α) :
    (l ++ a :: rest).takeWhile p = l ∧ (l ++ a :: rest).dropWhile p = a :: rest :=
  takeWhile_append_of_ends hl (by simpa using ha)

/-- Whatever succeeds on every element succeeds on the list. -/
theorem mapM_eq_ok {f : α → Except ε β} {g : α → β} {l : List α} (h : ∀ a ∈ l, f a = .ok (g a)) :
    l.mapM f = .ok (l.map g) := by
  induction l with
  | nil => rfl
  | cons a l ih =>
      rw [List.mapM_cons, h a List.mem_cons_self, ih fun b hb => h b (List.mem_cons_of_mem a hb)]
      rfl

/-- Where each element can succeed in one way only, so can the list. -/
theorem eq_map_of_mapM_eq_ok {f : α → Except ε β} {g : α → β} (h : ∀ a b, f a = .ok b → b = g a)
    {l : List α} {bs : List β} (hl : l.mapM f = .ok bs) : bs = l.map g := by
  induction l generalizing bs with
  | nil =>
      cases hl
      rfl
  | cons a l ih =>
      rw [List.mapM_cons] at hl
      obtain ⟨b, hb, hl⟩ := bind_eq_ok_iff.mp hl
      obtain ⟨rest, hrest, hl⟩ := bind_eq_ok_iff.mp hl
      cases hl
      rw [h a b hb, ih hrest, List.map_cons]

/-- Where all elements that fail have the same fault, it is the fault of the list. -/
theorem mapM_eq_ite {f : α → Except ε β} {passes : α → Bool} {g : α → β} {e : ε}
    (h : ∀ a, f a = if passes a then .ok (g a) else .error e) (l : List α) :
    l.mapM f = if l.all passes then .ok (l.map g) else .error e := by
  induction l with
  | nil => rfl
  | cons a l ih =>
      rw [List.mapM_cons, ih, h]
      cases ha : passes a <;> cases hl : l.all passes <;> simp [ha, hl] <;> rfl

/-- What was written element by element is read back element by element. -/
theorem mapM_map_eq_some {f : β → Option α} {g : α → β} (h : ∀ a, f (g a) = some a) (l : List α) :
    (l.map g).mapM f = some l := by
  induction l with
  | nil => rfl
  | cons a l ih =>
      rw [List.map_cons, List.mapM_cons, h, ih]
      rfl

/-- A list fails with the fault of its first element that has one. -/
theorem mapM_eq_error_iff {f : α → Except ε β} {l : List α} {e : ε} :
    l.mapM f = .error e ↔
      ∃ before a rest, l = before ++ a :: rest ∧ f a = .error e ∧
        ∀ b ∈ before, ∃ v, f b = .ok v := by
  rw [← fault?_eq_some_iff, fault?_mapM, List.findSome?_eq_some_iff]
  simp only [fault?_eq_some_iff, fault?_eq_none_iff]

/-- What is computed element by element may be taken in at once or when all of it is there. -/
theorem foldlM_map_eq (f : α → Except ε β) (g : σ → β → σ) (l : List α) (s : σ) :
    l.foldlM (fun s a => (f a).map (g s)) s = (l.mapM f).map fun bs => bs.foldl g s := by
  induction l generalizing s with
  | nil => rfl
  | cons a l ih =>
      rw [List.foldlM_cons, List.mapM_cons]
      cases f a with
      | error e => rfl
      | ok b =>
          refine (ih (g s b)).trans ?_
          cases l.mapM f <;> rfl

/-! ### Without the end -/

theorem rdropWhile_cons (p : α → Bool) (a : α) (l : List α) :
    (a :: l).rdropWhile p = if (a :: l).all p then [] else a :: l.rdropWhile p := by
  split
  case isTrue hall => exact List.rdropWhile_eq_nil_iff.mpr (List.all_eq_true.mp hall)
  case isFalse hall =>
    rw [List.rdropWhile, List.reverse_cons, List.dropWhile_append]
    split
    case isTrue hrest =>
      have hl : ∀ b ∈ l, p b = true := by
        simpa [List.dropWhile_eq_nil_iff] using hrest
      have ha : p a = false := by
        rw [List.all_cons, List.all_eq_true.mpr hl] at hall
        simpa using hall
      rw [List.rdropWhile_eq_nil_iff.mpr hl, List.dropWhile_cons_of_neg (by simp [ha])]
      rfl
    case isFalse => rw [List.reverse_append, List.rdropWhile]; rfl

/-- An element is left when it does not pass or one behind it does not. -/
theorem mem_rdropWhile_iff {p : α → Bool} {a : α} {l : List α} :
    a ∈ l.rdropWhile p ↔ ∃ after, a :: after <:+ l ∧ ∃ b ∈ a :: after, p b = false := by
  induction l with
  | nil => simp
  | cons d l ih =>
      rw [rdropWhile_cons]
      split
      case isTrue hall =>
        refine iff_of_false List.not_mem_nil ?_
        rintro ⟨after, hafter, b, hb, hpb⟩
        rw [List.all_eq_true.mp hall b (hafter.subset hb)] at hpb
        cases hpb
      case isFalse hall =>
        obtain ⟨b, hb, hpb⟩ := List.all_eq_false.mp (Bool.eq_false_iff.mpr hall)
        rw [List.mem_cons, ih]
        constructor
        · rintro (rfl | ⟨after, hafter, hpass⟩)
          · exact ⟨l, List.suffix_refl _, b, hb, by simpa using hpb⟩
          · exact ⟨after, hafter.trans (List.suffix_cons d l), hpass⟩
        · rintro ⟨after, hafter, hpass⟩
          rcases List.suffix_cons_iff.mp hafter with heq | hafter
          · exact .inl (List.cons.inj heq).1
          · exact .inr ⟨after, hafter, hpass⟩

/-! ### Pieces -/

theorem exists_suffix_cons_iff {a c : α} (q : List α → Prop) (l : List α) :
    (∃ after, c :: after <:+ a :: l ∧ q after) ↔
      (c = a ∧ q l) ∨ ∃ after, c :: after <:+ l ∧ q after := by
  simp only [List.suffix_cons_iff, List.cons.injEq, or_and_right, exists_or, and_assoc,
    exists_and_left, exists_eq_left]

variable [DecidableEq α]

theorem splitOn_cons_self (x : α) (l : List α) : (x :: l).splitOn x = [] :: l.splitOn x := by
  rw [List.splitOn_cons_eq_if_modifyHead, if_pos (by simp)]

/-- The first piece is what stands before the first separator. -/
theorem splitOn_eq_cons (x : α) (l : List α) :
    l.splitOn x = l.takeWhile (· ≠ x) :: (l.splitOn x).tail := by
  induction l with
  | nil => rfl
  | cons a l ih =>
      by_cases ha : a = x
      · subst ha
        simp [splitOn_cons_self]
      · rw [List.splitOn_cons_eq_if_modifyHead, if_neg (by simpa using ha), ih,
          List.modifyHead_cons, List.takeWhile_cons_of_pos (by simpa using ha), List.tail_cons]

theorem splitOn_cons_of_ne {a x : α} (h : a ≠ x) (l : List α) :
    (a :: l).splitOn x = (a :: l.takeWhile (· ≠ x)) :: (l.splitOn x).tail := by
  rw [List.splitOn_cons_eq_if_modifyHead, if_neg (by simpa using h), splitOn_eq_cons,
    List.modifyHead_cons, List.tail_cons]

theorem not_mem_of_mem_splitOn {x : α} {l piece : List α} (h : piece ∈ l.splitOn x) :
    x ∉ piece := by
  induction l generalizing piece with
  | nil => simp_all
  | cons a l ih =>
      by_cases ha : a = x
      · subst ha
        rw [splitOn_cons_self] at h
        rcases List.mem_cons.mp h with rfl | h
        · exact List.not_mem_nil
        · exact ih h
      · rw [splitOn_cons_of_ne ha] at h
        rcases List.mem_cons.mp h with rfl | h
        · rw [List.mem_cons]
          rintro (rfl | hx)
          · exact ha rfl
          · simpa using List.mem_takeWhile_imp hx
        · exact ih (List.mem_of_mem_tail h)

/-- What comes behind an element in its piece is what comes behind it in the list before the next
separator. -/
theorem exists_suffix_splitOn_iff {c x : α} (hc : c ≠ x) (q : List α → Prop) (l : List α) :
    (∃ piece ∈ l.splitOn x, ∃ after, c :: after <:+ piece ∧ q after) ↔
      ∃ after, c :: after <:+ l ∧ q (after.takeWhile (· ≠ x)) := by
  induction l with
  | nil => simp
  | cons a l ih =>
      rw [exists_suffix_cons_iff fun after => q (after.takeWhile (· ≠ x)), ← ih]
      by_cases ha : a = x
      · subst ha
        simp [splitOn_cons_self, hc]
      · rw [splitOn_cons_of_ne ha, List.exists_mem_cons_iff, exists_suffix_cons_iff q, or_assoc,
          ← List.exists_mem_cons_iff fun piece => ∃ after, c :: after <:+ piece ∧ q after,
          ← splitOn_eq_cons]

end ApiClient
