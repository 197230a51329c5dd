/-!
Computations that may fail, taken apart: what succeeds as a whole succeeds at every step, and what
fails does so with the fault of the first step that has one.
-/

namespace ApiClient

variable {ε ε' α β : Type}

theorem mapError_eq_ok_iff {x : Except ε α} {f : ε → ε'} {a : α} :
    x.mapError f = .ok a ↔ x = .ok a := by
  cases x with
  | error e => exact iff_of_false nofun nofun
  | ok v => constructor <;> (rintro ⟨⟩; rfl)

theorem map_eq_ok_iff {x : Except ε α} {f : α → β} {b : β} :
    f <$> x = .ok b ↔ ∃ a, x = .ok a ∧ f a = b := by
  cases x <;> simp [Functor.map, Except.map]

theorem bind_eq_ok_iff {x : Except ε α} {f : α → Except ε β} {b : β} :
    (x >>= f) = .ok b ↔ ∃ a, x = .ok a ∧ f a = .ok b := by
  cases x <;> simp [bind, Except.bind]

/-! ### Faults -/

/-- The error of what fails. -/
def fault? : Except ε α → Option ε
  | .ok _ => none
  | .error e => some e

theorem fault?_eq_some_iff {x : Except ε α} {e : ε} : fault? x = some e ↔ x = .error e := by
  cases x <;> simp [fault?]

theorem fault?_eq_none_iff {x : Except ε α} : fault? x = none ↔ ∃ a, x = .ok a := by
  cases x <;> simp [fault?]

theorem fault?_map (x : Except ε α) (f : α → β) : fault? (x.map f) = fault? x := by
  cases x <;> rfl

theorem fault?_mapError (x : Except ε α) (f : ε → ε') :
    fault? (x.mapError f) = (fault? x).map f := by
  cases x <;> rfl

/-- What comes after a step is at fault only where the step is not. -/
theorem fault?_bind {x : Except ε α} {f : α → Except ε β} {first later : Option ε}
    (hfirst : fault? x = first) (hlater : ∀ a, x = .ok a → fault? (f a) = later) :
    fault? (x >>= f) = first.or later := by
  subst hfirst
  cases x with
  | error e => rfl
  | ok a => exact hlater a rfl

theorem findSome?_cons_eq_or (g : α → Option ε) (a : α) (l : List α) :
    (a :: l).findSome? g = (g a).or (l.findSome? g) := by
  rw [List.findSome?_cons]
  cases g a <;> rfl

/-- A list fails with the fault of its first element that has one. -/
theorem fault?_mapM (f : α → Except ε β) (l : List α) :
    fault? (l.mapM f) = l.findSome? fun a => fault? (f a) := by
  induction l with
  | nil => rfl
  | cons a l ih =>
      have hrest : ∀ b, fault? (l.mapM f >>= fun bs => pure (b :: bs)) =
          l.findSome? fun a => fault? (f a) := by
        intro b
        rw [← ih]
        cases l.mapM f <;> rfl
      rw [List.mapM_cons, fault?_bind rfl fun b _ => hrest b, findSome?_cons_eq_or]

/-- Steps whose faults are known beforehand fail with the first of them. -/
theorem fault?_foldlM {f : β → α → Except ε β} {g : α → Option ε}
    (h : ∀ b a, fault? (f b a) = g a) (l : List α) (b : β) :
    fault? (l.foldlM f b) = l.findSome? g := by
  induction l generalizing b with
  | nil => rfl
  | cons a l ih =>
      rw [List.foldlM_cons, fault?_bind (h b a) fun b' _ => ih b', findSome?_cons_eq_or]

end ApiClient
