import Mathlib.Data.List.TakeWhile

/-!
Letters in two cases. Lower case moves letters only, so that whatever does not tell letters apart
does not see the difference, and a text is cut at the same places in either case.
-/

namespace ApiClient.LetterCase

theorem isUpper_iff (c : Char) : c.isUpper = true ↔ c.val ≥ 'A'.val ∧ c.val ≤ 'Z'.val :=
  decide_eq_true_iff

theorem isLower_iff (c : Char) : c.isLower = true ↔ c.val ≥ 'a'.val ∧ c.val ≤ 'z'.val :=
  (Bool.and_eq_true_iff).trans (and_congr decide_eq_true_iff decide_eq_true_iff)

theorem isAlpha_eq_or (c : Char) : c.isAlpha = (c.isUpper || c.isLower) := rfl

theorem not_isUpper_of_isLower {c : Char} (h : c.isLower = true) : ¬c.isUpper = true := by
  rw [isLower_iff, ge_iff_le, UInt32.le_iff_toNat_le] at h
  rw [isUpper_iff, UInt32.le_iff_toNat_le (b := 'Z'.val)]
  have ha : 'a'.val.toNat = 97 := rfl
  have hZ : 'Z'.val.toNat = 90 := rfl
  omega

theorem toLower_of_not_isUpper {c : Char} (h : ¬c.isUpper = true) : c.toLower = c :=
  dif_neg fun hc => h ((isUpper_iff c).mpr hc)

theorem val_toLower_of_isUpper {c : Char} (h : c.isUpper = true) :
    c.toLower.val = c.val + ('a'.val - 'A'.val) :=
  congrArg Char.val (dif_pos ((isUpper_iff c).mp h))

theorem isLower_toLower_of_isUpper {c : Char} (h : c.isUpper = true) :
    c.toLower.isLower = true := by
  rw [isLower_iff, val_toLower_of_isUpper h]
  rw [isUpper_iff] at h
  simp only [ge_iff_le, UInt32.le_iff_toNat_le, UInt32.toNat_add] at h ⊢
  have hA : 'A'.val.toNat = 65 := rfl
  have hZ : 'Z'.val.toNat = 90 := rfl
  have ha : 'a'.val.toNat = 97 := rfl
  have hz : 'z'.val.toNat = 122 := rfl
  have hshift : ('a'.val - 'A'.val).toNat = 32 := rfl
  omega

theorem isLower_toLower (c : Char) : c.toLower.isLower = c.isAlpha := by
  cases hupper : c.isUpper with
  | true => rw [isLower_toLower_of_isUpper hupper, isAlpha_eq_or, hupper, Bool.true_or]
  | false =>
      rw [toLower_of_not_isUpper (by simp [hupper]), isAlpha_eq_or, hupper, Bool.false_or]

/-- What is the same for all letters is the same for both cases of one. -/
theorem apply_toLower {α : Type} {p : Char → α} {a : α} (h : ∀ c, c.isAlpha = true → p c = a)
    (c : Char) : p c.toLower = p c := by
  cases hupper : c.isUpper with
  | true =>
      have halpha : c.isAlpha = true := by rw [isAlpha_eq_or, hupper, Bool.true_or]
      have hlower : c.toLower.isAlpha = true := by
        rw [isAlpha_eq_or, isLower_toLower_of_isUpper hupper, Bool.or_true]
      rw [h c halpha, h c.toLower hlower]
  | false => rw [toLower_of_not_isUpper (by simp [hupper])]

/-- Lower case has nothing left to move. -/
theorem toLower_toLower (c : Char) : c.toLower.toLower = c.toLower := by
  cases hupper : c.isUpper with
  | true =>
      exact toLower_of_not_isUpper (not_isUpper_of_isLower (isLower_toLower_of_isUpper hupper))
  | false =>
      have hstays : c.toLower = c := toLower_of_not_isUpper (by simp [hupper])
      rw [hstays, hstays]

theorem toLower_eq_iff {c d : Char} (hd : d.isAlpha = false) : c.toLower = d ↔ c = d := by
  refine iff_of_eq (apply_toLower (p := fun c => c = d) (a := False) ?_ c)
  intro c hc
  rw [eq_iff_iff, iff_false]
  rintro rfl
  rw [hc] at hd
  cases hd

theorem isAlphanum_toLower (c : Char) : c.toLower.isAlphanum = c.isAlphanum := by
  refine apply_toLower (a := true) (fun c hc => ?_) c
  rw [Char.isAlphanum, hc, Bool.true_or]

theorem ne_toLower {d : Char} (hd : d.isAlpha = false) (c : Char) :
    decide (c.toLower ≠ d) = decide (c ≠ d) := by
  simp only [ne_eq, toLower_eq_iff hd]

section

variable {p : Char → Bool} (h : ∀ c, p c.toLower = p c) (text : List Char)

include h

theorem takeWhile_map_toLower :
    (text.map Char.toLower).takeWhile p = (text.takeWhile p).map Char.toLower := by
  rw [List.takeWhile_map, show p ∘ Char.toLower = p from funext h]

theorem dropWhile_map_toLower :
    (text.map Char.toLower).dropWhile p = (text.dropWhile p).map Char.toLower := by
  rw [List.dropWhile_map, show p ∘ Char.toLower = p from funext h]

theorem all_map_toLower : (text.map Char.toLower).all p = text.all p := by
  rw [List.all_map, show p ∘ Char.toLower = p from funext h]

end

end ApiClient.LetterCase
