import ApiClient.Text.Quoted
import Mathlib.Tactic.Ring

/-!
Reading quoted text back. Each character is written as one piece, itself or an escape, and the
reader takes it as one step. So every text is read back from its literal.
-/

namespace ApiClient.Quoted

/-! ### Code points -/

theorem hexValue?_digitChar {n : Nat} (h : n < 16) : hexValue? n.digitChar = some n := by
  revert n
  decide

theorem readCodePoint_digitChar {n count : Nat} (hn : n < 16) (hcount : count < 6) (value : Nat)
    (rest : List Char) :
    readCodePoint value count (n.digitChar :: rest) =
      readCodePoint (value * 16 + n) (count + 1) rest := by
  rw [readCodePoint, hexValue?_digitChar hn]
  exact if_neg (by omega)

/-- Digits are taken up one after the other, up to six of them. -/
theorem readCodePoint_toDigits_append {n count : Nat}
    (h : count + (Nat.toDigits 16 n).length ≤ 6) (value : Nat) (rest : List Char) :
    readCodePoint value count (Nat.toDigits 16 n ++ rest) =
      readCodePoint (value * 16 ^ (Nat.toDigits 16 n).length + n)
        (count + (Nat.toDigits 16 n).length) rest := by
  induction n using Nat.strongRecOn generalizing rest with
  | ind n ih =>
      rcases Nat.lt_or_ge n 16 with hn | hn
      · rw [Nat.toDigits_of_lt_base hn] at h ⊢
        simp only [List.length_singleton] at h
        rw [List.singleton_append, readCodePoint_digitChar hn (by omega), List.length_singleton,
          pow_one]
      · have hdigits : Nat.toDigits 16 n = Nat.toDigits 16 (n / 16) ++ [(n % 16).digitChar] :=
          Nat.toDigits_of_base_le (by omega) hn
        rw [hdigits, List.length_append, List.length_singleton] at h ⊢
        rw [List.append_assoc, List.singleton_append, ih (n / 16) (by omega) (by omega),
          readCodePoint_digitChar (by omega) (by omega)]
        have hvalue : ∀ p : Nat, (value * p + n / 16) * 16 + n % 16 = value * (p * 16) + n := by
          intro p
          have hn : n / 16 * 16 + n % 16 = n := by omega
          calc
            _ = value * (p * 16) + (n / 16 * 16 + n % 16) := by ring
            _ = value * (p * 16) + n := by rw [hn]
        rw [hvalue, pow_succ, Nat.add_assoc]

theorem charOfNat?_toNat (c : Char) : charOfNat? c.toNat = some c := by
  have hvalid : c.toNat.isValidChar := c.valid
  rw [charOfNat?, if_pos hvalid, Char.ofNat_toNat]

/-- The code point of a character between its braces. -/
theorem readCodePoint_toNat (c : Char) (rest : List Char) :
    readCodePoint 0 0 (Nat.toDigits 16 c.toNat ++ '\x7d' :: rest) = some (c, rest) := by
  have hlt : c.toNat < 16 ^ 6 := by
    have hvalid : c.toNat < 0xD800 ∨ 0xDFFF < c.toNat ∧ c.toNat < 0x110000 := c.valid
    omega
  have hlength : (Nat.toDigits 16 c.toNat).length ≤ 6 :=
    (Nat.length_toDigits_le_iff (by omega) (by omega)).mpr hlt
  have hpos : (Nat.toDigits 16 c.toNat).length ≠ 0 :=
    mt List.length_eq_zero_iff.mp Nat.toDigits_ne_nil
  rw [readCodePoint_toDigits_append (by omega), Nat.zero_mul, Nat.zero_add, Nat.zero_add,
    readCodePoint]
  simp only [show hexValue? '\x7d' = none by decide, if_neg hpos, charOfNat?_toNat]
  rfl

/-! ### Pieces -/

/-- A character that is neither a quote, a backslash nor a carriage return stands for itself. -/
theorem readBody_cons {c : Char} (hquote : c ≠ '"') (hreturn : c ≠ '\r') (hslash : c ≠ '\\')
    (fuel : Nat) (rest : List Char) :
    readBody .text (fuel + 1) (c :: rest) =
      (readBody .text fuel rest).map fun (s, r) => (c :: s, r) := by
  rw [readBody.eq_def]
  simp [hquote, hreturn, hslash]

/-- An escape stands for what it is read as. -/
theorem readBody_escape {c : Char} {cs rest : List Char} {value : Char}
    (h : readEscape .text (c :: cs) = some ([value], rest)) (hfeed : c ≠ '\n') (hreturn : c ≠ '\r')
    (fuel : Nat) :
    readBody .text (fuel + 1) ('\\' :: c :: cs) =
      (readBody .text fuel rest).map fun (s, r) => (value :: s, r) := by
  rw [readBody.eq_def]
  cases hrest : readBody .text fuel rest <;> simp [hfeed, hreturn, h, hrest]

/-- A character other than U+0000 is read back from its piece. -/
theorem readBody_escapeChar_append (c : Char) (fuel : Nat) (rest : List Char) :
    readBody .text (fuel + 1) (escapeChar c ++ rest) =
      (readBody .text fuel rest).map fun (s, r) => (c :: s, r) := by
  unfold escapeChar
  split_ifs with htab hreturn hfeed hslash hquote hprintable
  · subst htab
    exact readBody_escape rfl (by decide) (by decide) fuel
  · subst hreturn
    exact readBody_escape rfl (by decide) (by decide) fuel
  · subst hfeed
    exact readBody_escape rfl (by decide) (by decide) fuel
  · subst hslash
    exact readBody_escape rfl (by decide) (by decide) fuel
  · subst hquote
    exact readBody_escape rfl (by decide) (by decide) fuel
  · exact readBody_cons hquote hreturn hslash fuel rest
  · have hpoint : readEscape .text
        ('u' :: '\x7b' :: (Nat.toDigits 16 c.toNat ++ '\x7d' :: rest)) = some ([c], rest) := by
      simp [readEscape, readCodePoint_toNat]
    rw [escapeCodePoint, List.append_assoc, List.append_assoc]
    exact readBody_escape hpoint (by decide) (by decide) fuel

/-! ### Texts -/

theorem length_le_length_escape (cs : List Char) : cs.length ≤ (escape cs).length := by
  induction cs with
  | nil => exact Nat.le_refl 0
  | cons c cs ih =>
      have hpiece : 1 ≤ (escapeChar c).length := by
        unfold escapeChar
        split_ifs <;> simp [escapeCodePoint]
      rw [escape, List.length_append, List.length_cons]
      split_ifs <;> simp <;> omega

theorem readBody_escape_append {fuel : Nat} {cs : List Char} (h : cs.length < fuel)
    (rest : List Char) : readBody .text fuel (escape cs ++ '"' :: rest) = some (cs, rest) := by
  -- each character takes one of the steps that the reader is allowed
  induction cs generalizing fuel with
  | nil =>
      obtain ⟨fuel, rfl⟩ := Nat.exists_eq_add_of_lt h
      rfl
  | cons c cs ih =>
      obtain ⟨fuel, rfl⟩ : ∃ n, fuel = n + 1 := ⟨fuel - 1, by omega⟩
      have htail := ih (show cs.length < fuel by simpa using h)
      rw [escape, List.append_assoc]
      split_ifs with hzero hoctal
      · subst hzero
        have hread : ∀ tail, readEscape .text ('x' :: '0' :: '0' :: tail) =
            some (['\x00'], tail) := fun _ => rfl
        exact (readBody_escape (hread _) (by decide) (by decide) fuel).trans
          (congrArg (Option.map _) htail)
      · subst hzero
        have hread : ∀ tail, readEscape .text ('0' :: tail) = some (['\x00'], tail) :=
          fun _ => rfl
        exact (readBody_escape (hread _) (by decide) (by decide) fuel).trans
          (congrArg (Option.map _) htail)
      · rw [readBody_escapeChar_append, htail]
        rfl

/-- Every text is read back from its literal. -/
theorem read_literal (s : String) :
    ∃ body, (literal s).toList = '"' :: body ∧ read .text body = some (s.toList, []) := by
  refine ⟨escape s.toList ++ ['"'], String.toList_ofList, readBody_escape_append ?_ []⟩
  have hlength := length_le_length_escape s.toList
  rw [List.length_append]
  omega

end ApiClient.Quoted
