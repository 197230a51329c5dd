import ApiClient.Text.Utf8
import Mathlib.Tactic.SplitIfs

/-!
Reading UTF-8 back. The lead byte of a character tells how many bytes follow it, and the low bits of
its bytes put its code point together again, so every text is read back from its bytes.
-/

namespace ApiClient.Utf8

theorem toNat_toUInt8 {n : Nat} (h : n < 0x100) : n.toUInt8.toNat = n := by
  simp [Nat.toUInt8, h]

theorem toNat_ofNat {n : Nat} (h : n < 0x80) : (Char.ofNat n).toNat = n := by
  have hvalid : n.isValidChar := .inl (by omega)
  rw [Char.ofNat, dif_pos hvalid]
  rfl

/-- The byte of an ASCII character is its code point. -/
theorem encodeChar_ofNat {b : UInt8} (h : b.toNat < 0x80) :
    encodeChar (Char.ofNat b.toNat) = [b] := by
  simp [encodeChar, toNat_ofNat h, h]

/-! ### Lead bytes and the bytes that follow them -/

theorem followers_eq_some {b : UInt8} {k : Nat}
    (h : b.toNat < 0x80 ∧ k = 0 ∨ (0xC2 ≤ b.toNat ∧ b.toNat ≤ 0xDF) ∧ k = 1 ∨
      (0xE0 ≤ b.toNat ∧ b.toNat ≤ 0xEF) ∧ k = 2 ∨ (0xF0 ≤ b.toNat ∧ b.toNat ≤ 0xF4) ∧ k = 3) :
    followers b = some k := by
  simp only [followers, UInt8.lt_iff_toNat_lt, UInt8.le_iff_toNat_le, UInt8.reduceToNat,
    Bool.and_eq_true, decide_eq_true_eq]
  split_ifs <;> first | omega | (congr 1; omega)

theorem isContinuation_of_toNat {b : UInt8} (h : 0x80 ≤ b.toNat) (h' : b.toNat ≤ 0xBF) :
    isContinuation b = true := by
  simpa [isContinuation, UInt8.le_iff_toNat_le] using And.intro h h'

theorem secondOk_of_toNat {lead b : UInt8} (h : 0x80 ≤ b.toNat) (h' : b.toNat ≤ 0xBF)
    (hE0 : lead.toNat = 0xE0 → 0xA0 ≤ b.toNat) (hED : lead.toNat = 0xED → b.toNat ≤ 0x9F)
    (hF0 : lead.toNat = 0xF0 → 0x90 ≤ b.toNat) (hF4 : lead.toNat = 0xF4 → b.toNat ≤ 0x8F) :
    secondOk lead b = true := by
  simp only [secondOk, isContinuation, ← UInt8.toNat_inj, UInt8.le_iff_toNat_le,
    UInt8.reduceToNat]
  split_ifs <;> simp only [Bool.and_eq_true, decide_eq_true_eq] <;> omega

/-! ### One character at a time -/

theorem split_one {lead : UInt8} (hlead : followers lead = some 0) (rest : Bytes) :
    split (lead :: rest) = some (Char.ofNat lead.toNat) :: split rest := by
  rw [split.eq_def]
  simp only [hlead]

theorem split_two {lead b : UInt8} (hlead : followers lead = some 1)
    (hb : isContinuation b = true) (rest : Bytes) :
    split (lead :: b :: rest) =
      some (Char.ofNat (lead.toNat % 0x20 * 0x40 + payload b)) :: split rest := by
  rw [split.eq_def]
  simp only [hlead, hb, if_true]

theorem split_three {lead b c : UInt8} (hlead : followers lead = some 2)
    (hb : secondOk lead b = true) (hc : isContinuation c = true) (rest : Bytes) :
    split (lead :: b :: c :: rest) =
      some (Char.ofNat (lead.toNat % 0x10 * 0x1000 + payload b * 0x40 + payload c))
        :: split rest := by
  rw [split.eq_def]
  simp only [hlead, hb, hc, if_true]

theorem split_four {lead b c d : UInt8} (hlead : followers lead = some 3)
    (hb : secondOk lead b = true) (hc : isContinuation c = true) (hd : isContinuation d = true)
    (rest : Bytes) :
    split (lead :: b :: c :: d :: rest) =
      some (Char.ofNat (lead.toNat % 0x08 * 0x40000 + payload b * 0x1000 + payload c * 0x40
        + payload d)) :: split rest := by
  rw [split.eq_def]
  simp only [hlead, hb, hc, hd, if_true]

theorem toNat_valid (c : Char) : c.toNat < 0xD800 ∨ 0xDFFF < c.toNat ∧ c.toNat < 0x110000 :=
  c.valid

theorem split_encodeChar_append (c : Char) (rest : Bytes) :
    split (encodeChar c ++ rest) = some c :: split rest := by
  have hvalid := toNat_valid c
  have hchar : Char.ofNat c.toNat = c := Char.ofNat_toNat c
  dsimp only [encodeChar]
  generalize c.toNat = n at *
  split_ifs with h1 h2 h3
  · have hlead : n.toUInt8.toNat = n := toNat_toUInt8 (by omega)
    rw [List.singleton_append, split_one (followers_eq_some (by omega)), hlead, hchar]
  · have hlead : (0xC0 + n / 0x40).toUInt8.toNat = 0xC0 + n / 0x40 := toNat_toUInt8 (by omega)
    have hb : (0x80 + n % 0x40).toUInt8.toNat = 0x80 + n % 0x40 := toNat_toUInt8 (by omega)
    rw [List.cons_append, List.singleton_append,
      split_two (followers_eq_some (by omega))
        (isContinuation_of_toNat (by omega) (by omega)), payload, hlead, hb]
    rw [show (0xC0 + n / 0x40) % 0x20 * 0x40 + (0x80 + n % 0x40) % 0x40 = n by omega, hchar]
  · have hlead : (0xE0 + n / 0x1000).toUInt8.toNat = 0xE0 + n / 0x1000 :=
      toNat_toUInt8 (by omega)
    have hb : (0x80 + n / 0x40 % 0x40).toUInt8.toNat = 0x80 + n / 0x40 % 0x40 :=
      toNat_toUInt8 (by omega)
    have hc : (0x80 + n % 0x40).toUInt8.toNat = 0x80 + n % 0x40 := toNat_toUInt8 (by omega)
    rw [List.cons_append, List.cons_append, List.singleton_append,
      split_three (followers_eq_some (by omega))
        (secondOk_of_toNat (by omega) (by omega) (by omega) (by omega) (by omega) (by omega))
        (isContinuation_of_toNat (by omega) (by omega)), payload, payload, hlead, hb, hc]
    rw [show (0xE0 + n / 0x1000) % 0x10 * 0x1000 + (0x80 + n / 0x40 % 0x40) % 0x40 * 0x40
      + (0x80 + n % 0x40) % 0x40 = n by omega, hchar]
  · have hlead : (0xF0 + n / 0x40000).toUInt8.toNat = 0xF0 + n / 0x40000 :=
      toNat_toUInt8 (by omega)
    have hb : (0x80 + n / 0x1000 % 0x40).toUInt8.toNat = 0x80 + n / 0x1000 % 0x40 :=
      toNat_toUInt8 (by omega)
    have hc : (0x80 + n / 0x40 % 0x40).toUInt8.toNat = 0x80 + n / 0x40 % 0x40 :=
      toNat_toUInt8 (by omega)
    have hd : (0x80 + n % 0x40).toUInt8.toNat = 0x80 + n % 0x40 := toNat_toUInt8 (by omega)
    rw [List.cons_append, List.cons_append, List.cons_append, List.singleton_append,
      split_four (followers_eq_some (by omega))
        (secondOk_of_toNat (by omega) (by omega) (by omega) (by omega) (by omega) (by omega))
        (isContinuation_of_toNat (by omega) (by omega))
        (isContinuation_of_toNat (by omega) (by omega)),
      payload, payload, payload, hlead, hb, hc, hd]
    rw [show (0xF0 + n / 0x40000) % 0x08 * 0x40000 + (0x80 + n / 0x1000 % 0x40) % 0x40 * 0x1000
      + (0x80 + n / 0x40 % 0x40) % 0x40 * 0x40 + (0x80 + n % 0x40) % 0x40 = n by omega, hchar]

/-! ### Texts -/

theorem split_encode (text : List Char) : split (encode text) = text.map some := by
  induction text with
  | nil => rfl
  | cons c text ih =>
      rw [encode, List.flatMap_cons, split_encodeChar_append, List.map_cons]
      exact congrArg _ ih

/-- Every text is read back from its bytes. -/
@[simp] theorem decode?_encode (text : List Char) : decode? (encode text) = some text := by
  rw [decode?, split_encode]
  induction text with
  | nil => rfl
  | cons c text ih => simp [ih]

/-- Different texts have different bytes. -/
theorem encode_injective : Function.Injective encode := by
  intro a b h
  have hread := congrArg decode? h
  simpa using hread

end ApiClient.Utf8
