import ApiClient.Proofs.Text.Utf8
import ApiClient.Text.Percent

/-!
Percent encoding read back. What was encoded consists of letters, digits and `-._~%` only, so no
separator of a URL occurs in it, and decoding it gives the text again. The same holds of what was
encoded for a form, in which a plus sign stands for every blank and for nothing else.
-/

namespace ApiClient.Percent

/-! ### Bytes -/

theorem hexValue?_hexDigit {n : Nat} (h : n < 16) : hexValue? (hexDigit n) = some n := by
  revert n
  decide

theorem toNat_lt_of_isUnreserved {b : UInt8} (h : isUnreserved b = true) :
    b.toNat < 0x80 ∧ b.toNat ≠ 0x25 := by
  simp only [isUnreserved, UInt8.le_iff_toNat_le, ← UInt8.toNat_inj, UInt8.reduceToNat,
    Bool.or_eq_true, Bool.and_eq_true, decide_eq_true_eq] at h
  omega

theorem ofNat_ne_percent {b : UInt8} (h : isUnreserved b = true) : Char.ofNat b.toNat ≠ '%' := by
  obtain ⟨hlt, hne⟩ := toNat_lt_of_isUnreserved h
  intro heq
  have hcode := congrArg Char.toNat heq
  rw [Utf8.toNat_ofNat hlt] at hcode
  exact hne hcode

/-- A character other than the percent sign stands for itself. -/
theorem decodeBytes_cons_of_ne {c : Char} (h : c ≠ '%') (rest : List Char) :
    decodeBytes (c :: rest) = Utf8.encodeChar c ++ decodeBytes rest := by
  rw [decodeBytes.eq_def]
  split
  · simp_all
  · simp_all
  · simp_all

theorem decodeBytes_encodeByte_append (b : UInt8) (rest : List Char) :
    decodeBytes (encodeByte b ++ rest) = b :: decodeBytes rest := by
  have hb : b.toNat < 256 := b.toNat_lt
  unfold encodeByte
  split
  case isTrue h =>
    rw [List.singleton_append, decodeBytes_cons_of_ne (ofNat_ne_percent h),
      Utf8.encodeChar_ofNat (toNat_lt_of_isUnreserved h).1]
    rfl
  case isFalse =>
    have hhigh := hexValue?_hexDigit (show b.toNat / 16 < 16 by omega)
    have hlow := hexValue?_hexDigit (show b.toNat % 16 < 16 by omega)
    have hvalue : (16 * (b.toNat / 16) + b.toNat % 16).toUInt8 = b := by
      rw [Nat.div_add_mod]
      exact UInt8.ofNat_toNat
    simp only [List.cons_append, List.nil_append, decodeBytes, hhigh, hlow, hvalue]

theorem decodeBytes_flatMap_encodeByte (bytes : Bytes) :
    decodeBytes (bytes.flatMap encodeByte) = bytes := by
  induction bytes with
  | nil => rfl
  | cons b bytes ih => rw [List.flatMap_cons, decodeBytes_encodeByte_append, ih]

/-! ### Texts -/

/-- Decoding gives back every text that was encoded. -/
@[simp] theorem decode?_encode (text : List Char) : decode? (encode text) = some text := by
  rw [decode?, encode, decodeBytes_flatMap_encodeByte, Utf8.decode?_encode]

/-- The characters that an encoded text is made of. -/
def isEncodedChar (c : Char) : Bool := c.isAlphanum || ['-', '.', '_', '~', '%'].contains c

theorem isEncodedChar_hexDigit {n : Nat} (h : n < 16) : isEncodedChar (hexDigit n) = true := by
  revert n
  decide

theorem isEncodedChar_ofNat {b : UInt8} (h : isUnreserved b = true) :
    isEncodedChar (Char.ofNat b.toNat) = true := by
  have hlt := (toNat_lt_of_isUnreserved h).1
  have hall : ∀ n < 0x80, isUnreserved n.toUInt8 = true → isEncodedChar (Char.ofNat n) = true := by
    decide
  exact hall b.toNat hlt (by simpa using h)

theorem isEncodedChar_of_mem_encodeByte {c : Char} {b : UInt8} (h : c ∈ encodeByte b) :
    isEncodedChar c = true := by
  have hb : b.toNat < 256 := b.toNat_lt
  unfold encodeByte at h
  split at h
  case isTrue hunreserved =>
    rw [List.mem_singleton.mp h]
    exact isEncodedChar_ofNat hunreserved
  case isFalse =>
    simp only [List.mem_cons, List.not_mem_nil, or_false] at h
    rcases h with rfl | rfl | rfl
    · decide
    · exact isEncodedChar_hexDigit (by omega)
    · exact isEncodedChar_hexDigit (by omega)

theorem isEncodedChar_of_mem_encode {c : Char} {text : List Char} (h : c ∈ encode text) :
    isEncodedChar c = true := by
  obtain ⟨b, -, hb⟩ := List.mem_flatMap.mp h
  exact isEncodedChar_of_mem_encodeByte hb

/-- Separators do not occur in what was encoded. -/
theorem not_mem_encode {c : Char} (hc : isEncodedChar c = false) (text : List Char) :
    c ∉ encode text := by
  intro h
  simp [isEncodedChar_of_mem_encode h] at hc

/-! ### Forms -/

/-- A byte as it stands in a form. -/
def encodeFormByte (b : UInt8) : List Char := if b = 0x20 then ['+'] else encodeByte b

/-- A character that begins no escaped blank is kept. -/
theorem plusForBlank_cons {c : Char} {rest : List Char}
    (h : c = '%' → ∀ after, rest ≠ '2' :: '0' :: after) :
    plusForBlank (c :: rest) = c :: plusForBlank rest := by
  rw [plusForBlank]
  intro after hc hrest
  exact h hc after hrest

theorem plusForBlank_cons_of_ne {c : Char} (h : c ≠ '%') (rest : List Char) :
    plusForBlank (c :: rest) = c :: plusForBlank rest :=
  plusForBlank_cons fun hc => absurd hc h

theorem hexDigit_ne_percent {n : Nat} (h : n < 16) : hexDigit n ≠ '%' := by
  revert n
  decide

theorem hexDigit_injective {m n : Nat} (hm : m < 16) (hn : n < 16) (h : hexDigit m = hexDigit n) :
    m = n := by
  have hvalue := hexValue?_hexDigit hm
  rw [h, hexValue?_hexDigit hn] at hvalue
  exact (Option.some.inj hvalue).symm

/-- An escape begins at every percent sign and nowhere else, so a blank is replaced as a whole and
no two escapes make one between them. -/
theorem plusForBlank_encodeByte_append (b : UInt8) (rest : List Char) :
    plusForBlank (encodeByte b ++ rest) = encodeFormByte b ++ plusForBlank rest := by
  have hb : b.toNat < 256 := b.toNat_lt
  by_cases hblank : b = 0x20
  · subst hblank
    rfl
  rw [encodeFormByte, if_neg hblank]
  unfold encodeByte
  split
  case isTrue hunreserved =>
    rw [List.singleton_append, plusForBlank_cons_of_ne (ofNat_ne_percent hunreserved)]
    rfl
  case isFalse =>
    have hhigh : b.toNat / 16 < 16 := by omega
    have hlow : b.toNat % 16 < 16 := by omega
    have hkept : ∀ after, hexDigit (b.toNat / 16) :: hexDigit (b.toNat % 16) :: rest ≠
        '2' :: '0' :: after := by
      intro after heq
      obtain ⟨h2, heq⟩ := List.cons.inj heq
      have hhigh2 := hexDigit_injective hhigh (by omega : 2 < 16) h2
      have hlow0 := hexDigit_injective hlow (by omega : 0 < 16) (List.cons.inj heq).1
      apply hblank
      apply UInt8.toNat_inj.mp
      simp only [UInt8.reduceToNat]
      omega
    rw [List.cons_append, List.cons_append, List.singleton_append,
      plusForBlank_cons fun _ => hkept,
      plusForBlank_cons_of_ne (hexDigit_ne_percent hhigh),
      plusForBlank_cons_of_ne (hexDigit_ne_percent hlow)]
    rfl

/-- A text stands in a form byte for byte. -/
theorem encodeForm_eq_flatMap (text : List Char) :
    encodeForm text = (Utf8.encode text).flatMap encodeFormByte := by
  rw [encodeForm, encode]
  induction Utf8.encode text with
  | nil => rfl
  | cons b bytes ih =>
      rw [List.flatMap_cons, plusForBlank_encodeByte_append, ih, List.flatMap_cons]

theorem map_plusToBlank_encodeByte (b : UInt8) :
    (encodeByte b).map plusToBlank = encodeByte b := by
  have hplus : ∀ c ∈ encodeByte b, plusToBlank c = c := by
    intro c hc
    rw [plusToBlank, if_neg]
    rintro rfl
    exact absurd (isEncodedChar_of_mem_encodeByte hc) (by decide)
  rw [List.map_congr_left hplus, List.map_id']

theorem decodeBytes_encodeFormByte_append (b : UInt8) (rest : List Char) :
    decodeBytes ((encodeFormByte b ++ rest).map plusToBlank) =
      b :: decodeBytes (rest.map plusToBlank) := by
  rw [List.map_append]
  unfold encodeFormByte
  split
  case isTrue h =>
    subst h
    exact decodeBytes_cons_of_ne (by decide) _
  case isFalse => rw [map_plusToBlank_encodeByte, decodeBytes_encodeByte_append]

/-- Decoding gives back every text that was encoded for a form. -/
@[simp] theorem decodeForm?_encodeForm (text : List Char) :
    decodeForm? (encodeForm text) = some text := by
  have hbytes : ∀ bytes : Bytes,
      decodeBytes ((bytes.flatMap encodeFormByte).map plusToBlank) = bytes := by
    intro bytes
    induction bytes with
    | nil => rfl
    | cons b bytes ih => rw [List.flatMap_cons, decodeBytes_encodeFormByte_append, ih]
  rw [decodeForm?, decode?, encodeForm_eq_flatMap, hbytes, Utf8.decode?_encode]

/-- Separators other than the plus sign do not occur in what was encoded for a form. -/
theorem not_mem_encodeForm {c : Char} (hc : isEncodedChar c = false) (hplus : c ≠ '+')
    (text : List Char) : c ∉ encodeForm text := by
  rw [encodeForm_eq_flatMap]
  intro h
  obtain ⟨b, -, hb⟩ := List.mem_flatMap.mp h
  unfold encodeFormByte at hb
  split at hb
  case isTrue => exact hplus (List.mem_singleton.mp hb)
  case isFalse => simp [isEncodedChar_of_mem_encodeByte hb] at hc

end ApiClient.Percent
