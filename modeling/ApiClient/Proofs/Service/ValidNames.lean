import ApiClient.Proofs.Lists
import ApiClient.Proofs.Service.FunctionNames

/-!
The names of functions as identifiers of the language. A name begins with a lower case letter, goes
on in letters, digits and underscores, and is no reserved word, or it is a reserved word written
raw. A number behind it changes nothing of this, nor does the way in which ids are brought to
ASCII.
-/

namespace ApiClient.Service

open Code

variable {toAscii : List Char → List Char}

/-! ### Characters -/

theorem toNat_lt_of_isNameChar {c : Char} (h : isNameChar c = true) : c.toNat < 0x80 := by
  simp only [isNameChar, Char.isAlphanum, LetterCase.isAlpha_eq_or, Char.isDigit, Bool.or_eq_true,
    Bool.and_eq_true, LetterCase.isUpper_iff, LetterCase.isLower_iff, decide_eq_true_eq, ge_iff_le,
    UInt32.le_iff_toNat_le] at h
  show c.val.toNat < 0x80
  rcases h with ((⟨-, h⟩ | ⟨-, h⟩) | ⟨-, h⟩) | rfl
  · exact Nat.lt_of_le_of_lt h (by decide)
  · exact Nat.lt_of_le_of_lt h (by decide)
  · exact Nat.lt_of_le_of_lt h (by decide)
  · decide

theorem isContinue_of_isNameChar {c : Char} (h : isNameChar c = true) :
    IdentifierChars.isContinue c = true := by
  rw [IdentifierChars.isContinue, if_pos (toNat_lt_of_isNameChar h)]
  exact h

theorem isWordStart_of_isLower {c : Char} (h : c.isLower = true) : isWordStart c = true := by
  have hascii : c.toNat < 0x80 := by
    simp only [LetterCase.isLower_iff, ge_iff_le, UInt32.le_iff_toNat_le] at h
    exact Nat.lt_of_le_of_lt h.2 (by decide)
  rw [isWordStart, IdentifierChars.isStart, if_pos hascii, LetterCase.isAlpha_eq_or, h, Bool.or_true,
    Bool.or_true]

/-! ### What names begin with -/

theorem head_snakeCase (c : Char) (cs : List Char) :
    (snakeCase (c :: cs)).head? = some c.toLower := by
  cases cs with
  | nil => rfl
  | cons d cs =>
      rw [snakeCase]
      split
      case isTrue h =>
        rw [Bool.and_eq_true] at h
        rw [List.head?_cons, LetterCase.toLower_of_not_isUpper
          (LetterCase.not_isUpper_of_isLower h.1)]
      case isFalse => rfl

/-- Words begin with what was a letter or a digit. -/
theorem head_words {operationId : String} (h : (words toAscii operationId).isEmpty = false) :
    ∃ c : Char, c.isAlphanum = true ∧
      (words toAscii operationId).toList.head? = some c.toLower := by
  rw [words, String.toList_ofList]
  cases hchars : (toAscii operationId.toList).dropWhile (!·.isAlphanum) with
  | nil =>
      rw [words, sanitizeWith, hchars] at h
      cases h
  | cons c rest =>
      have hc : c.isAlphanum = true := by
        simpa using (eq_of_dropWhile_eq_cons hchars).2.2
      refine ⟨c, hc, ?_⟩
      rw [sanitizeWith, hchars, joinWords, if_pos hc]
      exact head_snakeCase c _

theorem isLower_toLower {c : Char} (h : c.isAlphanum = true)
    (hdigit : c.toLower.isDigit = false) : c.toLower.isLower = true := by
  rw [LetterCase.isLower_toLower]
  rw [Char.isAlphanum, Bool.or_eq_true] at h
  refine h.resolve_right fun hc => ?_
  rw [toLower_of_isDigit hc, hc] at hdigit
  cases hdigit

/-! ### Names -/

/-- A lower case letter, then letters, digits and underscores, and none of these words. -/
def isNameOutside (excluded : List String) (name : String) : Bool :=
  name.toList.head?.any (·.isLower) && name.toList.all isNameChar && !excluded.contains name

theorem isNameOutside_iff {excluded : List String} {name : String} :
    isNameOutside excluded name = true ↔
      (∃ c, name.toList.head? = some c ∧ c.isLower = true) ∧
        (∀ c ∈ name.toList, isNameChar c = true) ∧ name ∉ excluded := by
  simp [isNameOutside, Option.any_eq_true, and_assoc]

/-- A number behind a name makes it none of the words, where these have no digits. -/
theorem isNameOutside_candidate {excluded : List String}
    (hexcluded : ∀ word ∈ excluded, ∀ c ∈ word.toList, c.isDigit = false) {base : String}
    (h : isNameOutside excluded base = true) (i : Nat) :
    isNameOutside excluded (candidate base i) = true := by
  rw [isNameOutside_iff] at h ⊢
  obtain ⟨⟨c, hhead, hc⟩, hchars, houtside⟩ := h
  refine ⟨⟨c, ?_, hc⟩, ?_, ?_⟩
  · rw [toList_candidate, List.head?_append, hhead, Option.some_or]
  · intro d hd
    rw [toList_candidate] at hd
    rcases List.mem_append.mp hd with hd | hd
    · exact hchars d hd
    · rw [isNameChar, Char.isAlphanum, isDigit_of_mem_suffix hd, Bool.or_true, Bool.true_or]
  · intro hmem
    obtain ⟨-, hbase⟩ := candidate_eq_of_no_digit (hexcluded _ hmem) rfl
    exact houtside (hbase ▸ hmem)

theorem isWord_of_isNameOutside {excluded : List String} {name : String}
    (h : isNameOutside excluded name = true) : isWord name.toList = true := by
  obtain ⟨⟨c, hhead, hc⟩, hchars, -⟩ := isNameOutside_iff.mp h
  obtain ⟨rest, hname⟩ := List.head?_eq_some_iff.mp hhead
  rw [hname] at hchars ⊢
  rw [isWord, isWordStart_of_isLower hc, Bool.true_and, List.all_eq_true]
  exact fun d hd => isContinue_of_isNameChar (hchars d (List.mem_cons_of_mem c hd))

/-- Names that are no reserved words are identifiers. -/
theorem isIdent_of_isNameOutside {name : String}
    (h : isNameOutside reservedWords name = true) : isIdent name = true := by
  obtain ⟨-, hchars, houtside⟩ := isNameOutside_iff.mp h
  unfold isIdent
  split
  case h_1 word hword =>
    have hhash := hchars '#' (by simp [hword])
    cases hhash
  case h_2 => simp [isWord_of_isNameOutside h, houtside]

/-- Names that may be written raw are identifiers so. -/
theorem isIdent_raw {name : String} (h : isNameOutside notRaw name = true) :
    isIdent (raw name) = true := by
  have hchars : (raw name).toList = 'r' :: '#' :: name.toList := by simp [raw]
  have houtside : name ∉ notRaw := (isNameOutside_iff.mp h).2.2
  rw [isIdent, hchars]
  simp [isWord_of_isNameOutside h, houtside]

/-! ### Names of functions -/

theorem not_isDigit_of_reserved : ∀ word ∈ reservedWords ++ notRaw, ∀ c ∈ word.toList,
    c.isDigit = false := by
  have hall : (reservedWords ++ notRaw).all (fun word =>
      word.toList.all fun c => !c.isDigit) = true := by decide
  intro word hword c hc
  simpa using List.all_eq_true.mp (List.all_eq_true.mp hall word hword) c hc

theorem isNameOutside_of_keyword : ∀ word ∈ keywords, isNameOutside notRaw word = true := by
  decide

/-- A function's name is a reserved word written raw, or a name that is no reserved word. -/
theorem isNameOutside_fnName (operationId : String) :
    (∃ word ∈ keywords, fnName operationId toAscii = raw word) ∨
      isNameOutside reservedWords (fnName operationId toAscii) = true := by
  have hchars : ∀ c ∈ (words toAscii operationId).toList, isNameChar c = true :=
    fun c => isNameChar_of_mem_words
  rw [fnName_eq]
  split
  case isTrue => exact .inr (by decide)
  case isFalse hempty =>
  split
  case isTrue hpath =>
    have hall : ∀ word ∈ pathKeywords, isNameOutside reservedWords (word ++ "_") = true := by
      decide
    exact .inr (hall _ (by simpa using hpath))
  case isFalse hpath =>
  split
  case isTrue hkeyword => exact .inl ⟨_, by simpa using hkeyword, rfl⟩
  case isFalse hkeyword =>
  split
  case isTrue hdigit =>
    refine .inr (isNameOutside_iff.mpr ⟨⟨'o', by simp, by decide⟩, ?_, ?_⟩)
    · intro c hc
      rw [String.toList_append, List.mem_append] at hc
      rcases hc with hc | hc
      · have hall : "op_".toList.all isNameChar = true := by decide
        exact List.all_eq_true.mp hall c hc
      · exact hchars c hc
    · have hall : ∀ word ∈ reservedWords, ¬"op_".toList <+: word.toList := by decide
      intro hmem
      exact hall _ hmem (by simp)
  case isFalse hdigit =>
    -- words that begin with no digit begin with a letter, which is in lower case
    have hempty : (words toAscii operationId).isEmpty = false := by simpa using hempty
    obtain ⟨c, hc, hhead⟩ := head_words hempty
    have hlower : c.toLower.isLower = true := isLower_toLower hc (by simpa [hhead] using hdigit)
    refine .inr (isNameOutside_iff.mpr ⟨⟨_, hhead, hlower⟩, hchars, ?_⟩)
    have hall : ∀ word ∈ reservedWords, word ∈ keywords ∨ word ∈ pathKeywords ∨
        word.toList.head?.any (·.isLower) = false := by decide
    intro hmem
    rcases hall _ hmem with h | h | h
    · exact hkeyword (by simpa using h)
    · exact hpath (by simpa using h)
    · simp [hhead, hlower] at h

/-- A function's name is an identifier, whatever number is behind it. -/
theorem isIdent_candidate_fnName (operationId : String) (i : Nat) :
    isIdent (candidate (fnName operationId toAscii) i) = true := by
  have hreserved : ∀ word ∈ reservedWords, ∀ c ∈ word.toList, c.isDigit = false :=
    fun word hword => not_isDigit_of_reserved word (List.mem_append_left _ hword)
  have hraw : ∀ word ∈ notRaw, ∀ c ∈ word.toList, c.isDigit = false :=
    fun word hword => not_isDigit_of_reserved word (List.mem_append_right _ hword)
  rcases isNameOutside_fnName operationId with ⟨word, hword, hname⟩ | hname
  · rw [hname, candidate_raw]
    exact isIdent_raw (isNameOutside_candidate hraw (isNameOutside_of_keyword word hword) i)
  · exact isIdent_of_isNameOutside (isNameOutside_candidate hreserved hname i)

/-- Names stay identifiers when they are made unique. -/
theorem isIdent_ensureUnique_fnName (operationId : String) (used : List String) :
    isIdent (ensureUnique (fnName operationId toAscii) used) = true := by
  obtain ⟨i, -, hname, -⟩ := ensureUnique_spec (fnName operationId toAscii) used
  rw [hname]
  exact isIdent_candidate_fnName operationId i

end ApiClient.Service
