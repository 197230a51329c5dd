import ApiClient.Proofs.Service.ValidNames

/-!
Texts brought to words of ASCII letters and digits with single underscores between them. The words
are what is left when all other characters are rewritten to underscores, underscores in a row are
made one, and those at both ends are dropped; and a text that consists of such words already stays
as it is.
-/

namespace ApiClient.Service

/-- Runs of letters and digits, none of them empty. -/
def AreWords (words : List (List Char)) : Prop :=
  ∀ w ∈ words, w ≠ [] ∧ ∀ c ∈ w, c.isAlphanum = true

/-- Words joined by single underscores. -/
def IsSanitized (cs : List Char) : Prop := ∃ words, AreWords words ∧ cs = ['_'].intercalate words

/-! ### Rewriting in steps -/

/-- Each run of characters that pass becomes one underscore. The flag says that a run has begun. -/
def squeeze (p : Char → Bool) : (inside : Bool) → List Char → List Char
  | _, [] => []
  | inside, c :: rest =>
    if p c then (if inside then [] else ['_']) ++ squeeze p true rest
    else c :: squeeze p false rest

/-- What separates words. -/
def isSeparator (c : Char) : Bool := !c.isAlphanum

def isUnderscore (c : Char) : Bool := c == '_'

/-- Separators other than underscores. -/
def isForeign (c : Char) : Bool := isSeparator c && !isUnderscore c

/-- The text without the underscores at both ends. -/
def trimUnderscores (cs : List Char) : List Char :=
  (cs.dropWhile isUnderscore).rdropWhile isUnderscore

/-- Runs of foreign characters become underscores, runs of underscores become one, and those at the
ends go. -/
def rewriteForeign (cs : List Char) : List Char :=
  trimUnderscores (squeeze isUnderscore false (squeeze isForeign false cs))

theorem squeeze_cons_of_pos {p : Char → Bool} {c : Char} (h : p c = true) (inside : Bool)
    (rest : List Char) :
    squeeze p inside (c :: rest) = (if inside then [] else ['_']) ++ squeeze p true rest := by
  rw [squeeze, if_pos h]

theorem squeeze_cons_of_neg {p : Char → Bool} {c : Char} (h : p c = false) (inside : Bool)
    (rest : List Char) : squeeze p inside (c :: rest) = c :: squeeze p false rest := by
  rw [squeeze, if_neg (by simp [h])]

theorem isUnderscore_of_not_isSeparator {c : Char} (h : isSeparator c = false) :
    isUnderscore c = false := by
  apply beq_false_of_ne
  rintro rfl
  cases h

/-- In two steps, each run of separators becomes one underscore. The flags of the steps differ only
right behind an underscore of the text. -/
theorem squeeze_squeeze (foreign inside : Bool) (h : foreign = true → inside = true)
    (cs : List Char) :
    squeeze isUnderscore inside (squeeze isForeign foreign cs) = squeeze isSeparator inside cs := by
  induction cs generalizing foreign inside with
  | nil => rfl
  | cons c cs ih =>
      cases hc : isSeparator c with
      | false =>
          have hunderscore := isUnderscore_of_not_isSeparator hc
          have hforeign : isForeign c = false := by rw [isForeign, hc, Bool.false_and]
          rw [squeeze_cons_of_neg hforeign, squeeze_cons_of_neg hunderscore,
            squeeze_cons_of_neg hc, ih false false nofun]
      | true =>
          rw [squeeze_cons_of_pos hc]
          cases hunderscore : isUnderscore c with
          | true =>
              have hforeign : isForeign c = false := by rw [isForeign, hc, hunderscore]; rfl
              rw [squeeze_cons_of_neg hforeign, squeeze_cons_of_pos hunderscore,
                ih false true nofun]
          | false =>
              have hforeign : isForeign c = true := by rw [isForeign, hc, hunderscore]; rfl
              rw [squeeze_cons_of_pos hforeign]
              cases foreign with
              | false =>
                  rw [if_neg Bool.false_ne_true, List.singleton_append, squeeze_cons_of_pos rfl,
                    ih true true fun _ => rfl]
              | true =>
                  rw [h rfl, if_pos rfl, List.nil_append, List.nil_append, ih true true fun _ => rfl]

/-- Underscores at the beginning come from separators at the beginning. -/
theorem dropWhile_squeeze (inside : Bool) (cs : List Char) :
    (squeeze isSeparator inside cs).dropWhile isUnderscore =
      squeeze isSeparator false (cs.dropWhile isSeparator) := by
  induction cs generalizing inside with
  | nil => rfl
  | cons c cs ih =>
      cases hc : isSeparator c with
      | false =>
          have hunderscore := isUnderscore_of_not_isSeparator hc
          rw [List.dropWhile_cons_of_neg (by simp [hc]), squeeze_cons_of_neg hc,
            squeeze_cons_of_neg hc, List.dropWhile_cons_of_neg (by simp [hunderscore])]
      | true =>
          rw [List.dropWhile_cons_of_pos hc, squeeze_cons_of_pos hc, ← ih true]
          cases inside <;> rfl

/-- An underscore that is written when a run begins is one that is due until the next word. -/
theorem rdropWhile_squeeze (cs : List Char) :
    (squeeze isSeparator false cs).rdropWhile isUnderscore = joinWords false cs ∧
      ('_' :: squeeze isSeparator true cs).rdropWhile isUnderscore = joinWords true cs := by
  induction cs with
  | nil => exact ⟨rfl, rfl⟩
  | cons c cs ih =>
      cases hc : isSeparator c with
      | false =>
          have halphanum : c.isAlphanum = true := by simpa [isSeparator] using hc
          have hword : (c :: squeeze isSeparator false cs).rdropWhile isUnderscore =
              c :: joinWords false cs := by
            rw [rdropWhile_cons, if_neg (by simp [isUnderscore_of_not_isSeparator hc]), ih.1]
          rw [squeeze_cons_of_neg hc, squeeze_cons_of_neg hc, joinWords, joinWords,
            if_pos halphanum, if_pos halphanum]
          refine ⟨hword, ?_⟩
          -- the underscore stays, since a word comes behind it
          rw [rdropWhile_cons, if_neg (by simp [isUnderscore_of_not_isSeparator hc]), hword]
          rfl
      | true =>
          have halphanum : ¬ c.isAlphanum = true := by simpa [isSeparator] using hc
          rw [squeeze_cons_of_pos hc, squeeze_cons_of_pos hc, joinWords, joinWords,
            if_neg halphanum, if_neg halphanum]
          exact ⟨ih.2, ih.2⟩

theorem rewriteForeign_eq (cs : List Char) :
    rewriteForeign cs = joinWords false (cs.dropWhile isSeparator) := by
  rw [rewriteForeign, trimUnderscores, squeeze_squeeze false false nofun, dropWhile_squeeze,
    (rdropWhile_squeeze _).1]

/-! ### Words -/

theorem areWords_nil : AreWords [] := List.forall_mem_nil _

theorem areWords_cons {c : Char} {w : List Char} {words : List (List Char)}
    (hw : ∀ d ∈ c :: w, d.isAlphanum = true) (hwords : AreWords words) :
    AreWords ((c :: w) :: words) :=
  List.forall_mem_cons.mpr ⟨⟨List.cons_ne_nil c w, hw⟩, hwords⟩

/-- Words, each behind an underscore. -/
def underscored (words : List (List Char)) : List Char := words.flatMap ('_' :: ·)

theorem intercalate_cons_eq (w : List Char) (words : List (List Char)) :
    ['_'].intercalate (w :: words) = w ++ underscored words := by
  induction words generalizing w with
  | nil => simp [underscored]
  | cons w' words ih =>
      rw [List.intercalate_cons_cons, ih, underscored, underscored, List.flatMap_cons]
      simp

/-- What is joined are words behind underscores; the first may go on a word that has begun. -/
theorem joinWords_cases (cs : List Char) :
    (∃ words, AreWords words ∧ joinWords true cs = underscored words) ∧
      ∃ w words, (∀ c ∈ w, c.isAlphanum = true) ∧ AreWords words ∧
        joinWords false cs = w ++ underscored words := by
  induction cs with
  | nil => exact ⟨⟨[], areWords_nil, rfl⟩, [], [], List.forall_mem_nil _, areWords_nil, rfl⟩
  | cons c cs ih =>
      obtain ⟨⟨words, hwords, htrue⟩, w, words', hw, hwords', hfalse⟩ := ih
      rw [joinWords, joinWords]
      by_cases hc : c.isAlphanum = true
      · have hcw : ∀ d ∈ c :: w, d.isAlphanum = true := List.forall_mem_cons.mpr ⟨hc, hw⟩
        rw [if_pos hc, if_pos hc, hfalse]
        exact ⟨⟨(c :: w) :: words', areWords_cons hcw hwords', rfl⟩, c :: w, words', hcw, hwords',
          rfl⟩
      · rw [if_neg hc, if_neg hc, htrue]
        exact ⟨⟨words, hwords, rfl⟩, [], words, List.forall_mem_nil _, hwords, rfl⟩

theorem isSanitized_sanitizeWith (toAscii : List Char → List Char) (cs : List Char) :
    IsSanitized (sanitizeWith toAscii cs) := by
  rw [sanitizeWith]
  cases hrest : (toAscii cs).dropWhile (!·.isAlphanum) with
  | nil => exact ⟨[], areWords_nil, rfl⟩
  | cons c rest =>
      have hc : c.isAlphanum = true := by simpa using (eq_of_dropWhile_eq_cons hrest).2.2
      obtain ⟨w, words, hw, hwords, hjoined⟩ := (joinWords_cases rest).2
      refine ⟨(c :: w) :: words, areWords_cons (List.forall_mem_cons.mpr ⟨hc, hw⟩) hwords, ?_⟩
      rw [joinWords, if_pos hc, hjoined, intercalate_cons_eq]
      rfl

/-! ### Sanitized texts -/

theorem joinWords_append {w : List Char} (hw : ∀ c ∈ w, c.isAlphanum = true) (rest : List Char) :
    joinWords false (w ++ rest) = w ++ joinWords false rest := by
  induction w with
  | nil => rfl
  | cons c w ih =>
      obtain ⟨hc, hw⟩ := List.forall_mem_cons.mp hw
      rw [List.cons_append, joinWords, if_pos hc, ih hw]
      rfl

theorem joinWords_underscored {words : List (List Char)} (h : AreWords words) :
    joinWords false (underscored words) = underscored words := by
  induction words with
  | nil => rfl
  | cons w words ih =>
      obtain ⟨⟨hne, hw⟩, hwords⟩ := List.forall_mem_cons.mp h
      cases w with
      | nil => exact absurd rfl hne
      | cons c w =>
          obtain ⟨hc, hw⟩ := List.forall_mem_cons.mp hw
          have hunderscore : ¬ '_'.isAlphanum = true := by decide
          change joinWords false ('_' :: c :: (w ++ underscored words)) = _
          rw [joinWords, if_neg hunderscore, joinWords, if_pos hc, joinWords_append hw, ih hwords]
          rfl

theorem IsSanitized.joinWords_eq {cs : List Char} (h : IsSanitized cs) :
    joinWords false (cs.dropWhile (!·.isAlphanum)) = cs := by
  obtain ⟨words, hall, rfl⟩ := h
  cases words with
  | nil => rfl
  | cons w words =>
      obtain ⟨⟨hne, hw⟩, hwords⟩ := List.forall_mem_cons.mp hall
      rw [intercalate_cons_eq]
      cases w with
      | nil => exact absurd rfl hne
      | cons c w =>
          rw [List.cons_append, List.dropWhile_cons_of_neg (by simp [hw c List.mem_cons_self]),
            ← List.cons_append, joinWords_append hw, joinWords_underscored hwords]

theorem IsSanitized.isNameChar {cs : List Char} (h : IsSanitized cs) :
    ∀ c ∈ cs, isNameChar c = true := by
  intro c hc
  rw [← h.joinWords_eq] at hc
  exact isNameChar_of_mem_joinWords hc

/-- A way to bring texts to ASCII that leaves those in ASCII as they are. -/
def KeepsAscii (toAscii : List Char → List Char) : Prop :=
  ∀ cs, (∀ c ∈ cs, c.toNat < 0x80) → toAscii cs = cs

/-- A text in ASCII is read as it stands. -/
theorem toAscii_eq_self {cs : List Char} (h : ∀ c ∈ cs, c.toNat < 0x80) :
    Transliteration.toAscii cs = cs := by
  induction cs with
  | nil => rfl
  | cons c cs ih =>
      have hc : Transliteration.readChar c = [c] := if_pos (h c List.mem_cons_self)
      rw [Transliteration.toAscii, List.flatMap_cons, hc]
      exact congrArg (c :: ·) (ih fun d hd => h d (List.mem_cons_of_mem c hd))

theorem keepsAscii_toAscii : KeepsAscii Transliteration.toAscii := fun _ => toAscii_eq_self

/-- Words already joined stay as they are. -/
theorem IsSanitized.sanitizeWith_eq {toAscii : List Char → List Char} (hascii : KeepsAscii toAscii)
    {cs : List Char} (h : IsSanitized cs) : sanitizeWith toAscii cs = cs := by
  rw [sanitizeWith, hascii cs fun c hc => toNat_lt_of_isNameChar (h.isNameChar c hc),
    h.joinWords_eq]

/-- However texts are brought to ASCII, as long as those in ASCII are left as they are: sanitizing
rewrites what is no letter or digit to underscores, makes those in a row one and drops those at both
ends. What comes out is nothing, or runs of letters and digits with one underscore between them, and
sanitizing it again changes nothing. -/
theorem sanitize_normalizes :
    (∀ toAscii, KeepsAscii toAscii → ∀ cs,
      sanitizeWith toAscii cs = rewriteForeign (toAscii cs) ∧
        IsSanitized (sanitizeWith toAscii cs) ∧
        sanitizeWith toAscii (sanitizeWith toAscii cs) = sanitizeWith toAscii cs) ∧
    ∀ text : String,
      IsSanitized (sanitize text).toList ∧ sanitize (sanitize text) = sanitize text := by
  constructor
  · intro toAscii hascii cs
    have hsanitized := isSanitized_sanitizeWith toAscii cs
    exact ⟨(rewriteForeign_eq _).symm, hsanitized, hsanitized.sanitizeWith_eq hascii⟩
  · intro text
    have hsanitized := isSanitized_sanitizeWith Transliteration.toAscii text.toList
    rw [sanitize, sanitize, String.toList_ofList]
    exact ⟨hsanitized, congrArg String.ofList (hsanitized.sanitizeWith_eq keepsAscii_toAscii)⟩

/-- Letters with marks, a dash between underscores and blanks, and underscores at both ends. -/
def decorated : List Char := "__caf\u00e9 \u2014_ \u00d6l2__".toList

theorem sanitize_normalizes_decorated :
    KeepsAscii Transliteration.toAscii ∧
      rewriteForeign (Transliteration.toAscii decorated) = "cafe_Ol2".toList ∧
      sanitizeWith Transliteration.toAscii decorated = "cafe_Ol2".toList ∧
      IsSanitized "cafe_Ol2".toList ∧
      sanitizeWith Transliteration.toAscii "cafe_Ol2".toList = "cafe_Ol2".toList := by
  have hvalue : sanitizeWith Transliteration.toAscii decorated = "cafe_Ol2".toList := by
    decide +kernel
  obtain ⟨hsteps, hsanitized, hagain⟩ :=
    sanitize_normalizes.1 Transliteration.toAscii keepsAscii_toAscii decorated
  rw [hvalue] at hsteps hsanitized hagain
  exact ⟨keepsAscii_toAscii, hsteps.symm, hvalue, hsanitized, hagain⟩

end ApiClient.Service
