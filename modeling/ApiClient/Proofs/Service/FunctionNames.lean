import ApiClient.Proofs.Except
import ApiClient.Proofs.Service.UniqueName
import ApiClient.Proofs.Text.LetterCase
import ApiClient.Service.Emit
import Mathlib.Data.List.Count

/-!
The names of a module's functions as identifiers. Names are kept apart as texts, and `r#` is no part
of the identifier that a name spells. So two names clash exactly when one is a reserved word with a
number, written raw, and the other the same word and number written plainly. All of this holds
however operation ids are brought to ASCII.
-/

namespace ApiClient.Service

variable {toAscii : List Char → List Char}

/-- The identifier that a name spells. -/
def identifier (name : String) : String :=
  match name.toList with
  | 'r' :: '#' :: word => String.ofList word
  | _ => name

/-- A reserved word as a name. -/
def raw (word : String) : String := "r#" ++ word

/-- Names for bases, one after the other, each unique among those before it. -/
def assign (used : List String) : List String → List String
  | [] => []
  | base :: bases =>
    let name := ensureUnique base used
    name :: assign (name :: used) bases

/-! ### Characters of names -/

/-- Characters that operation ids are brought to. -/
def isNameChar (c : Char) : Bool := c.isAlphanum || c = '_'

theorem not_isUpper_of_isDigit {c : Char} (h : c.isDigit = true) : ¬c.isUpper = true := by
  simp only [Char.isDigit, LetterCase.isUpper_iff, Bool.and_eq_true, decide_eq_true_eq, ge_iff_le,
    UInt32.le_iff_toNat_le] at h ⊢
  have h9 : '9'.val.toNat = 57 := rfl
  have hA : 'A'.val.toNat = 65 := rfl
  omega

theorem toLower_of_isDigit {c : Char} (h : c.isDigit = true) : c.toLower = c :=
  LetterCase.toLower_of_not_isUpper (not_isUpper_of_isDigit h)

theorem isNameChar_toLower {c : Char} (h : isNameChar c = true) : isNameChar c.toLower = true := by
  have hletters : ∀ c : Char, c.isAlpha = true → isNameChar c = true := by
    intro c hc
    rw [isNameChar, Char.isAlphanum, hc]
    rfl
  rwa [LetterCase.apply_toLower hletters]

theorem isNameChar_of_mem_joinWords {due : Bool} {cs : List Char} {c : Char}
    (h : c ∈ joinWords due cs) : isNameChar c = true := by
  fun_induction joinWords due cs with
  | case1 => simp at h
  | case2 due d rest hd ih =>
      rcases List.mem_append.mp h with h | h
      · split at h
        · rcases List.mem_cons.mp h with rfl | h
          · rfl
          · rw [List.mem_singleton.mp h, isNameChar, hd, Bool.true_or]
        · rw [List.mem_singleton.mp h, isNameChar, hd, Bool.true_or]
      · exact ih h
  | case3 due d rest hd ih => exact ih h

theorem isNameChar_of_mem_snakeCase {cs : List Char} (hcs : ∀ c ∈ cs, isNameChar c = true)
    {c : Char} (h : c ∈ snakeCase cs) : isNameChar c = true := by
  fun_induction snakeCase cs with
  | case1 => simp at h
  | case2 d =>
      rw [List.mem_singleton.mp h]
      exact isNameChar_toLower (hcs d (by simp))
  | case3 d e rest hcase ih =>
      rcases List.mem_cons.mp h with rfl | h
      · exact hcs c List.mem_cons_self
      rcases List.mem_cons.mp h with rfl | h
      · rfl
      · exact ih (fun x hx => hcs x (List.mem_cons_of_mem d hx)) h
  | case4 d e rest hcase ih =>
      rcases List.mem_cons.mp h with rfl | h
      · exact isNameChar_toLower (hcs d List.mem_cons_self)
      · exact ih (fun x hx => hcs x (List.mem_cons_of_mem d hx)) h

/-- The snake case words of an operation id. -/
def words (toAscii : List Char → List Char) (operationId : String) : String :=
  String.ofList (snakeCase (sanitizeWith toAscii operationId.toList))

theorem isNameChar_of_mem_words {operationId : String} {c : Char}
    (h : c ∈ (words toAscii operationId).toList) : isNameChar c = true := by
  rw [words, String.toList_ofList] at h
  exact isNameChar_of_mem_snakeCase (fun _ => isNameChar_of_mem_joinWords) h

/-! ### What function names look like -/

/-- A reserved word has only lower case letters. -/
theorem keyword_chars : ∀ word ∈ keywords, ∀ c ∈ word.toList,
    c.isDigit = false ∧ c ≠ '#' ∧ c ≠ '_' := by
  have hall : keywords.all (fun word =>
      word.toList.all fun c => !c.isDigit && c != '#' && c != '_') = true := by decide
  intro word hword c hc
  have hchar := List.all_eq_true.mp (List.all_eq_true.mp hall word hword) c hc
  simpa [and_assoc] using hchar

theorem not_mem_keywords_of_underscore {name : String} (h : '_' ∈ name.toList) :
    name ∉ keywords := by
  intro hmem
  exact (keyword_chars name hmem '_' h).2.2 rfl

/-- A name that is written plainly. -/
structure IsPlain (base : String) : Prop where
  no_hash : '#' ∉ base.toList
  not_keyword : base ∉ keywords

theorem fnName_eq (operationId : String) : fnName operationId toAscii =
    if (words toAscii operationId).isEmpty then "operation"
    else if pathKeywords.contains (words toAscii operationId) then words toAscii operationId ++ "_"
    else if keywords.contains (words toAscii operationId) then raw (words toAscii operationId)
    else if (words toAscii operationId).toList.head?.any (·.isDigit) then
      "op_" ++ words toAscii operationId
    else words toAscii operationId :=
  rfl

/-- A function's name is a reserved word written raw, or a plain name that is no reserved word. -/
theorem fnName_cases (operationId : String) :
    (∃ word ∈ keywords, fnName operationId toAscii = raw word) ∨
      IsPlain (fnName operationId toAscii) := by
  have hwords : '#' ∉ (words toAscii operationId).toList := by
    intro h
    have := isNameChar_of_mem_words h
    simp [isNameChar] at this
  rw [fnName_eq]
  split
  case isTrue => exact .inr ⟨by decide, by decide⟩
  split
  case isTrue =>
    exact .inr ⟨by simpa using hwords, not_mem_keywords_of_underscore (by simp)⟩
  split
  case isTrue hkeyword => exact .inl ⟨_, by simpa using hkeyword, rfl⟩
  case isFalse hkeyword =>
    split
    case isTrue =>
      exact .inr ⟨by simpa using hwords, not_mem_keywords_of_underscore (by simp)⟩
    case isFalse => exact .inr ⟨hwords, by simpa using hkeyword⟩

/-! ### Names assigned one after the other -/

/-- An assigned name was not used, and it is a candidate for one of the bases. -/
theorem of_mem_assign {used bases : List String} {name : String} (h : name ∈ assign used bases) :
    name ∉ used ∧ ∃ base ∈ bases, ∃ i, name = candidate base i := by
  induction bases generalizing used with
  | nil => simp [assign] at h
  | cons base bases ih =>
      rcases List.mem_cons.mp h with rfl | h
      · obtain ⟨i, -, hname, -⟩ := ensureUnique_spec base used
        exact ⟨ensureUnique_not_mem base used, base, List.mem_cons_self, i, hname⟩
      · obtain ⟨hfree, base', hmem, hname⟩ := ih h
        exact ⟨fun hused => hfree (List.mem_cons_of_mem _ hused), base',
          List.mem_cons_of_mem base hmem, hname⟩

theorem nodup_assign (used bases : List String) : (assign used bases).Nodup := by
  induction bases generalizing used with
  | nil => exact List.nodup_nil
  | cons base bases ih =>
      refine List.nodup_cons.mpr ⟨?_, ih _⟩
      intro h
      exact (of_mem_assign h).1 List.mem_cons_self

/-- When exactly the first candidates for a base are used and no other base has them among its
candidates, then those that follow are assigned, as many as the base has occurrences. -/
theorem candidate_mem_assign_iff {base : String} {used bases : List String} {c : Nat}
    (hused : ∀ i, candidate base i ∈ used ↔ i < c)
    (hother : ∀ b ∈ bases, b ≠ base → ∀ i j, candidate b i ≠ candidate base j) (i : Nat) :
    candidate base i ∈ assign used bases ↔ c ≤ i ∧ i < c + bases.count base := by
  induction bases generalizing used c with
  | nil => simp [assign]
  | cons b bases ih =>
      have hother' : ∀ b ∈ bases, b ≠ base → ∀ i j, candidate b i ≠ candidate base j :=
        fun b hb => hother b (List.mem_cons_of_mem _ hb)
      obtain ⟨j, -, hname, hfree, hbefore⟩ := ensureUnique_spec b used
      rw [assign, hname, List.mem_cons]
      by_cases hb : b = base
      · subst hb
        -- all candidates before the assigned one are used and it is not, so it is the next one
        have hj : j = c := by
          have h₁ : ¬ j < c := fun hlt => hfree ((hused j).mpr hlt)
          have h₂ : ¬ c < j := fun hlt => absurd ((hused c).mp (hbefore c hlt)) (lt_irrefl c)
          omega
        subst hj
        have hused' : ∀ i, candidate b i ∈ candidate b j :: used ↔ i < j + 1 := by
          intro i
          rw [List.mem_cons, (candidate_injective b).eq_iff, hused]
          omega
        rw [ih hused' hother', (candidate_injective b).eq_iff, List.count_cons_self]
        omega
      · have hne : ∀ i, candidate base i ≠ candidate b j :=
          fun i h => hother b List.mem_cons_self hb j i h.symm
        have hused' : ∀ i, candidate base i ∈ candidate b j :: used ↔ i < c := by
          intro i
          rw [List.mem_cons, or_iff_right (hne i), hused]
        rw [or_iff_right (hne i), ih hused' hother', List.count_cons_of_ne hb]

/-- The function that an operation is emitted as, part by part. -/
theorem Operation.eq_of_function_eq_ok {o : Operation} {name : String}
    {visibility : Code.Visibility} {f : Code.Function} (h : o.function name visibility = .ok f) :
    ∃ types, o.types = .ok types ∧ o.method ∈ Method.standard ∧
      f = {
        attrs := o.documentation.attributes
        visibility := visibility
        name := name
        parameters := [.ofName "options" (generic "Options" [types.data])]
        output := some (generic "ResponseFuture" [types.response, types.error])
        body := (o.sendPlan types).toReturn } := by
  rw [Operation.function] at h
  split at h
  case h_1 => cases h
  case h_2 ident hident =>
    split at h
    case h_1 => cases h
    case h_2 types htypes =>
      split at h
      case isTrue hmethod =>
        cases h
        exact ⟨types, htypes, by simpa using hmethod, by rw [Code.Ident.name_of_parse? hident]⟩
      case isFalse => cases h

theorem functions_cons_eq_ok {visibility : Code.Visibility} {used : List String} {o : Operation}
    {rest : List Operation} {fs : List Code.Function}
    (h : functions toAscii visibility used (o :: rest) = .ok fs) :
    ∃ f fs', o.function (ensureUnique (fnName o.id toAscii) used) visibility = .ok f ∧
      functions toAscii visibility (ensureUnique (fnName o.id toAscii) used :: used) rest =
        .ok fs' ∧
      fs = f :: fs' := by
  rw [functions] at h
  split at h
  case h_1 => cases h
  case h_2 f hf =>
    obtain ⟨fs', hfs', heq⟩ := map_eq_ok_iff.mp h
    exact ⟨f, fs', hf, hfs', heq.symm⟩

/-- The names of emitted functions. -/
theorem functions_names {visibility : Code.Visibility} {used : List String}
    {operations : List Operation} {fs : List Code.Function}
    (h : functions toAscii visibility used operations = .ok fs) :
    fs.map (fun f => f.name) = assign used (operations.map fun o => fnName o.id toAscii) := by
  induction operations generalizing used fs with
  | nil =>
      obtain rfl : [] = fs := by simpa [functions] using h
      rfl
  | cons o rest ih =>
      obtain ⟨f, fs', hf, hfs', rfl⟩ := functions_cons_eq_ok h
      obtain ⟨types, -, -, rfl⟩ := o.eq_of_function_eq_ok hf
      rw [List.map_cons, List.map_cons, assign, ih hfs']

/-! ### Candidates for reserved words -/

theorem identifier_raw (word : String) : identifier (raw word) = word := by
  simp [identifier, raw]

theorem identifier_eq_self {name : String} (h : '#' ∉ name.toList) : identifier name = name := by
  unfold identifier
  split
  case h_1 word hname =>
    rw [hname] at h
    simp at h
  case h_2 => rfl

theorem candidate_raw (word : String) (i : Nat) :
    candidate (raw word) i = raw (candidate word i) := by
  apply String.toList_injective
  simp [toList_candidate, raw]

theorem hash_not_mem_candidate {base : String} (h : '#' ∉ base.toList) (i : Nat) :
    '#' ∉ (candidate base i).toList := by
  rw [toList_candidate, List.mem_append]
  rintro (hbase | hsuffix)
  · exact h hbase
  · exact absurd (isDigit_of_mem_suffix hsuffix) (by decide)

theorem raw_ne_candidate {base : String} (h : '#' ∉ base.toList) (word : String) (i : Nat) :
    raw word ≠ candidate base i := by
  intro heq
  apply hash_not_mem_candidate h i
  simp [← heq, raw]

/-- A text without digits is a candidate for itself only. -/
theorem candidate_eq_of_no_digit {base word : String} {i : Nat}
    (hword : ∀ c ∈ word.toList, c.isDigit = false) (h : candidate base i = word) :
    i = 0 ∧ base = word := by
  subst h
  cases i with
  | zero => exact ⟨rfl, rfl⟩
  | succ i =>
      obtain ⟨c, hc⟩ := List.exists_mem_of_ne_nil (suffix (i + 1)) Nat.toDigits_ne_nil
      have hdigit := isDigit_of_mem_suffix hc
      rw [hword c (by rw [toList_candidate]; exact List.mem_append_right _ hc)] at hdigit
      cases hdigit

theorem takeWhile_candidate {word : String} (hword : ∀ c ∈ word.toList, c.isDigit = false)
    (i : Nat) : (candidate word i).toList.takeWhile (fun c => !c.isDigit) = word.toList := by
  have hsuffix : (suffix i).takeWhile (fun c => !c.isDigit) = [] := by
    cases hchars : suffix i with
    | nil => rfl
    | cons c rest =>
        apply List.takeWhile_cons_of_neg
        have hdigit : c.isDigit = true :=
          isDigit_of_mem_suffix (hchars ▸ List.mem_cons_self : c ∈ suffix i)
        simp [hdigit]
  rw [toList_candidate, List.takeWhile_append_of_pos (by simpa using hword), hsuffix,
    List.append_nil]

theorem word_eq_of_candidate_eq {word word' : String} {i j : Nat}
    (hword : ∀ c ∈ word.toList, c.isDigit = false) (hword' : ∀ c ∈ word'.toList, c.isDigit = false)
    (h : candidate word i = candidate word' j) : word = word' := by
  apply String.toList_injective
  rw [← takeWhile_candidate hword i, h, takeWhile_candidate hword' j]

theorem not_isDigit_of_keyword {word : String} (h : word ∈ keywords) :
    ∀ c ∈ word.toList, c.isDigit = false :=
  fun c hc => (keyword_chars word h c hc).1

/-! ### Clashes -/

/-- The names of the functions of operations. -/
def names (toAscii : List Char → List Char) (operations : List Operation) : List String :=
  assign importedFunctions (operations.map fun o => fnName o.id toAscii)

/-- A name is a candidate for a reserved word, written raw, or spells itself and is no reserved
word. -/
theorem cases_of_mem_names {operations : List Operation} {name : String}
    (h : name ∈ names toAscii operations) :
    (∃ word ∈ keywords, ∃ i, name = raw (candidate word i)) ∨ IsPlain name := by
  obtain ⟨-, base, hbase, i, rfl⟩ := of_mem_assign h
  obtain ⟨o, -, rfl⟩ := List.mem_map.mp hbase
  rcases fnName_cases o.id with ⟨word, hword, hname⟩ | hplain
  · rw [hname]
    exact .inl ⟨word, hword, i, candidate_raw word i⟩
  · refine .inr ⟨hash_not_mem_candidate hplain.no_hash i, ?_⟩
    intro hkeyword
    obtain ⟨-, heq⟩ := candidate_eq_of_no_digit (not_isDigit_of_keyword hkeyword) rfl
    exact hplain.not_keyword (heq ▸ hkeyword)

theorem identifier_ne_send {operations : List Operation} {name : String}
    (h : name ∈ names toAscii operations) : identifier name ≠ "send" := by
  rcases cases_of_mem_names h with ⟨word, hword, i, rfl⟩ | hplain
  · rw [identifier_raw]
    intro heq
    obtain ⟨-, rfl⟩ := candidate_eq_of_no_digit (by simp) heq
    exact absurd hword (by decide)
  · rw [identifier_eq_self hplain.no_hash]
    rintro rfl
    exact (of_mem_assign h).1 (by decide)

/-- The candidates for a reserved word are taken from the first on, one for each operation that
has the word as its name. -/
theorem raw_candidate_mem_names_iff {word : String} (hword : word ∈ keywords)
    (operations : List Operation) (i : Nat) :
    raw (candidate word i) ∈ names toAscii operations ↔
      i < operations.countP (fun o => fnName o.id toAscii = raw word) := by
  have hused : ∀ i, candidate (raw word) i ∈ importedFunctions ↔ i < 0 := by
    intro i
    have hsend : candidate (raw word) i ≠ candidate "send" 0 := by
      rw [candidate_raw]
      exact raw_ne_candidate (by decide) _ _
    simpa [importedFunctions, candidate] using hsend
  -- a raw base has the word before its digits, and a plain one has no hash
  have hother : ∀ b ∈ operations.map (fun o => fnName o.id toAscii), b ≠ raw word →
      ∀ i j, candidate b i ≠ candidate (raw word) j := by
    intro b hb hne i j heq
    obtain ⟨o, -, rfl⟩ := List.mem_map.mp hb
    rw [candidate_raw word] at heq
    rcases fnName_cases o.id with ⟨word', hword', hname⟩ | hplain
    · rw [hname, candidate_raw] at heq
      have hwords := congrArg identifier heq
      rw [identifier_raw, identifier_raw] at hwords
      apply hne
      rw [hname, word_eq_of_candidate_eq (not_isDigit_of_keyword hword')
        (not_isDigit_of_keyword hword) hwords]
    · exact raw_ne_candidate hplain.no_hash _ i heq.symm
  have hcount : (operations.map fun o => fnName o.id toAscii).count (raw word) =
      operations.countP (fun o => fnName o.id toAscii = raw word) := by
    rw [List.count_eq_countP, List.countP_map]
    apply List.countP_congr
    intro o _
    simp only [Function.comp_apply, beq_iff_eq, decide_eq_true_eq]
  rw [names, ← candidate_raw, candidate_mem_assign_iff hused hother, hcount, Nat.zero_add]
  simp only [Nat.zero_le, true_and]

/-- Two names spell one identifier exactly when a reserved word with a number is among the names
both raw and plainly. -/
theorem nodup_identifiers_iff (operations : List Operation) :
    ((names toAscii operations).map identifier).Nodup ↔
      ∀ word ∈ keywords, ∀ k, 2 ≤ k →
        k ≤ operations.countP (fun o => fnName o.id toAscii = raw word) →
          numbered word k ∉ names toAscii operations := by
  constructor
  case mp =>
    intro hnodup word hword k hk hcount hplain
    obtain ⟨i, rfl⟩ : ∃ i, k = i + 2 := ⟨k - 2, by omega⟩
    have hraw : raw (candidate word (i + 1)) ∈ names toAscii operations :=
      (raw_candidate_mem_names_iff hword operations (i + 1)).mpr (by omega)
    have hhash : '#' ∉ (candidate word (i + 1)).toList :=
      hash_not_mem_candidate (fun h => (keyword_chars word hword '#' h).2.1 rfl) _
    have hsame : identifier (raw (candidate word (i + 1))) =
        identifier (candidate word (i + 1)) := by
      rw [identifier_raw, identifier_eq_self hhash]
    exact raw_ne_candidate hhash _ 0 (List.inj_on_of_nodup_map hnodup hraw hplain hsame)
  case mpr =>
    intro hfree
    -- a raw name and a plain one with the same identifier are what the condition excludes
    have hclash : ∀ word ∈ keywords, ∀ i, raw (candidate word i) ∈ names toAscii operations →
        ∀ name ∈ names toAscii operations, IsPlain name → candidate word i ≠ name := by
      intro word hword i hraw name hname hplain heq
      have hcount := (raw_candidate_mem_names_iff hword operations i).mp hraw
      cases i with
      | zero => exact hplain.not_keyword (heq ▸ hword)
      | succ i =>
          rw [← heq] at hname
          exact hfree word hword (i + 2) (by omega) (by omega) hname
    refine (nodup_assign _ _).map_on ?_
    intro a ha b hb hsame
    rcases cases_of_mem_names ha with ⟨word, hword, i, rfl⟩ | hplain
    · rw [identifier_raw] at hsame
      rcases cases_of_mem_names hb with ⟨word', hword', j, rfl⟩ | hplain'
      · rw [hsame, identifier_raw]
      · rw [identifier_eq_self hplain'.no_hash] at hsame
        exact absurd hsame (hclash word hword i ha b hb hplain')
    · rw [identifier_eq_self hplain.no_hash] at hsame
      rcases cases_of_mem_names hb with ⟨word', hword', j, rfl⟩ | hplain'
      · rw [identifier_raw] at hsame
        exact absurd hsame.symm (hclash word' hword' j hb a ha hplain)
      · rwa [identifier_eq_self hplain'.no_hash] at hsame

/-! ### The emitted module -/

theorem emitModule_eq_ok {operations : List Operation} {options : EmitOptions} {m : Code.Module}
    (h : emitModule operations options toAscii = .ok m) :
    ∃ runtime fs, Code.Path.parse? options.runtime = some runtime ∧
      functions toAscii options.visibility importedFunctions operations = .ok fs ∧
      m = ⟨⟨[allowUnused], runtime, importedNames⟩, fs⟩ := by
  rw [emitModule] at h
  split at h
  case h_1 => cases h
  case h_2 runtime hruntime =>
    obtain ⟨fs, hfs, heq⟩ := map_eq_ok_iff.mp h
    exact ⟨runtime, fs, hruntime, hfs, heq.symm⟩

theorem emitModule_names {operations : List Operation} {options : EmitOptions} {m : Code.Module}
    (h : emitModule operations options toAscii = .ok m) :
    m.functions.map (fun f => f.name) = names toAscii operations := by
  obtain ⟨runtime, fs, -, hfs, rfl⟩ := emitModule_eq_ok h
  exact functions_names hfs

theorem emit_eq_ok {operations : List Operation} {options : EmitOptions} {text : String}
    (h : emit operations options toAscii = .ok text) :
    ∃ m, emitModule operations options toAscii = .ok m ∧ text = m.text := by
  rw [emit] at h
  split at h
  case h_1 => cases h
  case h_2 m hm =>
    split at h
    case isTrue =>
      split at h
      case isTrue => exact ⟨m, hm, (Except.ok.inj h).symm⟩
      case isFalse => cases h
    case isFalse => cases h

/-- However operation ids are brought to ASCII, the names in emitted text differ as texts and none
of them is the imported function's. They differ as identifiers exactly when no operation has the
name of a reserved word with a number that an operation named by the word itself has got. -/
theorem emit_identifiers_nodup_iff {operations : List Operation} {options : EmitOptions}
    {text : String} (h : emit operations options toAscii = .ok text) :
    ∃ m, emitModule operations options toAscii = .ok m ∧ text = m.text ∧
      (m.functions.map fun f => f.name).Nodup ∧
      (∀ f ∈ m.functions, identifier f.name ≠ "send") ∧
      ((m.functions.map fun f => identifier f.name).Nodup ↔
        ∀ word ∈ keywords, ∀ k, 2 ≤ k →
          k ≤ operations.countP (fun o => fnName o.id toAscii = raw word) →
            ∀ f ∈ m.functions, f.name ≠ numbered word k) := by
  obtain ⟨m, hm, htext⟩ := emit_eq_ok h
  have hnames := emitModule_names hm
  have hidentifiers : (m.functions.map fun f => identifier f.name) =
      (names toAscii operations).map identifier := by
    rw [← hnames, List.map_map]
    rfl
  have hmem : ∀ name, name ∈ names toAscii operations ↔ ∃ f ∈ m.functions, f.name = name := by
    intro name
    rw [← hnames, List.mem_map]
  refine ⟨m, hm, htext, ?_, ?_, ?_⟩
  · rw [hnames]
    exact nodup_assign _ _
  · intro f hf
    exact identifier_ne_send ((hmem f.name).mpr ⟨f, hf, rfl⟩)
  · rw [hidentifiers, nodup_identifiers_iff]
    simp only [hmem, not_exists, not_and, ne_eq]

/-- Three operations, of which two have the name `type` and one has the name `type2`. -/
def typeOperations : List Operation :=
  [("type", "/a"), ("type", "/b"), ("type2", "/c")].map fun (id, path) =>
    ⟨id, .get, path, none, none, none, none, none⟩

/-- They can be emitted, and two functions get the same identifier. -/
theorem emit_identifiers_typeOperations :
    ∃ m, emitModule typeOperations {} = .ok m ∧ emit typeOperations {} = .ok m.text ∧
      ¬ (m.functions.map fun f => identifier f.name).Nodup := by
  have hemit : (emit typeOperations {}).toOption.isSome = true := by decide +kernel
  obtain ⟨text, htext⟩ : ∃ text, emit typeOperations {} = .ok text := by
    cases hresult : emit typeOperations {} with
    | error e => simp [hresult, Except.toOption] at hemit
    | ok text => exact ⟨text, rfl⟩
  obtain ⟨m, hm, rfl, -, -, hiff⟩ := emit_identifiers_nodup_iff htext
  refine ⟨m, hm, htext, ?_⟩
  rw [hiff]
  intro hfree
  have hmem : "type2" ∈ m.functions.map (fun f => f.name) := by
    rw [emitModule_names hm]
    decide +kernel
  obtain ⟨f, hf, hname⟩ := List.mem_map.mp hmem
  exact hfree "type" (by decide) 2 le_rfl (by decide +kernel) f hf hname

end ApiClient.Service
