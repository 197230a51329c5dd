import ApiClient.Http.MediaType
import ApiClient.Proofs.Lists

/-!
Which texts name a media type. There is a type, a slash, a subtype that may have a suffix, and a
list of parameters, for which there is a grammar. Reading accepts just these texts, and parameters
have no part in what it gives, so that more of them may follow.
-/

namespace ApiClient

namespace MediaType

/-! ### The grammar of parameters -/

/-- The rest of a quoted value, up to the quote that closes it. A backslash takes away the meaning
of the character behind it. -/
inductive IsQuotedRest : List Char → Prop
  | close : IsQuotedRest ['"']
  | plain {c : Char} {rest : List Char} (hquote : c ≠ '"') (hescape : c ≠ '\\')
      (h : IsQuotedRest rest) : IsQuotedRest (c :: rest)
  | escaped (c : Char) {rest : List Char} (h : IsQuotedRest rest) : IsQuotedRest ('\\' :: c :: rest)

/-- Values of parameters. One without quotes may be empty. -/
inductive IsValue : List Char → Prop
  | token {value : List Char} (h : value.all isNameChar = true) : IsValue value
  | quoted {rest : List Char} (h : IsQuotedRest rest) : IsValue ('"' :: rest)

/-- Lists of parameters: each is a semicolon with blanks around it, a name, an equals sign and a
value. Blanks may follow the last one. -/
inductive IsParameters : List Char → Prop
  | blanks {text : List Char} (h : text.all isBlank = true) : IsParameters text
  | parameter {before after name value rest : List Char} (hbefore : before.all isBlank = true)
      (hafter : after.all isBlank = true) (hname : isName name = true) (hvalue : IsValue value)
      (h : IsParameters rest) :
      IsParameters (before ++ ';' :: (after ++ (name ++ '=' :: (value ++ rest))))

theorem IsParameters.blanks_append {before text : List Char} (hbefore : before.all isBlank = true)
    (h : IsParameters text) : IsParameters (before ++ text) := by
  cases h with
  | blanks h => exact .blanks (by rw [List.all_append, hbefore, h]; rfl)
  | parameter hbefore' hafter hname hvalue h =>
      rw [← List.append_assoc]
      exact .parameter (by rw [List.all_append, hbefore, hbefore']; rfl) hafter hname hvalue h

/-- More parameters may follow. -/
theorem IsParameters.append {text more : List Char} (h : IsParameters text)
    (hmore : IsParameters more) : IsParameters (text ++ more) := by
  induction h with
  | blanks h => exact hmore.blanks_append h
  | parameter hbefore hafter hname hvalue _ ih =>
      simpa using IsParameters.parameter hbefore hafter hname hvalue ih

/-! ### Reading parameters -/

/-- Characters of a text from which an unquoted value is read. -/
def isValueChar (c : Char) : Bool := !isBlank c && c != ';'

/-- No value goes on here. -/
def EndsValue (rest : List Char) : Prop := ∀ c, rest.head? = some c → isValueChar c = false

theorem isBlank_of_isNameChar {c : Char} (h : isNameChar c = true) : isBlank c = false := by
  rw [isBlank, Bool.or_eq_false_iff, decide_eq_false_iff_not, decide_eq_false_iff_not]
  constructor
  · rintro rfl
    cases h
  · rintro rfl
    cases h

theorem isValueChar_of_isNameChar {c : Char} (h : isNameChar c = true) : isValueChar c = true := by
  have hsemicolon : (c != ';') = true := by
    rw [bne_iff_ne]
    rintro rfl
    cases h
  rw [isValueChar, isBlank_of_isNameChar h, hsemicolon]
  rfl

theorem isValueChar_of_isBlank {c : Char} (h : isBlank c = true) : isValueChar c = false := by
  rw [isValueChar, h]
  rfl

theorem IsParameters.endsValue {text : List Char} (h : IsParameters text) : EndsValue text := by
  intro c hc
  have hblanks : ∀ {blanks : List Char}, blanks.all isBlank = true → blanks.head? = some c →
      isValueChar c = false := by
    intro blanks hall hhead
    exact isValueChar_of_isBlank (List.all_eq_true.mp hall c (List.mem_of_head? hhead))
  cases h with
  | blanks h => exact hblanks h hc
  | @parameter before _ _ _ _ hbefore _ _ _ _ =>
      cases before with
      | nil =>
          cases hc
          rfl
      | cons d before => exact hblanks hbefore hc

theorem skipQuoted_append {quoted : List Char} (h : IsQuotedRest quoted) (rest : List Char) :
    skipQuoted (quoted ++ rest) = some rest := by
  induction h with
  | close => rfl
  | plain hquote hescape _ ih =>
      rw [List.cons_append, skipQuoted.eq_4]
      · exact ih
      · exact hquote
      · rintro c rest rfl
        exact absurd rfl hescape
  | escaped c _ ih => exact ih

theorem exists_isQuotedRest {text rest : List Char} (h : skipQuoted text = some rest) :
    ∃ quoted, IsQuotedRest quoted ∧ text = quoted ++ rest := by
  fun_induction skipQuoted text with
  | case1 => cases h
  | case2 text =>
      obtain rfl := Option.some.inj h
      exact ⟨['"'], .close, rfl⟩
  | case3 c text ih =>
      obtain ⟨quoted, hquoted, rfl⟩ := ih h
      exact ⟨'\\' :: c :: quoted, .escaped c hquoted, rfl⟩
  | case4 c text hquote hescape ih =>
      obtain ⟨quoted, hquoted, rfl⟩ := ih h
      refine ⟨c :: quoted, .plain hquote ?_ hquoted, rfl⟩
      -- a backslash would stand before the first character of what is left
      rintro rfl
      cases hquoted <;> exact hescape _ _ rfl rfl

/-- Where no quote opens, a value ends before the first blank or semicolon. -/
theorem skipValue_of_head?_ne {text : List Char} (h : text.head? ≠ some '"') :
    skipValue text =
      if (text.takeWhile isValueChar).all isNameChar then some (text.dropWhile isValueChar)
      else none := by
  have hdrop : text.drop (text.takeWhile isValueChar).length = text.dropWhile isValueChar :=
    calc text.drop (text.takeWhile isValueChar).length
        = (text.takeWhile isValueChar ++ text.dropWhile isValueChar).drop
            (text.takeWhile isValueChar).length := by rw [List.takeWhile_append_dropWhile]
      _ = text.dropWhile isValueChar := List.drop_left
  rw [← hdrop, skipValue.eq_2]
  · rfl
  · rintro rest rfl
    exact h rfl

theorem skipValue_append {value rest : List Char} (h : IsValue value) (hrest : EndsValue rest) :
    skipValue (value ++ rest) = some rest := by
  cases h with
  | quoted h => exact skipQuoted_append h rest
  | token h =>
      have hvalue : value.all isValueChar = true :=
        List.all_eq_true.mpr fun c hc => isValueChar_of_isNameChar (List.all_eq_true.mp h c hc)
      obtain ⟨htake, hdrop⟩ := takeWhile_append_of_ends hvalue hrest
      have hhead : (value ++ rest).head? ≠ some '"' := by
        intro hhead
        cases value with
        | nil => exact absurd (hrest '"' hhead) (by decide)
        | cons c value =>
            obtain rfl := Option.some.inj hhead
            exact absurd (List.all_eq_true.mp h '"' List.mem_cons_self) (by decide)
      rw [skipValue_of_head?_ne hhead, htake, hdrop, if_pos h]

theorem exists_isValue {text rest : List Char} (h : skipValue text = some rest) :
    ∃ value, IsValue value ∧ text = value ++ rest := by
  by_cases hhead : text.head? = some '"'
  case pos =>
    obtain ⟨tail, rfl⟩ := List.head?_eq_some_iff.mp hhead
    obtain ⟨quoted, hquoted, rfl⟩ := exists_isQuotedRest h
    exact ⟨'"' :: quoted, .quoted hquoted, rfl⟩
  case neg =>
    rw [skipValue_of_head?_ne hhead] at h
    split at h
    case isTrue hvalue =>
      obtain rfl := Option.some.inj h
      exact ⟨_, .token hvalue, List.takeWhile_append_dropWhile.symm⟩
    case isFalse => cases h

theorem all_isNameChar_of_isName {name : List Char} (h : isName name = true) :
    name.all isNameChar = true := by
  rw [isName, Bool.and_eq_true] at h
  exact h.2

theorem all_ne_of_isName {name : List Char} (h : isName name = true) {d : Char}
    (hd : isNameChar d = false) : name.all (· ≠ d) = true := by
  rw [List.all_eq_true]
  intro c hc
  rw [decide_eq_true_iff]
  rintro rfl
  rw [List.all_eq_true.mp (all_isNameChar_of_isName h) c hc] at hd
  cases hd

/-- No blanks stand before a name. -/
theorem dropWhile_isBlank_append {name : List Char} (h : isName name = true) {blanks : List Char}
    (hblanks : blanks.all isBlank = true) (rest : List Char) :
    (blanks ++ (name ++ rest)).dropWhile isBlank = name ++ rest := by
  cases name with
  | nil => cases h
  | cons c name =>
      have hc := List.all_eq_true.mp (all_isNameChar_of_isName h) c List.mem_cons_self
      exact (takeWhile_append_cons hblanks (isBlank_of_isNameChar hc) (name ++ rest)).2

theorem skipParameter_append {name value rest : List Char} (hname : isName name = true)
    (hvalue : IsValue value) (hrest : EndsValue rest) :
    skipParameter (name ++ '=' :: (value ++ rest)) = some rest := by
  have hequals := all_ne_of_isName hname (show isNameChar '=' = false by decide)
  obtain ⟨htake, hdrop⟩ := takeWhile_append_cons (a := '=') hequals (by decide) (value ++ rest)
  rw [skipParameter, htake, hdrop]
  show (if isName name then skipValue (value ++ rest) else none) = some rest
  rw [if_pos hname, skipValue_append hvalue hrest]

theorem eq_of_skipParameter {text rest : List Char} (h : skipParameter text = some rest) :
    ∃ name value, isName name = true ∧ IsValue value ∧ text = name ++ '=' :: (value ++ rest) := by
  rw [skipParameter] at h
  split at h
  case h_1 => cases h
  case h_2 equals tail hdrop =>
    obtain ⟨htext, -, hequals⟩ := eq_of_dropWhile_eq_cons hdrop
    obtain rfl : equals = '=' := by simpa using hequals
    split at h
    case isTrue hname =>
      obtain ⟨value, hvalue, rfl⟩ := exists_isValue h
      exact ⟨_, value, hname, hvalue, htext⟩
    case isFalse => cases h

theorem areParameters_of_isParameters {text : List Char} (h : IsParameters text) {fuel : Nat}
    (hfuel : text.length < fuel) : areParameters fuel text = true := by
  induction h generalizing fuel with
  | @blanks text h =>
      obtain ⟨fuel, rfl⟩ := Nat.exists_eq_add_of_lt hfuel
      rw [areParameters, List.dropWhile_eq_nil_iff.mpr (List.all_eq_true.mp h)]
  | @parameter before after name value rest hbefore hafter hname hvalue h ih =>
      cases fuel with
      | zero => cases hfuel
      | succ fuel =>
          have hfirst := (takeWhile_append_cons hbefore (show isBlank ';' = false by decide)
            (after ++ (name ++ '=' :: (value ++ rest)))).2
          have hsecond := dropWhile_isBlank_append hname hafter ('=' :: (value ++ rest))
          rw [areParameters, hfirst]
          simp only [if_pos, hsecond, skipParameter_append hname hvalue h.endsValue]
          exact ih (by simp at hfuel; omega)

theorem isParameters_of_areParameters {fuel : Nat} {text : List Char}
    (h : areParameters fuel text = true) : IsParameters text := by
  induction fuel generalizing text with
  | zero => cases h
  | succ fuel ih =>
      rw [areParameters] at h
      split at h
      case h_1 hdrop =>
        exact .blanks (List.all_eq_true.mpr (List.dropWhile_eq_nil_iff.mp hdrop))
      case h_2 c rest hdrop =>
        obtain ⟨htext, hbefore, -⟩ := eq_of_dropWhile_eq_cons hdrop
        split at h
        case isFalse => cases h
        case isTrue hc =>
          split at h
          case h_2 => cases h
          case h_1 rest' hparameter =>
            obtain ⟨name, value, hname, hvalue, hrest⟩ := eq_of_skipParameter hparameter
            rw [htext, hc, ← List.takeWhile_append_dropWhile (p := isBlank) (l := rest), hrest]
            exact .parameter (List.all_eq_true.mpr hbefore) List.all_takeWhile hname hvalue (ih h)

/-- Reading accepts just what the grammar allows. -/
theorem areParameters_iff {text : List Char} :
    areParameters (text.length + 1) text = true ↔ IsParameters text :=
  ⟨isParameters_of_areParameters, fun h => areParameters_of_isParameters h (Nat.lt_succ_self _)⟩

/-! ### Reading media types -/

/-- The media type that a type, and a subtype with its suffix, stand for. -/
def ofNames? (type name : List Char) : Option MediaType :=
  let parts := splitSuffix name
  if isName type && isName parts.1 && parts.2.all isName then
    some ⟨lower type, lower parts.1, parts.2.map lower⟩
  else none

theorem isName_of_ofNames? {type name : List Char} {m : MediaType}
    (h : ofNames? type name = some m) : isName type = true := by
  rw [ofNames?] at h
  split at h
  case isTrue hnames =>
    simp only [Bool.and_eq_true] at hnames
    exact hnames.1.1
  case isFalse => cases h

theorem parse?_eq (s : String) :
    parse? s =
      match s.toList.dropWhile (· ≠ '/') with
      | [] => none
      | _ :: rest =>
        if areParameters ((rest.dropWhile isNameChar).length + 1) (rest.dropWhile isNameChar) then
          ofNames? (s.toList.takeWhile (· ≠ '/')) (rest.takeWhile isNameChar)
        else none := by
  rw [parse?]
  cases s.toList.dropWhile (· ≠ '/') with
  | nil => rfl
  | cons slash rest =>
      dsimp only [ofNames?]
      cases areParameters ((rest.dropWhile isNameChar).length + 1) (rest.dropWhile isNameChar) <;>
        simp

/-- The texts that name a media type. -/
theorem parse?_eq_some_iff {s : String} {m : MediaType} :
    parse? s = some m ↔ ∃ type name parameters,
      s.toList = type ++ '/' :: (name ++ parameters) ∧ name.all isNameChar = true ∧
      IsParameters parameters ∧ ofNames? type name = some m := by
  rw [parse?_eq]
  constructor
  · intro h
    split at h
    case h_1 => cases h
    case h_2 slash rest hdrop =>
      obtain ⟨htext, -, hslash⟩ := eq_of_dropWhile_eq_cons hdrop
      obtain rfl : slash = '/' := by simpa using hslash
      split at h
      case isFalse => cases h
      case isTrue hparameters =>
        refine ⟨_, _, _, ?_, List.all_takeWhile, areParameters_iff.mp hparameters, h⟩
        rw [List.takeWhile_append_dropWhile]
        exact htext
  · rintro ⟨type, name, parameters, htext, hname, hparameters, hm⟩
    have hslash := all_ne_of_isName (isName_of_ofNames? hm) (show isNameChar '/' = false by decide)
    obtain ⟨htype, hrest⟩ := takeWhile_append_cons (a := '/') hslash (by decide)
      (name ++ parameters)
    have hends : ∀ c, parameters.head? = some c → isNameChar c = false := by
      intro c hc
      rw [Bool.eq_false_iff]
      intro hnameChar
      have hend := hparameters.endsValue c hc
      rw [isValueChar_of_isNameChar hnameChar] at hend
      cases hend
    obtain ⟨htake, hdrop⟩ := takeWhile_append_of_ends hname hends
    rw [htext, hrest, htype]
    dsimp only
    rw [htake, hdrop, if_pos (areParameters_iff.mpr hparameters)]
    exact hm

/-- More parameters change nothing. -/
theorem parse?_append {s : String} {m : MediaType} (h : parse? s = some m) {parameters : List Char}
    (hparameters : IsParameters parameters) :
    parse? (s ++ String.ofList parameters) = some m := by
  obtain ⟨type, name, given, htext, hname, hgiven, hm⟩ := parse?_eq_some_iff.mp h
  refine parse?_eq_some_iff.mpr
    ⟨type, name, given ++ parameters, ?_, hname, hgiven.append hparameters, hm⟩
  rw [String.toList_append, String.toList_ofList, htext]
  simp

end MediaType

end ApiClient
