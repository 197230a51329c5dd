import ApiClient.Proofs.Client.SuccessReading
import ApiClient.Proofs.Http.MediaType
import ApiClient.Proofs.Text.LetterCase

/-!
What a content type says apart from its spelling. Letters come in two cases, and each step of
reading a media type takes both for the same, so that a text and the same text in lower case are
read alike. Parameters do not change the media type either. So neither changes how a body is parsed.
-/

namespace ApiClient

namespace MediaType

open LetterCase

/-! ### Letter case -/

theorem isNameChar_toLower (c : Char) : isNameChar c.toLower = isNameChar c := by
  refine apply_toLower (a := true) (fun c hc => ?_) c
  rw [isNameChar, Char.isAlphanum, hc, Bool.true_or, Bool.true_or]

theorem isBlank_toLower (c : Char) : isBlank c.toLower = isBlank c := by
  simp only [isBlank, toLower_eq_iff (d := ' ') rfl, toLower_eq_iff (d := '\t') rfl]

theorem isValueChar_toLower (c : Char) : isValueChar c.toLower = isValueChar c := by
  have hsemicolon : (c.toLower != ';') = (c != ';') := by
    rw [bne, bne, beq_eq_decide, beq_eq_decide]
    simp only [toLower_eq_iff (d := ';') rfl]
  rw [isValueChar, isBlank_toLower, hsemicolon]
  rfl

theorem lower_map_toLower (text : List Char) : lower (text.map Char.toLower) = lower text := by
  rw [lower, lower, List.map_map]
  exact congrArg String.ofList (List.map_congr_left fun c _ => toLower_toLower c)

theorem isName_map_toLower (name : List Char) : isName (name.map Char.toLower) = isName name := by
  have hhead : ((name.map Char.toLower).head?.any fun c => c.isAlphanum || c = '*') =
      name.head?.any fun c => c.isAlphanum || c = '*' := by
    cases name with
    | nil => rfl
    | cons c name =>
        simp only [List.map_cons, List.head?_cons, Option.any_some, isAlphanum_toLower,
          toLower_eq_iff (d := '*') rfl]
  rw [isName, isName, hhead, all_map_toLower isNameChar_toLower]

theorem skipQuoted_map_toLower (text : List Char) :
    skipQuoted (text.map Char.toLower) = (skipQuoted text).map (List.map Char.toLower) := by
  fun_induction skipQuoted text with
  | case1 => rfl
  | case2 text => rfl
  | case3 c text ih => exact ih
  | case4 c text hquote hescape ih =>
      rw [List.map_cons, skipQuoted.eq_4, ih]
      · exact fun h => hquote ((toLower_eq_iff (by decide)).mp h)
      · intro d rest hc htext
        cases text with
        | nil => cases htext
        | cons e text => exact hescape e text ((toLower_eq_iff (by decide)).mp hc) rfl

theorem skipValue_map_toLower (text : List Char) :
    skipValue (text.map Char.toLower) = (skipValue text).map (List.map Char.toLower) := by
  by_cases hhead : text.head? = some '"'
  case pos =>
    obtain ⟨tail, rfl⟩ := List.head?_eq_some_iff.mp hhead
    exact skipQuoted_map_toLower tail
  case neg =>
    have hhead' : (text.map Char.toLower).head? ≠ some '"' := by
      cases text with
      | nil => simp
      | cons c text => simpa [toLower_eq_iff (d := '"') rfl] using hhead
    rw [skipValue_of_head?_ne hhead, skipValue_of_head?_ne hhead',
      takeWhile_map_toLower isValueChar_toLower, dropWhile_map_toLower isValueChar_toLower,
      all_map_toLower isNameChar_toLower]
    split <;> rfl

theorem skipParameter_map_toLower (text : List Char) :
    skipParameter (text.map Char.toLower) = (skipParameter text).map (List.map Char.toLower) := by
  have hequals := ne_toLower (d := '=') rfl
  rw [skipParameter, skipParameter, takeWhile_map_toLower hequals, dropWhile_map_toLower hequals]
  cases text.dropWhile (· ≠ '=') with
  | nil => rfl
  | cons equals value =>
      rw [List.map_cons]
      dsimp only
      rw [isName_map_toLower, skipValue_map_toLower]
      split <;> rfl

theorem areParameters_map_toLower (fuel : Nat) (text : List Char) :
    areParameters fuel (text.map Char.toLower) = areParameters fuel text := by
  induction fuel generalizing text with
  | zero => rfl
  | succ fuel ih =>
      rw [areParameters, areParameters, dropWhile_map_toLower isBlank_toLower]
      cases text.dropWhile isBlank with
      | nil => rfl
      | cons c rest =>
          rw [List.map_cons]
          dsimp only
          rw [dropWhile_map_toLower isBlank_toLower, skipParameter_map_toLower]
          simp only [toLower_eq_iff (d := ';') rfl]
          cases skipParameter (rest.dropWhile isBlank) with
          | none => rfl
          | some rest => simp only [Option.map_some, ih]

theorem splitSuffix_map_toLower (name : List Char) :
    splitSuffix (name.map Char.toLower) =
      ((splitSuffix name).1.map Char.toLower,
        (splitSuffix name).2.map (List.map Char.toLower)) := by
  have hplus := ne_toLower (d := '+') rfl
  have hcontains : (name.map Char.toLower).contains '+' = name.contains '+' := by
    rw [Bool.eq_iff_iff, List.contains_iff_mem, List.contains_iff_mem, List.mem_map]
    constructor
    · rintro ⟨c, hc, hlower⟩
      rwa [← (toLower_eq_iff (by decide)).mp hlower]
    · intro hmem
      exact ⟨'+', hmem, rfl⟩
  rw [splitSuffix, splitSuffix, hcontains]
  split
  case isTrue =>
    rw [← List.map_reverse, takeWhile_map_toLower hplus, ← List.map_reverse]
    simp
  case isFalse => rfl

theorem ofNames?_map_toLower (type name : List Char) :
    ofNames? (type.map Char.toLower) (name.map Char.toLower) = ofNames? type name := by
  rw [ofNames?, ofNames?, splitSuffix_map_toLower]
  dsimp only
  rw [isName_map_toLower, isName_map_toLower, lower_map_toLower, lower_map_toLower]
  cases (splitSuffix name).2 with
  | none => rfl
  | some suffix =>
      rw [Option.map_some, Option.all_some, isName_map_toLower, Option.map_some, lower_map_toLower]
      rfl

/-- The case of letters changes nothing. -/
theorem parse?_lower (s : String) : parse? (lower s.toList) = parse? s := by
  have hslash := ne_toLower (d := '/') rfl
  rw [parse?_eq, parse?_eq, lower, String.toList_ofList, takeWhile_map_toLower hslash,
    dropWhile_map_toLower hslash]
  cases s.toList.dropWhile (· ≠ '/') with
  | nil => rfl
  | cons slash rest =>
      rw [List.map_cons]
      dsimp only
      rw [takeWhile_map_toLower isNameChar_toLower, dropWhile_map_toLower isNameChar_toLower,
        List.length_map, areParameters_map_toLower, ofNames?_map_toLower]

end MediaType

namespace ParseMode

/-- The grammar of parameters is that of the lists that are accepted. Behind a content type any such
list may follow, and its letters may be written in the other case: it names the same media type, and
a body is parsed in the same mode. What is left to the headers is always settled by them. -/
theorem contentType_ignores_spelling :
    (∀ parameters : List Char,
      MediaType.areParameters (parameters.length + 1) parameters = true ↔
        MediaType.IsParameters parameters) ∧
    (∀ (s t : String) (type : MediaType) (parameters : List Char),
      MediaType.parse? s = some type → MediaType.lower t.toList = MediaType.lower s.toList →
        MediaType.IsParameters parameters →
          MediaType.parse? (t ++ String.ofList parameters) = some type ∧
          ofContentType? (t ++ String.ofList parameters) = ofContentType? s) ∧
    ∀ (mode : ParseMode) (headers : Headers), mode.resolve headers ≠ .auto := by
  refine ⟨fun parameters => MediaType.areParameters_iff, ?_, resolve_ne_auto⟩
  intro s t type parameters hs hcase hparameters
  have ht : MediaType.parse? t = some type := by
    rw [← MediaType.parse?_lower, hcase, MediaType.parse?_lower, hs]
  have hmore := MediaType.parse?_append ht hparameters
  refine ⟨hmore, ?_⟩
  rw [ofContentType?, ofContentType?, hmore, hs]

/-- Parameters with an empty value, and with a quote, a semicolon and a suffix in quotes. -/
def oddParameters : List Char := " ;charset=;x=\"\\\";y+xml\" ".toList

theorem contentType_ignores_spelling_problem :
    MediaType.parse? "application/problem+json" = some ⟨"application", "problem", some "json"⟩ ∧
      MediaType.lower "Application/PROBLEM+Json".toList =
        MediaType.lower "application/problem+json".toList ∧
      MediaType.IsParameters oddParameters ∧
      ofContentType? ("Application/PROBLEM+Json" ++ String.ofList oddParameters) = some .json := by
  have hs : MediaType.parse? "application/problem+json" =
      some ⟨"application", "problem", some "json"⟩ := by decide
  have hcase : MediaType.lower "Application/PROBLEM+Json".toList =
      MediaType.lower "application/problem+json".toList := by decide
  have hparameters : MediaType.IsParameters oddParameters :=
    MediaType.areParameters_iff.mp (by decide)
  obtain ⟨-, hmode⟩ := contentType_ignores_spelling.2.1 _ _ _ _ hs hcase hparameters
  refine ⟨hs, hcase, hparameters, ?_⟩
  rw [hmode, ofContentType?, hs]
  rfl

end ParseMode

end ApiClient
