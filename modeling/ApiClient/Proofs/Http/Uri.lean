import ApiClient.Http.Uri
import ApiClient.Proofs.Except
import Mathlib.Data.List.TakeWhile

/-!
Where the query of a request target stands: behind the first question mark of its text, up to the
first number sign. This holds of every text that is a request target.
-/

namespace ApiClient.Uri

/-- What is behind the first question mark, up to the first number sign. -/
def search? (text : List Char) : Option (List Char) :=
  match (text.takeWhile (· ≠ '#')).dropWhile (· ≠ '?') with
  | [] => none
  | _ :: search => some search

/-- Characters that a search part neither begins nor ends with. -/
def IsPlain (chars : List Char) : Prop := ∀ c ∈ chars, c ≠ '?' ∧ c ≠ '#'

theorem isPlain_iff {chars : List Char} : IsPlain chars ↔ '?' ∉ chars ∧ '#' ∉ chars := by
  rw [IsPlain, forall₂_and, List.forall_mem_ne', List.forall_mem_ne']

theorem search?_append {left : List Char} (h : IsPlain left) (right : List Char) :
    search? (left ++ right) = search? right := by
  have hhash : ∀ c ∈ left, decide (c ≠ '#') = true := fun c hc => decide_eq_true (h c hc).2
  have hmark : ∀ c ∈ left, decide (c ≠ '?') = true := fun c hc => decide_eq_true (h c hc).1
  rw [search?, List.takeWhile_append_of_pos hhash, List.dropWhile_append_of_pos hmark, search?]

theorem search?_eq_none {text : List Char} (h : IsPlain text) : search? text = none := by
  have happend := search?_append h []
  rw [List.append_nil] at happend
  rw [happend]
  rfl

/-- What cannot pass a mark is in front of the search part. -/
theorem search?_dropWhile {p : Char → Bool} (hmark : p '?' = false) (hhash : p '#' = false)
    (text : List Char) : search? (text.dropWhile p) = search? text := by
  have hskipped : IsPlain (text.takeWhile p) := by
    intro c hc
    have hp := List.mem_takeWhile_imp hc
    constructor
    · rintro rfl
      rw [hmark] at hp
      cases hp
    · rintro rfl
      rw [hhash] at hp
      cases hp
  rw [← search?_append hskipped (text.dropWhile p), List.takeWhile_append_dropWhile]

theorem search?_mark (rest : List Char) :
    search? ('?' :: rest) = some (rest.takeWhile (· ≠ '#')) := by
  simp [search?]

theorem search?_hash (rest : List Char) : search? ('#' :: rest) = none := by
  simp [search?]

/-! ### Path and query -/

theorem ne_of_isQueryChar (c : Char) (h : isQueryChar c = true) : decide (c ≠ '#') = true := by
  rw [decide_eq_true_eq]
  rintro rfl
  exact absurd h (by decide)

/-- What stops a query stops it at the fragment. -/
theorem takeWhile_isQueryChar {text : List Char}
    (h : ∀ c ∈ (text.dropWhile isQueryChar).head?, c = '#') :
    text.takeWhile isQueryChar = text.takeWhile (· ≠ '#') := by
  have hquery : ∀ c ∈ text.takeWhile isQueryChar, decide (c ≠ '#') = true := fun c hc =>
    ne_of_isQueryChar c (List.mem_takeWhile_imp hc)
  conv => rhs; rw [← List.takeWhile_append_dropWhile (p := isQueryChar) (l := text)]
  rw [List.takeWhile_append_of_pos hquery]
  cases hrest : text.dropWhile isQueryChar with
  | nil => simp
  | cons c rest =>
      obtain rfl := h c (by simp [hrest])
      simp

theorem query_of_splitPath {text : List Char} {path : String} {query : Option String}
    (h : splitPath text = .ok (path, query)) : query = (search? text).map String.ofList := by
  unfold splitPath at h
  rw [← search?_dropWhile (by decide : isPathChar '?' = false) (by decide)]
  split at h
  case h_1 hrest =>
    cases h
    rw [hrest]
    rfl
  case h_2 hrest =>
    cases h
    rw [hrest, search?_hash]
    rfl
  case h_3 rest hrest =>
    rw [hrest, search?_mark]
    split at h
    case h_1 hend =>
      cases h
      rw [takeWhile_isQueryChar (by simp [hend]), Option.map_some]
    case h_2 hend =>
      cases h
      rw [takeWhile_isQueryChar (by simp [hend]), Option.map_some]
    case h_3 => cases h
  case h_4 => cases h

/-! ### Scheme and authority -/

theorem search?_takeScheme {text rest : List Char} {scheme : Option String}
    (h : takeScheme text = .ok (scheme, rest)) : search? rest = search? text := by
  unfold takeScheme at h
  split at h
  case h_1 behind hbehind =>
    have hslashes : IsPlain [':', '/', '/'] := isPlain_iff.mpr (by decide)
    have htext : search? behind = search? text := by
      rw [← search?_append hslashes behind,
        ← search?_dropWhile (by decide : isSchemeChar '?' = false) (by decide) text, hbehind]
      rfl
    dsimp only at h
    split at h
    case isTrue =>
      cases h
      exact htext
    case isFalse =>
      split at h
      case isTrue =>
        cases h
        rfl
      case isFalse =>
        split at h
        case isTrue => cases h
        case isFalse =>
          cases h
          exact htext
  case h_2 =>
    cases h
    rfl

theorem search?_takeAuthority {text rest : List Char} {authority : String}
    (h : takeAuthority text = .ok (authority, rest)) : search? rest = search? text := by
  obtain ⟨scan, -, h⟩ := bind_eq_ok_iff.mp h
  split at h
  case isTrue => cases h
  case isFalse =>
    cases h
    exact search?_dropWhile (by decide) (by decide) text

theorem query_of_parseAbsolute {text : List Char} {uri : Uri} (h : parseAbsolute text = .ok uri) :
    uri.query = (search? text).map String.ofList := by
  obtain ⟨⟨scheme, behind⟩, hscheme, h⟩ := bind_eq_ok_iff.mp h
  obtain ⟨⟨authority, rest⟩, hauthority, h⟩ := bind_eq_ok_iff.mp h
  rw [← search?_takeScheme hscheme, ← search?_takeAuthority hauthority]
  dsimp only at h
  split at h
  case isTrue =>
    -- an authority alone
    split at h
    case isTrue hempty =>
      cases h
      rw [List.isEmpty_iff.mp hempty]
      rfl
    case isFalse => cases h
  case isFalse =>
    split at h
    case isTrue => cases h
    case isFalse =>
      obtain ⟨⟨path, query⟩, hpath, h⟩ := bind_eq_ok_iff.mp h
      cases h
      exact query_of_splitPath hpath

/-- The query of a request target is the search part of its text. -/
theorem query_of_parse {s : String} {uri : Uri} (h : parse s = .ok uri) :
    uri.query = (search? s.toList).map String.ofList := by
  unfold parse at h
  split at h
  case isTrue => cases h
  case isFalse =>
    split at h
    case h_1 => cases h
    case h_2 hstar =>
      cases h
      rw [hstar]
      rfl
    case h_3 c _ hchar =>
      rw [hchar]
      split at h
      case isTrue hslash =>
        cases h
        rw [hslash]
        rfl
      case isFalse =>
        split at h
        case isTrue => cases h
        case isFalse => exact query_of_parseAbsolute h
    case h_4 rest _ hslash =>
      obtain ⟨⟨path, query⟩, hpath, h⟩ := bind_eq_ok_iff.mp h
      cases h
      rw [hslash]
      exact query_of_splitPath hpath
    case h_5 => exact query_of_parseAbsolute h

end ApiClient.Uri
