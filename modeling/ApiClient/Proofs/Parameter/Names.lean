import ApiClient.Proofs.Parameter.Style
import ApiClient.Proofs.Text.Percent

/-!
Names in parameters. Values are encoded, but names and the keys of objects stand as they are. So a
character that neither encoded texts nor styles bring along is in a parameter as often as it is in
the names that the parameter is written with.
-/

namespace ApiClient.Parameter

variable {c : Char}

/-- Characters of encoded texts, and those that styles put between them. -/
def isMark (c : Char) : Bool := Percent.isEncodedChar c || ['|', ',', ';', '&', '='].contains c

theorem ne_of_isMark {d : Char} (hc : isMark c = false) (hd : isMark d = true) : d ≠ c := by
  rintro rfl
  rw [hc] at hd
  cases hd

theorem count_marks (hc : isMark c = false) {marks : List Char}
    (hmarks : marks.all isMark = true) : marks.count c = 0 := by
  rw [List.count_eq_zero]
  intro hmem
  exact ne_of_isMark hc (List.all_eq_true.mp hmarks c hmem) rfl

theorem count_encode (hc : isMark c = false) (text : List Char) :
    (encode false text).count c = 0 := by
  rw [isMark, Bool.or_eq_false_iff] at hc
  exact List.count_eq_zero.mpr (Percent.not_mem_encode hc.1 text)

theorem count_pair (hc : isMark c = false) (name text : List Char) :
    (pair false name text).count c = name.count c := by
  rw [pair, List.count_append, List.count_cons_of_ne (ne_of_isMark hc (by decide)),
    count_encode hc, Nat.add_zero]

theorem count_intercalate (hc : isMark c = false) {sep : List Char} (hsep : sep.all isMark = true)
    (pieces : List (List Char)) :
    (List.intercalate sep pieces).count c = pieces.flatten.count c := by
  induction pieces with
  | nil => rfl
  | cons piece pieces ih =>
      cases pieces with
      | nil => simp
      | cons next pieces =>
          rw [List.intercalate_cons_cons, List.count_append, List.count_append, ih,
            count_marks hc hsep, Nat.add_zero, ← List.count_append, ← List.flatten_cons]

theorem count_flatten_map {α : Type} {f g : α → List Char}
    (h : ∀ a, (f a).count c = (g a).count c) (l : List α) :
    (l.map f).flatten.count c = (l.map g).flatten.count c := by
  rw [List.count_flatten, List.count_flatten, List.map_map, List.map_map]
  exact congrArg List.sum (List.map_congr_left fun a _ => h a)

namespace Style

variable (style : Style) (explode : Bool)

theorem all_collapsedSeparator : style.collapsedSeparator.all isMark = true := by
  cases style <;> decide

theorem all_explodedSeparator : style.explodedSeparator.all isMark = true := by
  cases style <;> decide

theorem all_explodedHead : style.explodedHead.all isMark = true := by
  cases style <;> decide

/-! ### Arrays -/

/-- The names that an array is written with. -/
def arrayNames (name : List Char) (texts : List (List Char)) : List (List Char) :=
  match style with
  | .label | .simple => []
  | _ => if explode then texts.map fun _ => name else [name]

theorem count_arrayHead (hc : isMark c = false) (name : List Char) :
    (style.arrayHead name).count c = (style.arrayNames false name []).flatten.count c := by
  have hequals : '=' ≠ c := ne_of_isMark hc (by decide)
  have hsemicolon : ';' ≠ c := ne_of_isMark hc (by decide)
  have hdot : '.' ≠ c := ne_of_isMark hc (by decide)
  cases style <;> simp [arrayHead, arrayNames, hequals, hsemicolon, hdot]

theorem count_arrayChars (hc : isMark c = false) (name : String) (texts : List (List Char)) :
    (style.arrayChars explode false name texts).count c =
      (style.arrayNames explode name.toList texts).flatten.count c := by
  have hencoded : (texts.map (encode false)).flatten.count c = 0 := by
    rw [List.count_eq_zero]
    intro hmem
    obtain ⟨encoded, hencoded, hc'⟩ := List.mem_flatten.mp hmem
    obtain ⟨text, -, rfl⟩ := List.mem_map.mp hencoded
    exact List.count_eq_zero.mp (count_encode hc text) hc'
  have hpairs := count_flatten_map (count_pair hc name.toList) texts
  rw [arrayChars]
  cases explode with
  | true =>
      rw [if_pos rfl, List.count_append, count_marks hc style.all_explodedHead, Nat.zero_add,
        count_intercalate hc style.all_explodedSeparator]
      cases style with
      | label | simple => exact hencoded
      | _ => exact hpairs
  | false =>
      -- collapsed, a name stands in the head only
      rw [if_neg (by decide), List.count_append, count_intercalate hc style.all_collapsedSeparator,
        hencoded, Nat.add_zero, count_arrayHead style hc]
      cases style <;> rfl

/-! ### Objects -/

/-- The names that stand before the keys of an object. -/
def headNames (name : List Char) : List (List Char) :=
  match style with
  | .form | .matrix => [name]
  | _ => []

/-- The names that an object is written with, among them its keys. -/
def objectNames (name : List Char) (entries : List (List Char × List Char)) : List (List Char) :=
  if explode || style = .deepObject then entries.map fun (key, _) => style.entryName name key
  else style.headNames name ++ entries.map (·.1)

theorem count_objectHead (hc : isMark c = false) (name : List Char) :
    (style.objectHead name).count c = (style.headNames name).flatten.count c := by
  have hequals : '=' ≠ c := ne_of_isMark hc (by decide)
  have hsemicolon : ';' ≠ c := ne_of_isMark hc (by decide)
  have hdot : '.' ≠ c := ne_of_isMark hc (by decide)
  cases style <;> simp [objectHead, headNames, hequals, hsemicolon, hdot]

theorem count_objectChars (hc : isMark c = false) (name : String)
    (entries : List (List Char × List Char)) :
    (style.objectChars explode false name entries).count c =
      (style.objectNames explode name.toList entries).flatten.count c := by
  rw [objectChars, objectNames]
  split
  case isTrue =>
    rw [List.count_append, count_marks hc style.all_explodedHead, Nat.zero_add,
      count_intercalate hc style.all_explodedSeparator]
    exact count_flatten_map (fun entry => count_pair hc _ entry.2) entries
  case isFalse =>
    have hparts : (entries.flatMap fun (key, text) => [key, encode false text]).flatten.count c =
        (entries.map (·.1)).flatten.count c := by
      induction entries with
      | nil => rfl
      | cons entry entries ih => simp [ih, count_encode hc]
    rw [List.count_append, count_intercalate hc (by decide), hparts, List.flatten_append,
      List.count_append, count_objectHead style hc]

end Style

end ApiClient.Parameter
