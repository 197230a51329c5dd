import ApiClient.Proofs.Request.HeaderOverlay
import ApiClient.Proofs.Text.LetterCase

/-!
Header maps as inputs. A map whose values are texts can be laid on in two ways: as the map that it
is, and as inputs that give each of its names the list of its values. Both come to the same, in
whatever order the names come.
-/

namespace ApiClient

theorem isTokenChar_toLower {c : Char} (h : isTokenChar c = true) :
    isTokenChar c.toLower = true := by
  have hletters : ∀ c : Char, c.isAlpha = true → isTokenChar c = true := by
    intro c hc
    rw [isTokenChar, Char.isAlphanum, hc]
    rfl
  rwa [LetterCase.apply_toLower hletters]

namespace HeaderName

/-- The names that there are: those that some text spells. -/
def IsSpelled (name : HeaderName) : Prop := ∃ text, parse? text = some name

/-- A name that some text spells spells itself. -/
theorem IsSpelled.parse?_text {name : HeaderName} (h : name.IsSpelled) :
    parse? name.text = some name := by
  obtain ⟨text, h⟩ := h
  rw [parse?] at h
  split at h
  case isFalse => cases h
  case isTrue hchars =>
    obtain rfl := Option.some.inj h
    have hlower : (text.toList.map Char.toLower).map Char.toLower =
        text.toList.map Char.toLower := by
      rw [List.map_map]
      exact List.map_congr_left fun c _ => LetterCase.toLower_toLower c
    simp only [Bool.and_eq_true, List.all_eq_true, decide_eq_true_eq] at hchars
    obtain ⟨⟨hne, htoken⟩, hlength⟩ := hchars
    rw [parse?, String.toList_ofList, hlower]
    apply if_pos
    simp only [Bool.and_eq_true, List.all_eq_true, decide_eq_true_eq]
    refine ⟨⟨?_, ?_⟩, ?_⟩
    · rwa [List.isEmpty_map]
    · intro d hd
      obtain ⟨c, hc, rfl⟩ := List.mem_map.mp hd
      exact isTokenChar_toLower (htoken c hc)
    · rwa [List.length_map]

end HeaderName

namespace HeaderValue

/-- The text of a value, each byte as the character of its number. -/
def text (value : HeaderValue) : String :=
  String.ofList (value.map fun b => Char.ofNat b.toNat)

theorem map_utf8_text {vs : List HeaderValue} (h : ∀ value ∈ vs, value.all readable) :
    (vs.map text).map utf8 = vs := by
  rw [List.map_map]
  calc vs.map (utf8 ∘ text)
      = vs.map id := List.map_congr_left fun value hvalue => utf8_of_readable (h value hvalue)
    _ = vs := List.map_id vs

end HeaderValue

namespace Headers

/-- Inputs that give each name of a map the list of its values. -/
def toInputs (headers : Headers) : Entries HeaderInput :=
  headers.names.map fun name =>
    (name.text, .list ((headers.values name).map HeaderValue.text))

/-- A map that can be given as inputs: its names are names, and its values are read as text. -/
structure IsReadable (headers : Headers) : Prop where
  names : ∀ name ∈ headers.names, name.IsSpelled
  values : ∀ name ∈ headers.names, ∀ value ∈ headers.values name, value.all HeaderValue.readable

variable {base overrides : Headers} {inputs : Entries HeaderInput}

theorem IsReadable.isSendable (h : overrides.IsReadable) {entry : String × HeaderInput}
    (hentry : entry ∈ overrides.toInputs) : entry.2.IsSendable entry.1 := by
  obtain ⟨name, hname, rfl⟩ := List.mem_map.mp hentry
  constructor
  · rw [(h.names name hname).parse?_text]
    rfl
  · intro text htext
    obtain ⟨value, hvalue, rfl⟩ := List.mem_map.mp htext
    have hread : value.toText? = some value.text := if_pos (h.values name hname value hvalue)
    rw [HeaderValue.ofText?_of_toText? hread]
    rfl

/-- The last input for a name gives it the values that it has in the map, and there is one exactly
for the names that have values. -/
theorem IsReadable.getLast?_filter (h : overrides.IsReadable)
    (hinputs : inputs.Perm overrides.toInputs) (name : HeaderName) :
    ((inputs.filter fun entry => HeaderName.parse? entry.1 = some name).getLast?.map
      fun entry => entry.2.texts.map utf8) =
      if overrides.values name = [] then none else some (overrides.values name) := by
  cases hlast : (inputs.filter fun entry =>
    HeaderName.parse? entry.1 = some name).getLast? with
  | none =>
      have hnone : overrides.values name = [] := by
        by_contra hne
        have hname := mem_names_iff.mpr hne
        have hentry : (name.text, .list ((overrides.values name).map HeaderValue.text)) ∈
            overrides.toInputs := List.mem_map_of_mem hname
        have hunlisted := List.filter_eq_nil_iff.mp (List.getLast?_eq_none_iff.mp hlast) _
          (hinputs.mem_iff.mpr hentry)
        exact hunlisted (decide_eq_true (h.names name hname).parse?_text)
      rw [if_pos hnone]
      rfl
  | some entry =>
      -- whichever comes last, it is the input that was made for the name
      obtain ⟨hentry, hspells⟩ := List.mem_filter.mp (List.mem_of_getLast? hlast)
      obtain ⟨other, hother, rfl⟩ := List.mem_map.mp (hinputs.mem_iff.mp hentry)
      have hname : other = name := by
        simpa [(h.names other hother).parse?_text] using hspells
      subst hname
      rw [if_neg (mem_names_iff.mp hother)]
      exact congrArg some (HeaderValue.map_utf8_text (h.values other hother))

/-- A map whose values are texts comes to the same whether it is laid on as a map or as inputs, with
a list of values for each name, in any order of the names. -/
theorem override_toInputs_eq_merge (h : overrides.IsReadable)
    (hinputs : inputs.Perm overrides.toInputs) :
    base.override inputs = .ok (base.merge overrides) := by
  have hsendable : ∀ entry ∈ inputs, entry.2.IsSendable entry.1 := fun entry hentry =>
    h.isSendable (hinputs.mem_iff.mp hentry)
  obtain ⟨merged, hmerged⟩ : ∃ merged, base.override inputs = .ok merged :=
    exists_override_eq_ok_iff.mpr hsendable
  suffices hsame : merged = base.merge overrides by rw [hmerged, hsame]
  apply ext_values
  intro name
  rw [values_of_override_eq_ok hmerged, h.getLast?_filter hinputs, values_merge]
  split <;> rfl

/-- Two names with their inputs the other way round, over a map that has one of them. -/
theorem override_toInputs_eq_merge_swapped :
    let base := ofList [(⟨"x-id"⟩, utf8 "7"), (⟨"host"⟩, utf8 "a")]
    let overrides :=
      ofList [(⟨"accept"⟩, utf8 "a/b"), (⟨"accept"⟩, utf8 "c d"), (⟨"x-id"⟩, utf8 "")]
    let inputs : Entries HeaderInput := [("x-id", .list [""]), ("accept", .list ["a/b", "c d"])]
    overrides.IsReadable ∧ inputs.Perm overrides.toInputs ∧
      base.override inputs = .ok (base.merge overrides) := by
  intro base overrides inputs
  have hlisted : overrides.names = [⟨"accept"⟩, ⟨"x-id"⟩] := by decide
  have hreadable : overrides.IsReadable := by
    constructor
    · rw [hlisted]
      intro name hname
      exact ⟨name.text, by revert name; decide⟩
    · decide
  have hinputs : inputs.Perm overrides.toInputs := List.Perm.swap _ _ _
  exact ⟨hreadable, hinputs, override_toInputs_eq_merge hreadable hinputs⟩

end Headers

end ApiClient
