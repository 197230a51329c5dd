import ApiClient.Proofs.Parameter.Substitution
import ApiClient.Proofs.Text.Percent
import Mathlib.Data.List.Forall2

/-!
Path values read back from a URL. Between two slashes of a path there is either a text or a single
template. A value is encoded where it is put in, so that it brings no slash along. Hence the parts
of the URL are those of the path, and the values are read from the parts that had a template.
-/

namespace ApiClient.Parameter

/-! ### Parts of a path -/

/-- What stands between two slashes. -/
inductive PathPart
  | literal (text : List Char)
  | value (name : String)

/-- Characters that have no meaning in a path with templates. -/
def isPartChar (c : Char) : Bool := !isBrace c && c != '/'

/-- A name that asks for a value in simple style: neither label nor matrix, and not exploded. -/
@[mk_iff]
structure IsPlainName (name : List Char) : Prop where
  ne_nil : name ≠ []
  chars : name.all isPartChar = true
  not_label : name.head? ≠ some '.'
  not_matrix : name.head? ≠ some ';'
  not_exploded : name.getLast? ≠ some '*'

namespace PathPart

def text : PathPart → List Char
  | literal text => text
  | value name => '\x7b' :: (name.toList ++ ['\x7d'])

def IsPlain : PathPart → Prop
  | literal text => text.all isPartChar = true
  | value name => IsPlainName name.toList

instance : (part : PathPart) → Decidable part.IsPlain
  | literal text => inferInstanceAs (Decidable (text.all isPartChar = true))
  | value name => decidable_of_iff' _ (isPlainName_iff name.toList)

/-- A URL of these parts. -/
def url (parts : List PathPart) : String :=
  String.ofList (List.intercalate ['/'] (parts.map text))

/-- The text of the scalar that a path has under a name. Null is none. -/
def scalarFor? (path : Entries Json) (name : String) : Option String :=
  match Entries.find? name path with
  | none | some .null => none
  | some v => v.scalarText?

/-- Every name that is used has a scalar. -/
def HasScalars (path : Entries Json) (parts : List PathPart) : Prop :=
  ∀ name, value name ∈ parts → ∃ text, scalarFor? path name = some text

/-- How a part is read from what became of it: a text as it stands, a value by decoding. -/
def ReadsAs (path : Entries Json) : PathPart → List Char → Prop
  | literal text, piece => piece = text
  | value name, piece =>
    ∃ text, scalarFor? path name = some text ∧ Percent.decode? piece = some text.toList

/-! ### One part -/

theorem not_mem_of_isPartChar {c : Char} (hc : isPartChar c = false) {text : List Char}
    (h : text.all isPartChar = true) : c ∉ text := by
  intro hmem
  simp [List.all_eq_true.mp h c hmem] at hc

theorem isInner_of_isPlainName {name : List Char} (h : IsPlainName name) : IsInner name := by
  refine ⟨h.ne_nil, fun c hc => ?_⟩
  have hchar := List.all_eq_true.mp h.chars c hc
  rw [isPartChar, Bool.and_eq_true] at hchar
  simpa using hchar.1

theorem parse_of_isPlainName {name : String} (h : IsPlainName name.toList) :
    Template.parse name.toList = ⟨name, .simple, false⟩ := by
  have hexplode : decide (name.toList.getLast? = some '*') = false :=
    decide_eq_false h.not_exploded
  unfold Template.parse
  simp only [hexplode, if_neg h.not_exploded]
  split
  case h_1 rest heq => exact absurd (by rw [heq]; rfl) h.not_label
  case h_2 rest heq => exact absurd (by rw [heq]; rfl) h.not_matrix
  case h_3 => rw [String.ofList_toList]

theorem expand_of_scalarFor? {path : Entries Json} {name text : String}
    (h : scalarFor? path name = some text) :
    (⟨name, .simple, false⟩ : Template).expand path = .ok (some (Percent.encode text.toList)) := by
  rw [scalarFor?] at h
  unfold Template.expand
  dsimp only
  cases hvalue : Entries.find? name path with
  | none =>
      rw [hvalue] at h
      cases h
  | some v =>
      rw [hvalue] at h
      cases v with
      | null | array | object => cases h
      | bool | number | string =>
          cases h
          rfl

/-- What a part becomes. -/
def written (path : Entries Json) : PathPart → List Char
  | literal text => text
  | value name => Percent.encode ((scalarFor? path name).getD "").toList

theorem readsAs_written {path : Entries Json} {part : PathPart}
    (h : ∀ name, part = value name → ∃ text, scalarFor? path name = some text) :
    part.ReadsAs path (part.written path) := by
  cases part with
  | literal text => rfl
  | value name =>
      obtain ⟨text, htext⟩ := h name rfl
      exact ⟨text, htext, by rw [written, htext, Option.getD_some, Percent.decode?_encode]⟩

/-- A value is known from what became of it. -/
theorem scalarFor?_eq_of_written_eq {path other : Entries Json} {name : String}
    (h : ∃ text, scalarFor? path name = some text)
    (h' : ∃ text, scalarFor? other name = some text)
    (heq : (value name).written path = (value name).written other) :
    scalarFor? path name = scalarFor? other name := by
  obtain ⟨text, htext⟩ := h
  obtain ⟨text', htext'⟩ := h'
  have hdecode := congrArg Percent.decode? heq
  rw [written, written, htext, htext', Percent.decode?_encode, Percent.decode?_encode] at hdecode
  have hsame : text = text' := String.toList_injective (Option.some.inj hdecode)
  rw [htext, htext', hsame]

theorem slash_not_mem_written (path : Entries Json) {part : PathPart} (h : part.IsPlain) :
    '/' ∉ part.written path := by
  cases part with
  | literal text => exact not_mem_of_isPartChar (by decide) h
  | value name => exact Percent.not_mem_encode (by decide) _

/-! ### Substitution part by part -/

theorem substituteChars_text_append {path : Entries Json} {part : PathPart} (hplain : part.IsPlain)
    (hscalar : ∀ name, part = value name → ∃ text, scalarFor? path name = some text)
    (rest : List Char) :
    substituteChars path (part.text ++ rest) =
      (substituteChars path rest).map (part.written path ++ ·) := by
  cases part with
  | literal text =>
      have hopen : '\x7b' ∉ text := not_mem_of_isPartChar (by decide) hplain
      exact substituteChars_append hopen path rest
  | value name =>
      obtain ⟨scalar, htext⟩ := hscalar name rfl
      have hexpand : (Segment.template name.toList).expand path =
          .ok (Percent.encode scalar.toList) := by
        rw [Segment.expand, parse_of_isPlainName hplain, expand_of_scalarFor? htext]
        rfl
      rw [PathPart.text, List.cons_append, List.append_assoc, List.singleton_append,
        substituteChars_template (isInner_of_isPlainName hplain), hexpand, written, htext]
      rfl

theorem substituteChars_intercalate {path : Entries Json} {parts : List PathPart}
    (hplain : ∀ part ∈ parts, part.IsPlain) (hscalars : HasScalars path parts) :
    substituteChars path (List.intercalate ['/'] (parts.map text)) =
      .ok (List.intercalate ['/'] (parts.map (written path))) := by
  have hnil : substituteChars path [] = .ok [] := by
    rw [substituteChars_eq_expandAll, segments, expandAll_nil]
  induction parts with
  | nil => exact hnil
  | cons part parts ih =>
      have hfirst := substituteChars_text_append (hplain part List.mem_cons_self)
        fun name hname => hscalars name (hname ▸ List.mem_cons_self)
      have hrest := ih (fun later hlater => hplain later (List.mem_cons_of_mem part hlater))
        fun name hname => hscalars name (List.mem_cons_of_mem part hname)
      cases parts with
      | nil => simpa [hnil, Except.map] using hfirst []
      | cons next parts =>
          have htext : List.intercalate ['/'] ((part :: next :: parts).map text) =
              part.text ++ (['/'] ++ List.intercalate ['/'] ((next :: parts).map text)) := by
            simp
          rw [htext, hfirst, substituteChars_append (by decide) path, hrest]
          simp [Except.map]

/-! ### All parts -/

theorem splitOn_written {path : Entries Json} {parts : List PathPart} (hne : parts ≠ [])
    (hplain : ∀ part ∈ parts, part.IsPlain) :
    (List.intercalate ['/'] (parts.map (written path))).splitOn '/' =
      parts.map (written path) := by
  refine List.splitOn_intercalate '/' ?_ (by simpa using hne)
  intro piece hpiece
  obtain ⟨part, hpart, rfl⟩ := List.mem_map.mp hpiece
  exact slash_not_mem_written path (hplain part hpart)

theorem forall₂_readsAs_written {path : Entries Json} {parts : List PathPart}
    (hscalars : HasScalars path parts) :
    List.Forall₂ (ReadsAs path) parts (parts.map (written path)) := by
  rw [List.forall₂_map_right_iff, List.forall₂_same]
  intro part hpart
  exact readsAs_written fun name hname => hscalars name (hname ▸ hpart)

end PathPart

open PathPart

/-- A URL whose templates all name scalars is filled in. The result has the parts of the URL: texts
as they were, and for each template a piece that decodes to the text of its scalar. So where a used
name has a different text, the result is different. -/
theorem substitute_reads_back {path : Entries Json} {parts : List PathPart}
    (hplain : ∀ part ∈ parts, part.IsPlain) (hscalars : HasScalars path parts) :
    ∃ result, substitute path (url parts) = .ok result ∧
      (parts = [] → result = "") ∧
      (parts ≠ [] → List.Forall₂ (ReadsAs path) parts (result.toList.splitOn '/')) ∧
      ∀ other, HasScalars other parts →
        (∃ name, value name ∈ parts ∧ scalarFor? other name ≠ scalarFor? path name) →
          substitute other (url parts) ≠ .ok result := by
  have hsubstitute : ∀ {path}, HasScalars path parts → substitute path (url parts) =
      .ok (String.ofList (List.intercalate ['/'] (parts.map (written path)))) := by
    intro path hscalars
    rw [substitute, url, String.toList_ofList, substituteChars_intercalate hplain hscalars]
    rfl
  refine ⟨_, hsubstitute hscalars, ?_, ?_, ?_⟩
  · rintro rfl
    rfl
  · intro hne
    rw [String.toList_ofList, splitOn_written hne hplain]
    exact forall₂_readsAs_written hscalars
  · rintro other hother ⟨name, hname, hdiffer⟩ heq
    have hne : parts ≠ [] := List.ne_nil_of_mem hname
    rw [hsubstitute hother] at heq
    have hpieces := congrArg (List.splitOn '/') (String.ofList_injective (Except.ok.inj heq))
    rw [splitOn_written hne hplain, splitOn_written hne hplain] at hpieces
    have hpiece : (value name).written other = (value name).written path :=
      List.map_inj_left.mp hpieces _ hname
    exact hdiffer (scalarFor?_eq_of_written_eq (hother name hname) (hscalars name hname) hpiece)

/-- Two templates among texts. The last one may come to nothing. -/
def toyParts : List PathPart :=
  [literal [], literal "pets".toList, value "id", literal "toys".toList, value "toy"]

/-- All characters that a path is taken apart by, and an entry that no template names. -/
def toyPath : Entries Json :=
  [("id", .string "a/b%\x7btoy\x7dü"), ("all", .array []), ("toy", .string "")]

theorem substitute_reads_back_toyPath :
    url toyParts = "/pets/\x7bid\x7d/toys/\x7btoy\x7d" ∧
      ∃ result, substitute toyPath (url toyParts) = .ok result ∧
        List.Forall₂ (ReadsAs toyPath) toyParts (result.toList.splitOn '/') ∧
        substitute [("id", .bool true), ("toy", .string "")] (url toyParts) ≠ .ok result := by
  have hscalars : ∀ {path}, scalarFor? path "id" ≠ none → scalarFor? path "toy" ≠ none →
      HasScalars path toyParts := by
    intro path hid htoy name hname
    simp only [toyParts, List.mem_cons, reduceCtorEq, value.injEq, List.not_mem_nil, or_false,
      false_or] at hname
    rcases hname with rfl | rfl
    · exact Option.ne_none_iff_exists'.mp hid
    · exact Option.ne_none_iff_exists'.mp htoy
  obtain ⟨result, hresult, -, hreads, hdiffer⟩ := @substitute_reads_back toyPath toyParts
    (by decide) (hscalars (by decide) (by decide))
  refine ⟨rfl, result, hresult, hreads (by simp [toyParts]), ?_⟩
  exact hdiffer _ (hscalars (by decide) (by decide)) ⟨"id", by simp [toyParts], by decide⟩

end ApiClient.Parameter
