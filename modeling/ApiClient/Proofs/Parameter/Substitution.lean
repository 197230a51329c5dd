import ApiClient.Parameter.Template
import ApiClient.Proofs.Lists
import ApiClient.Request.Url

/-!
What substitution means for a URL as a whole. A URL has one reading as characters and templates, in
which the templates are all the places where braces enclose something without braces. Each template
is replaced on its own, and the first one that cannot be replaced is the fault of the URL.
-/

namespace ApiClient.Parameter

/-! ### Templates -/

/-- The styles that a template can ask for. -/
inductive Style.IsPathStyle : Style → Prop
  | simple : IsPathStyle .simple
  | label : IsPathStyle .label
  | matrix : IsPathStyle .matrix

theorem isPathStyle_parse (inner : List Char) : (Template.parse inner).style.IsPathStyle := by
  unfold Template.parse
  dsimp only
  split
  · exact .label
  · exact .matrix
  · exact .simple

/-! ### Readings of a URL -/

/-- What can stand between the braces of a template. -/
structure IsInner (inner : List Char) : Prop where
  ne_nil : inner ≠ []
  braceless : ∀ c ∈ inner, isBrace c = false

/-- A place of a URL where a template stands. -/
structure Occurrence (url before inner after : List Char) : Prop where
  text : url = before ++ '\x7b' :: (inner ++ '\x7d' :: after)
  isInner : IsInner inner

inductive Segment
  | char (c : Char)
  | template (inner : List Char)

namespace Segment

def text : Segment → List Char
  | char c => [c]
  | template inner => '\x7b' :: (inner ++ ['\x7d'])

/-- What a segment becomes. A template without a value is left as it stands. -/
def expand (path : Entries Json) : Segment → Except NestedParameter (List Char)
  | char c => .ok [c]
  | template inner =>
    ((Template.parse inner).expand path).map fun value => value.getD (template inner).text

theorem text_ne_nil (segment : Segment) : segment.text ≠ [] := by
  cases segment <;> simp [text]

end Segment

open Segment

/-- The texts that segments become, one after the other. -/
def expandAll (path : Entries Json) (segments : List Segment) :
    Except NestedParameter (List Char) :=
  (segments.mapM (Segment.expand path)).map List.flatten

/-- The segments make up the URL, and its templates are just the occurrences in it. -/
structure Reading (url : List Char) (segments : List Segment) : Prop where
  text : segments.flatMap Segment.text = url
  sound : ∀ inner, template inner ∈ segments → IsInner inner
  complete : ∀ before inner after, Occurrence url before inner after →
    ∃ segs rest, segments = segs ++ template inner :: rest ∧ segs.flatMap Segment.text = before

theorem flatMap_text_eq_nil {segments : List Segment} :
    segments.flatMap Segment.text = [] ↔ segments = [] := by
  cases segments with
  | nil => simp
  | cons segment segments => simp [text_ne_nil]

/-- A reading goes on with a reading of what is left. -/
theorem Reading.tail {url : List Char} {segment : Segment} {segments : List Segment}
    (h : Reading url (segment :: segments)) :
    Reading (segments.flatMap Segment.text) segments where
  text := rfl
  sound inner hinner := h.sound inner (List.mem_cons_of_mem segment hinner)
  complete before inner after hoccurs := by
    have hurl : Occurrence url (segment.text ++ before) inner after := by
      refine ⟨?_, hoccurs.isInner⟩
      rw [← h.text, List.flatMap_cons, hoccurs.text, List.append_assoc]
    obtain ⟨segs, rest, hsegments, htext⟩ := h.complete _ _ _ hurl
    cases segs with
    | nil => exact absurd htext.symm (by simp [text_ne_nil])
    | cons first segs =>
        obtain ⟨rfl, hrest⟩ := List.cons.inj hsegments
        exact ⟨segs, rest, hrest, by simpa using htext⟩

/-! ### Reading a URL from left to right -/

/-- Reads a template behind its opening brace. -/
def readTemplate? (rest : List Char) : Option (List Char × List Char) :=
  let inner := rest.takeWhile (!isBrace ·)
  match rest.dropWhile (!isBrace ·) with
  | [] => none
  | close :: after => if close = '\x7b' || inner.isEmpty then none else some (inner, after)

theorem readTemplate?_of_isInner {inner : List Char} (h : IsInner inner) (after : List Char) :
    readTemplate? (inner ++ '\x7d' :: after) = some (inner, after) := by
  have hinner : ∀ c ∈ inner, (!isBrace c) = true := by
    intro c hc
    simp [h.braceless c hc]
  have hclose : isBrace '\x7d' = true := by decide
  rw [readTemplate?, List.takeWhile_append_of_pos hinner, List.dropWhile_append_of_pos hinner]
  simp [hclose, h.ne_nil]

theorem eq_of_readTemplate? {rest inner after : List Char}
    (h : readTemplate? rest = some (inner, after)) :
    rest = inner ++ '\x7d' :: after ∧ IsInner inner := by
  unfold readTemplate? at h
  split at h
  case h_1 => simp at h
  case h_2 close after' hdrop =>
    obtain ⟨hrest, hinner, hclose⟩ := eq_of_dropWhile_eq_cons hdrop
    dsimp only at h
    split at h
    case isTrue => simp at h
    case isFalse hne =>
      obtain ⟨rfl, rfl⟩ := Prod.mk.inj (Option.some.inj h)
      simp only [Bool.or_eq_true, decide_eq_true_eq, List.isEmpty_iff, not_or] at hne
      have hbrace : close = '\x7d' := by simpa [isBrace, hne.1] using hclose
      exact ⟨by rwa [hbrace] at hrest, hne.2, fun c hc => by simpa using hinner c hc⟩

/-- Takes a URL apart from left to right: a template where one stands, else a character. -/
def segments : List Char → List Segment
  | [] => []
  | c :: rest =>
    if c = '\x7b' then
      match _h : readTemplate? rest with
      | some (inner, after) => template inner :: segments after
      | none => char c :: segments rest
    else char c :: segments rest
termination_by url => url.length
decreasing_by
  · rw [(eq_of_readTemplate? _h).1]
    simp
    omega
  · simp
  · simp

theorem segments_template {inner : List Char} (h : IsInner inner) (after : List Char) :
    segments ('\x7b' :: (inner ++ '\x7d' :: after)) = template inner :: segments after := by
  rw [segments, if_pos rfl]
  split
  case h_1 inner' after' hread =>
    rw [readTemplate?_of_isInner h] at hread
    obtain ⟨rfl, rfl⟩ := Prod.mk.inj (Option.some.inj hread)
    rfl
  case h_2 hread => simp [readTemplate?_of_isInner h] at hread

theorem segments_char {c : Char} {rest : List Char}
    (h : c = '\x7b' → readTemplate? rest = none) :
    segments (c :: rest) = char c :: segments rest := by
  rw [segments]
  split
  case isTrue hc =>
    split
    case h_1 hread => simp [h hc] at hread
    case h_2 => rfl
  case isFalse => rfl

theorem segments_append {before : List Char} (h : '\x7b' ∉ before) (rest : List Char) :
    segments (before ++ rest) = before.map char ++ segments rest := by
  induction before with
  | nil => rfl
  | cons c before ih =>
      simp only [List.mem_cons, not_or] at h
      rw [List.cons_append, segments_char fun hc => absurd hc.symm h.1, ih h.2]
      rfl

/-- An occurrence in what begins with a template is this template, or lies behind it. -/
theorem Occurrence.of_template {inner after before inner' after' : List Char}
    (hinner : IsInner inner)
    (h : Occurrence ('\x7b' :: (inner ++ '\x7d' :: after)) before inner' after') :
    before = [] ∧ inner' = inner ∨
      ∃ rest, before = (template inner).text ++ rest ∧ Occurrence after rest inner' after' := by
  cases before with
  | nil =>
      have htext : inner ++ '\x7d' :: after = inner' ++ '\x7d' :: after' := by
        simpa using h.text
      have hread := readTemplate?_of_isInner hinner after
      rw [htext, readTemplate?_of_isInner h.isInner] at hread
      exact .inl ⟨rfl, (Prod.mk.inj (Option.some.inj hread)).1⟩
  | cons c before =>
      obtain ⟨rfl, htext⟩ := List.cons.inj h.text
      rcases List.append_eq_append_iff.mp htext with ⟨rest, hbefore, hrest⟩ | ⟨rest, hsplit, hrest⟩
      · cases rest with
        | nil => simp at hrest
        | cons d rest =>
            obtain ⟨rfl, hafter⟩ := List.cons.inj hrest
            exact .inr ⟨rest, by simp [Segment.text, hbefore], hafter, h.isInner⟩
      · cases rest with
        | nil => simp at hrest
        | cons d rest =>
            obtain ⟨rfl, -⟩ := List.cons.inj hrest
            have hopen := hinner.braceless '\x7b' (by simp [hsplit])
            simp [isBrace] at hopen

/-- An occurrence behind a first character that begins no template. -/
theorem Occurrence.of_char {c : Char} {url before inner after : List Char}
    (hc : c = '\x7b' → readTemplate? url = none)
    (h : Occurrence (c :: url) before inner after) :
    ∃ rest, before = c :: rest ∧ Occurrence url rest inner after := by
  cases before with
  | nil =>
      obtain ⟨rfl, htext⟩ := List.cons.inj h.text
      rw [htext, readTemplate?_of_isInner h.isInner] at hc
      simp at hc
  | cons d before =>
      obtain ⟨rfl, htext⟩ := List.cons.inj h.text
      exact ⟨before, rfl, htext, h.isInner⟩

theorem Reading.cons_template {inner after : List Char} {segments : List Segment}
    (hinner : IsInner inner) (h : Reading after segments) :
    Reading ('\x7b' :: (inner ++ '\x7d' :: after)) (template inner :: segments) where
  text := by simp [h.text, Segment.text]
  sound := by
    intro inner' hmem
    rcases List.mem_cons.mp hmem with heq | hmem
    · obtain rfl := template.inj heq
      exact hinner
    · exact h.sound inner' hmem
  complete before inner' after' hoccurs := by
    rcases hoccurs.of_template hinner with ⟨rfl, rfl⟩ | ⟨rest, rfl, hrest⟩
    · exact ⟨[], segments, rfl, rfl⟩
    · obtain ⟨segs, tail, hsegments, htext⟩ := h.complete rest inner' after' hrest
      exact ⟨template inner :: segs, tail, by simp [hsegments], by simp [htext]⟩

theorem Reading.cons_char {c : Char} {url : List Char} {segments : List Segment}
    (hc : c = '\x7b' → readTemplate? url = none) (h : Reading url segments) :
    Reading (c :: url) (char c :: segments) where
  text := by simp [h.text, Segment.text]
  sound inner hmem := h.sound inner (by simpa using hmem)
  complete before inner after hoccurs := by
    obtain ⟨rest, rfl, hrest⟩ := hoccurs.of_char hc
    obtain ⟨segs, tail, hsegments, htext⟩ := h.complete rest inner after hrest
    exact ⟨char c :: segs, tail, by simp [hsegments], by simp [htext, Segment.text]⟩

theorem reading_segments (url : List Char) : Reading url (segments url) := by
  fun_induction segments url with
  | case1 =>
      refine ⟨rfl, by simp, ?_⟩
      intro before inner after h
      simpa using h.text
  | case2 rest inner after hread ih =>
      obtain ⟨rfl, hinner⟩ := eq_of_readTemplate? hread
      exact ih.cons_template hinner
  | case3 rest hread ih => exact ih.cons_char fun _ => hread
  | case4 c rest hc ih => exact ih.cons_char fun h => absurd h hc

/-- A URL has no other reading than the one from left to right. -/
theorem Reading.eq_segments {url : List Char} {read : List Segment} (h : Reading url read) :
    read = segments url := by
  induction read generalizing url with
  | nil =>
      rw [← h.text]
      simp [segments]
  | cons segment read ih =>
      have htail := ih h.tail
      have hurl : url = segment.text ++ read.flatMap Segment.text := by
        rw [← h.text, List.flatMap_cons]
      cases segment with
      | template inner =>
          have hinner := h.sound inner List.mem_cons_self
          rw [hurl, Segment.text, List.cons_append, List.append_assoc, List.singleton_append,
            segments_template hinner, ← htail]
      | char c =>
          rw [hurl, Segment.text, List.singleton_append, segments_char, ← htail]
          rintro rfl
          -- a template here would be an occurrence that the segments pass over
          rw [Option.eq_none_iff_forall_ne_some]
          rintro ⟨inner, after⟩ hread
          obtain ⟨htext, hinner⟩ := eq_of_readTemplate? hread
          have hoccurs : Occurrence url [] inner after := by
            refine ⟨?_, hinner⟩
            rw [hurl, htext]
            rfl
          obtain ⟨segs, rest, hsegments, hnil⟩ := h.complete [] inner after hoccurs
          rw [flatMap_text_eq_nil.mp hnil] at hsegments
          simp at hsegments

theorem reading_iff {url : List Char} {read : List Segment} :
    Reading url read ↔ read = segments url := by
  constructor
  · exact Reading.eq_segments
  · rintro rfl
    exact reading_segments url

/-! ### Substitution -/

@[simp] theorem expandAll_nil (path : Entries Json) : expandAll path [] = .ok [] := rfl

theorem expandAll_cons (path : Entries Json) (segment : Segment) (rest : List Segment) :
    expandAll path (segment :: rest) =
      (segment.expand path).bind fun text => (expandAll path rest).map (text ++ ·) := by
  rw [expandAll, List.mapM_cons, expandAll]
  cases segment.expand path with
  | error e => rfl
  | ok text => cases rest.mapM (Segment.expand path) <;> rfl

theorem expandAll_map_char_append (path : Entries Json) (before : List Char)
    (rest : List Segment) :
    expandAll path (before.map char ++ rest) = (expandAll path rest).map (before ++ ·) := by
  induction before with
  | nil =>
      rw [List.map_nil, List.nil_append]
      cases expandAll path rest <;> rfl
  | cons c before ih =>
      rw [List.map_cons, List.cons_append, expandAll_cons, ih]
      cases expandAll path rest <;> rfl

theorem expandAll_map_char (path : Entries Json) (chars : List Char) :
    expandAll path (chars.map char) = .ok chars := by
  have h := expandAll_map_char_append path chars []
  rw [List.append_nil] at h
  simp [h, Except.map]

/-- Without an opening brace a text has no templates. -/
theorem segments_of_not_mem {chars : List Char} (h : '\x7b' ∉ chars) :
    segments chars = chars.map char := by
  have happend := segments_append h []
  rwa [List.append_nil, segments, List.append_nil] at happend

theorem not_mem_of_ne {chars : List Char} (h : ∀ c ∈ chars, decide (c ≠ '\x7b') = true) :
    '\x7b' ∉ chars := by
  intro hmem
  simpa using h _ hmem

theorem not_mem_of_braceless {chars : List Char} (h : ∀ c ∈ chars, (!isBrace c) = true) :
    '\x7b' ∉ chars := by
  intro hmem
  simpa [isBrace] using h _ hmem

theorem segments_skip (brace : Char) {before inner after : List Char} (hbefore : '\x7b' ∉ before)
    (hinner : '\x7b' ∉ inner) (hread : readTemplate? (inner ++ after) = none) :
    segments (before ++ brace :: (inner ++ after)) =
      (before ++ brace :: inner).map char ++ segments after := by
  rw [segments_append hbefore, segments_char fun _ => hread, segments_append hinner]
  simp

/-- Substitution expands the segments of the URL. -/
theorem substituteChars_eq_expandAll (path : Entries Json) (url : List Char) :
    substituteChars path url = expandAll path (segments url) := by
  fun_induction substituteChars path url with
  | case1 url before hdrop =>
      -- nothing opens
      have hopen : ∀ c ∈ url, decide (c ≠ '\x7b') = true := List.dropWhile_eq_nil_iff.mp hdrop
      have hbefore : before = url := List.takeWhile_eq_self_iff.mpr hopen
      rw [segments_of_not_mem (not_mem_of_ne hopen), expandAll_map_char, hbefore]
  | case2 url brace rest hdrop hrest =>
      -- nothing behind the opening brace is a brace
      obtain ⟨hurl, hbefore, -⟩ := eq_of_dropWhile_eq_cons hdrop
      have hread : readTemplate? (rest ++ []) = none := by simp [readTemplate?, hrest]
      have hopen := not_mem_of_braceless (List.dropWhile_eq_nil_iff.mp hrest)
      have hsegments := segments_skip brace (not_mem_of_ne hbefore) hopen hread
      rw [List.append_nil, ← hurl] at hsegments
      rw [hsegments, segments, List.append_nil, expandAll_map_char]
  | case3 url before brace rest hdrop inner close after hrest hclose ih =>
      -- another brace opens, or nothing is enclosed: reading goes on at the second brace
      obtain ⟨hurl, hbefore, -⟩ := eq_of_dropWhile_eq_cons hdrop
      obtain ⟨htail, hinner, -⟩ := eq_of_dropWhile_eq_cons hrest
      have hread : readTemplate? rest = none := by
        rw [readTemplate?, hrest]
        exact if_pos hclose
      rw [htail] at hread hurl
      have hsegments := segments_skip brace (not_mem_of_ne hbefore)
        (not_mem_of_braceless hinner) hread
      rw [← hurl] at hsegments
      rw [hsegments, expandAll_map_char_append, ih]
      cases expandAll path (segments (close :: after)) <;> simp [before, inner, Except.map]
  | case4 url before brace rest hdrop inner close after hrest hclose ih =>
      -- a template: reading goes on behind it, and what was inserted is not read
      obtain ⟨hurl, hbefore, hbrace⟩ := eq_of_dropWhile_eq_cons hdrop
      obtain ⟨htail, hinner, -⟩ := eq_of_dropWhile_eq_cons hrest
      have hread : readTemplate? rest = some (inner, after) := by
        rw [readTemplate?, hrest]
        exact if_neg hclose
      obtain ⟨htext, hisInner⟩ := eq_of_readTemplate? hread
      have hbrace : brace = '\x7b' := by simpa using hbrace
      have hclose' : close = '\x7d' := by
        rw [htail] at htext
        exact (List.cons.inj (List.append_cancel_left htext)).1
      have hurl' : url = before ++ '\x7b' :: (inner ++ '\x7d' :: after) := by
        rw [← htext, ← hbrace]
        exact hurl
      have hsegments : segments url = before.map char ++ template inner :: segments after := by
        rw [hurl', segments_append (not_mem_of_ne hbefore), segments_template hisInner]
      rw [hsegments, expandAll_map_char_append, expandAll_cons, Segment.expand, ih, hbrace, hclose']
      cases (Template.parse inner).expand path with
      | error e => rfl
      | ok value =>
          cases expandAll path (segments after) <;>
            simp [bind, Except.bind, Except.map, pure, Except.pure, Segment.text]

/-- Text before the first opening brace is kept. -/
theorem substituteChars_append {before : List Char} (h : '\x7b' ∉ before) (path : Entries Json)
    (rest : List Char) :
    substituteChars path (before ++ rest) = (substituteChars path rest).map (before ++ ·) := by
  rw [substituteChars_eq_expandAll, substituteChars_eq_expandAll, segments_append h,
    expandAll_map_char_append]

theorem substituteChars_template {inner : List Char} (h : IsInner inner) (path : Entries Json)
    (rest : List Char) :
    substituteChars path ('\x7b' :: (inner ++ '\x7d' :: rest)) =
      ((template inner).expand path).bind fun text =>
        (substituteChars path rest).map (text ++ ·) := by
  rw [substituteChars_eq_expandAll, substituteChars_eq_expandAll, segments_template h,
    expandAll_cons]

/-! ### Faults -/

theorem occurrence_iff {url before inner after : List Char} :
    Occurrence url before inner after ↔
      ∃ segs rest, segments url = segs ++ template inner :: rest ∧
        segs.flatMap Segment.text = before ∧ rest.flatMap Segment.text = after := by
  have hreading := reading_segments url
  constructor
  · intro h
    obtain ⟨segs, rest, hsegments, htext⟩ := hreading.complete before inner after h
    refine ⟨segs, rest, hsegments, htext, ?_⟩
    have hurl := hreading.text
    rw [hsegments, h.text, List.flatMap_append, htext, List.flatMap_cons] at hurl
    simpa [Segment.text] using List.append_cancel_left hurl
  · rintro ⟨segs, rest, hsegments, rfl, rfl⟩
    refine ⟨?_, hreading.sound inner (by simp [hsegments])⟩
    rw [← hreading.text, hsegments]
    simp [Segment.text]

theorem template_mem_segments_iff {url inner : List Char} :
    template inner ∈ segments url ↔ ∃ before after, Occurrence url before inner after := by
  constructor
  · intro hmem
    obtain ⟨segs, rest, hsegments⟩ := List.append_of_mem hmem
    exact ⟨_, _, occurrence_iff.mpr ⟨segs, rest, hsegments, rfl, rfl⟩⟩
  · rintro ⟨before, after, hoccurs⟩
    obtain ⟨segs, rest, hsegments, -, -⟩ := occurrence_iff.mp hoccurs
    rw [hsegments]
    exact List.mem_append_right segs List.mem_cons_self

/-- The fault of the first template that cannot be replaced. -/
def FirstFault (path : Entries Json) (url : List Char) (e : NestedParameter) : Prop :=
  ∃ before inner after, Occurrence url before inner after ∧
    (Template.parse inner).expand path = .error e ∧
    ∀ before' inner' after', Occurrence url before' inner' after' →
      before'.length < before.length → ∃ value, (Template.parse inner').expand path = .ok value

theorem expand_eq_error {path : Entries Json} {inner : List Char} {e : NestedParameter} :
    (template inner).expand path = .error e ↔ (Template.parse inner).expand path = .error e := by
  rw [Segment.expand]
  cases (Template.parse inner).expand path <;> simp [Except.map]

theorem expand_eq_ok {path : Entries Json} {inner : List Char} :
    (∃ text, (template inner).expand path = .ok text) ↔
      ∃ value, (Template.parse inner).expand path = .ok value := by
  rw [Segment.expand]
  cases (Template.parse inner).expand path <;> simp [Except.map]

theorem expandAll_eq_error {path : Entries Json} {segs : List Segment} {e : NestedParameter} :
    expandAll path segs = .error e ↔
      ∃ before inner rest, segs = before ++ template inner :: rest ∧
        (template inner).expand path = .error e ∧
        ∀ segment ∈ before, ∃ text, segment.expand path = .ok text := by
  have hmap : expandAll path segs = .error e ↔ segs.mapM (Segment.expand path) = .error e := by
    rw [expandAll]
    cases segs.mapM (Segment.expand path) <;> simp [Except.map]
  rw [hmap, mapM_eq_error_iff]
  constructor
  · rintro ⟨before, segment, rest, hsegs, herror, hbefore⟩
    cases segment with
    | char c => simp [Segment.expand] at herror
    | template inner => exact ⟨before, inner, rest, hsegs, herror, hbefore⟩
  · rintro ⟨before, inner, rest, hsegs, herror, hbefore⟩
    exact ⟨before, template inner, rest, hsegs, herror, hbefore⟩

theorem substituteChars_eq_error {path : Entries Json} {url : List Char} {e : NestedParameter} :
    substituteChars path url = .error e ↔ FirstFault path url e := by
  rw [substituteChars_eq_expandAll, expandAll_eq_error]
  constructor
  · rintro ⟨segs, inner, rest, hsegments, herror, hbefore⟩
    refine ⟨_, inner, _, occurrence_iff.mpr ⟨segs, rest, hsegments, rfl, rfl⟩,
      expand_eq_error.mp herror, ?_⟩
    intro before' inner' after' hoccurs hlength
    obtain ⟨segs', rest', hsegments', rfl, -⟩ := occurrence_iff.mp hoccurs
    apply expand_eq_ok.mp
    apply hbefore
    rw [hsegments] at hsegments'
    rcases List.append_eq_append_iff.mp hsegments' with ⟨mid, rfl, -⟩ | ⟨mid, rfl, hmid⟩
    · rw [List.flatMap_append, List.length_append] at hlength
      omega
    · cases mid with
      | nil => simp at hlength
      | cons first mid =>
          obtain ⟨rfl, -⟩ := List.cons.inj hmid
          simp
  · rintro ⟨before, inner, after, hoccurs, herror, hearlier⟩
    obtain ⟨segs, rest, hsegments, rfl, -⟩ := occurrence_iff.mp hoccurs
    refine ⟨segs, inner, rest, hsegments, expand_eq_error.mpr herror, ?_⟩
    intro segment hsegment
    cases segment with
    | char c => exact ⟨[c], rfl⟩
    | template inner' =>
        obtain ⟨segs', mid, rfl⟩ := List.append_of_mem hsegment
        refine expand_eq_ok.mpr (hearlier (segs'.flatMap Segment.text) inner' _
          (occurrence_iff.mpr ⟨segs', mid ++ template inner :: rest, by simp [hsegments], rfl, rfl⟩)
          ?_)
        simp [Segment.text]

/-! ### Templates without a value -/

/-- No value belongs to a name. -/
def IsAbsent (path : Entries Json) (name : String) : Prop :=
  Entries.find? name path = none ∨ Entries.find? name path = some .null

theorem expand_eq_none_iff {t : Template} {path : Entries Json} :
    t.expand path = .ok none ↔ IsAbsent path t.name := by
  unfold Template.expand IsAbsent
  cases hvalue : Entries.find? t.name path with
  | none => simp
  | some v =>
      cases v with
      | null => simp
      | array items =>
          cases h : t.style.array t.explode false t.name items <;> simp [h, Functor.map, Except.map]
      | object entries =>
          cases h : t.style.object t.explode false t.name entries <;>
            simp [h, Functor.map, Except.map]
      | bool | number | string =>
          simp [elementText, Json.scalarText?, bind, Except.bind, pure, Except.pure]

theorem substituteChars_of_absent {path : Entries Json} {url : List Char}
    (h : ∀ before inner after, Occurrence url before inner after →
      IsAbsent path (Template.parse inner).name) :
    substituteChars path url = .ok url := by
  have hexpand : ∀ segment ∈ segments url, segment.expand path = .ok segment.text := by
    intro segment hsegment
    cases segment with
    | char c => rfl
    | template inner =>
        obtain ⟨before, after, hoccurs⟩ := template_mem_segments_iff.mp hsegment
        rw [Segment.expand, expand_eq_none_iff.mpr (h before inner after hoccurs)]
        rfl
  rw [substituteChars_eq_expandAll, expandAll, mapM_eq_ok hexpand]
  have htext := (reading_segments url).text
  rw [List.flatMap_def] at htext
  rw [Except.map, htext]

theorem substitute_nil (url : String) : substitute [] url = .ok url := by
  rw [substitute, substituteChars_of_absent fun _ _ _ _ => .inl rfl]
  simp [Functor.map, Except.map]

/-- A URL has exactly one reading, and substitution replaces each of its templates on its own. It
fails with the fault of the first template that cannot be replaced. Templates without a value are
left as they stand, so that a URL without others comes back unchanged, and `buildUrl` may leave out
substitution for an empty path. -/
theorem substitute_replaces_templates (path : Entries Json) (url : String) :
    ∃ segments, (∀ read, Reading url.toList read ↔ read = segments) ∧
      substitute path url = (expandAll path segments).map String.ofList ∧
      (∀ e, substitute path url = .error e ↔ FirstFault path url.toList e) ∧
      (∀ inner, (Template.parse inner).expand path = .ok none ↔
        IsAbsent path (Template.parse inner).name) ∧
      ((∀ before inner after, Occurrence url.toList before inner after →
        IsAbsent path (Template.parse inner).name) → substitute path url = .ok url) ∧
      ∀ base query serializer, Request.buildUrl base url path query serializer = do
        let full ← substitute path (Request.joinUrl base url)
        if query.isEmpty then return full
        return Request.appendSearch full (← serializer query) := by
  have hchars := substituteChars_eq_expandAll path url.toList
  refine ⟨segments url.toList, fun read => reading_iff, ?_, ?_, fun inner => expand_eq_none_iff,
    ?_, ?_⟩
  · rw [substitute, hchars]
    rfl
  · intro e
    rw [← substituteChars_eq_error, substitute]
    cases substituteChars path url.toList <;> simp [Functor.map, Except.map]
  · intro habsent
    rw [substitute, substituteChars_of_absent habsent]
    simp [Functor.map, Except.map]
  · intro base query serializer
    unfold Request.buildUrl
    cases path with
    | nil =>
        rw [substitute_nil]
        rfl
    | cons entry path => rfl

end ApiClient.Parameter
