import ApiClient.Proofs.Code.DocComment
import ApiClient.Proofs.Lists
import ApiClient.Proofs.Service.Paragraphs

/-!
Which lines of documentation are one line. Those of free text have no line feed, and a carriage
return only where one stands within a line of the text; the route has those that its path has. A line
without either is emitted as one comment that reads back, and any other line is not.
-/

namespace ApiClient.Service

open Code Layout

/-- A text has a carriage return with something other than white space behind it in the same line. -/
def HasInnerReturn (text : String) : Prop :=
  ∃ after, '\r' :: after <:+ Documentation.unescapeLineFeeds text.toList ∧
    ∃ c ∈ after.takeWhile (· ≠ '\n'), isWhiteSpace c = false

namespace Documentation

/-- A character stands in one of the lines. -/
def Contains (d : Documentation) (c : Char) : Prop := ∃ line ∈ d.lines, c ∈ line.toList

/-- A line is laid out as one comment, and that comment is read as what documents the line. -/
structure IsLineComment (line : String) : Prop where
  layout : docPieces? false (lineText line) =
    some (text "///" ++ text (lineText line) ++ hardBreak)
  reading : Token.ofText? ("///" ++ lineText line ++ "\n") = some (tokens ⟨[line]⟩)

/-! ### Characters of lines -/

theorem not_contains_empty (c : Char) : ¬ empty.Contains c := by simp [Contains, empty]

theorem contains_pushParagraph {d p : Documentation} {c : Char} :
    (d.pushParagraph p).Contains c ↔ d.Contains c ∨ p.Contains c := by
  by_cases hd : d = empty
  · rw [hd, empty_pushParagraph, or_iff_right (not_contains_empty c)]
  by_cases hp : p = empty
  · rw [hp, pushParagraph_empty, or_iff_left (not_contains_empty c)]
  rw [pushParagraph_of_ne hd hp]
  simp [Contains, or_and_right, exists_or]

/-- The piece that is no line, behind a line feed at the end, has no characters. -/
theorem exists_mem_splitLines_iff {q : List Char → Prop} (hq : ¬ q []) (cs : List Char) :
    (∃ l ∈ splitLines cs, q l) ↔ ∃ l ∈ cs.splitOn '\n', q l := by
  rw [splitLines]
  split
  case isTrue hlast =>
    obtain ⟨ls, hls⟩ := List.getLast?_eq_some_iff.mp (eq_of_beq hlast)
    simp [hls, or_and_right, exists_or, hq]
  case isFalse => rfl

theorem contains_ofText_iff {content : String} {c : Char} :
    (ofText content).Contains c ↔
      ∃ l ∈ (unescapeLineFeeds content.toList).splitOn '\n', c ∈ trimEnd l := by
  rw [← exists_mem_splitLines_iff (q := fun l => c ∈ trimEnd l) (by simp [trimEnd])]
  simp [Contains, ofText]

theorem not_contains_lineFeed (content : String) : ¬ (ofText content).Contains '\n' := by
  rw [contains_ofText_iff]
  rintro ⟨l, hl, hfeed⟩
  exact not_mem_of_mem_splitOn hl ((List.rdropWhile_prefix isWhiteSpace l).subset hfeed)

theorem contains_return_iff {content : String} :
    (ofText content).Contains '\r' ↔ HasInnerReturn content := by
  have htrim : ∀ l, '\r' ∈ trimEnd l ↔
      ∃ after, '\r' :: after <:+ l ∧ ∃ c ∈ after, isWhiteSpace c = false := by
    intro l
    have hreturn : isWhiteSpace '\r' = true := rfl
    rw [trimEnd, ← List.rdropWhile, mem_rdropWhile_iff]
    simp [hreturn]
  rw [contains_ofText_iff]
  simp only [htrim]
  exact exists_suffix_splitOn_iff (by decide)
    (fun after => ∃ c ∈ after, isWhiteSpace c = false) _

theorem contains_ofOption_iff {content : Option String} {c : Char} :
    (ofOption content).Contains c ↔ ∃ s, content = some s ∧ (ofText s).Contains c := by
  cases content with
  | none => simpa [ofOption] using not_contains_empty c
  | some s => simp [ofOption]

/-! ### Comments -/

theorem mem_lineText_iff {line : String} {c : Char} (hc : c ≠ ' ') :
    c ∈ (lineText line).toList ↔ c ∈ line.toList := by
  rw [lineText]
  split
  case isTrue hline => simp [String.isEmpty_iff.mp hline]
  case isFalse => simp [hc]

theorem head?_lineText_ne (line : String) : (lineText line).toList.head? ≠ some '/' := by
  rw [lineText]
  split <;> simp

theorem getLast?_lineText (line : String) :
    (lineText line).toList.getLast? = line.toList.getLast? := by
  rw [lineText]
  split
  case isTrue hline => rw [String.isEmpty_iff.mp hline]
  case isFalse hline =>
    have hchars : line.toList ≠ [] := by simpa using hline
    rw [String.toList_append, List.getLast?_append]
    cases hlast : line.toList.getLast? with
    | none => exact absurd (List.getLast?_eq_none_iff.mp hlast) hchars
    | some c => rfl

/-- A line does not end with white space. -/
def IsTrimmed (line : String) : Prop :=
  ∀ c, line.toList.getLast? = some c → isWhiteSpace c = false

theorem IsTrimmed.getLast?_lineText_ne {line : String} (h : IsTrimmed line) {c : Char}
    (hc : isWhiteSpace c = true) : (lineText line).toList.getLast? ≠ some c := by
  intro hlast
  rw [getLast?_lineText] at hlast
  rw [h c hlast] at hc
  cases hc

theorem IsTrimmed.dropTrailingSpaces_lineText {line : String} (h : IsTrimmed line) :
    dropTrailingSpaces (lineText line).toList = (lineText line).toList := by
  rw [dropTrailingSpaces, ← List.rdropWhile, List.rdropWhile_eq_self_iff]
  intro hne hspace
  refine h.getLast?_lineText_ne (c := ' ') rfl ?_
  rw [List.getLast?_eq_some_getLast hne, eq_of_beq hspace]

theorem tokens_singleton (line : String) :
    tokens ⟨[line]⟩ = Lexer.docTokens (lineText line).toList false := by
  rw [Lexer.docTokens, String.ofList_toList]
  rfl

theorem IsTrimmed.docPieces?_eq_iff {line : String} (h : IsTrimmed line) :
    docPieces? false (lineText line) = some (text "///" ++ text (lineText line) ++ hardBreak) ↔
      '\n' ∉ line.toList := by
  rw [← mem_lineText_iff (by decide), docPieces?]
  have hhead : ((lineText line).toList.head? == some '/') = false :=
    beq_false_of_ne (head?_lineText_ne line)
  by_cases hfeed : '\n' ∈ (lineText line).toList
  · refine iff_of_false ?_ (not_not_intro hfeed)
    -- a comment of several lines begins with another mark, where there is one
    simp only [hfeed, List.contains_eq_mem, decide_true, Bool.not_true, Bool.false_and,
      Bool.false_eq_true, if_false]
    split
    case isTrue => simp [text]
    case isFalse => simp
  · simp [hfeed, hhead, h.dropTrailingSpaces_lineText, text]

theorem IsTrimmed.isLineComment_iff {line : String} (h : IsTrimmed line) :
    IsLineComment line ↔ '\n' ∉ line.toList ∧ '\r' ∉ line.toList := by
  have hreading (hfeed : '\n' ∉ line.toList) :
      Token.ofText? ("///" ++ lineText line ++ "\n") = some (tokens ⟨[line]⟩) ↔
        '\r' ∉ line.toList := by
    rw [← mem_lineText_iff (by decide)] at hfeed
    rw [ofText?_comment (head?_lineText_ne line) hfeed (h.getLast?_lineText_ne rfl),
      tokens_singleton, ← mem_lineText_iff (by decide), ← Lexer.noBareReturn_iff hfeed]
    split <;> simp_all
  constructor
  · rintro ⟨hlayout, hread⟩
    have hfeed := h.docPieces?_eq_iff.mp hlayout
    exact ⟨hfeed, (hreading hfeed).mp hread⟩
  · rintro ⟨hfeed, hreturn⟩
    exact ⟨h.docPieces?_eq_iff.mpr hfeed, (hreading hfeed).mpr hreturn⟩

/-! ### Trimmed lines -/

theorem isTrimmed_of_mem_ofText {content line : String} (h : line ∈ (ofText content).lines) :
    IsTrimmed line := by
  obtain ⟨l, -, rfl⟩ := List.mem_map.mp h
  intro c hlast
  rw [String.toList_ofList, trimEnd, ← List.rdropWhile] at hlast
  have hne : l.rdropWhile isWhiteSpace ≠ [] := by
    intro hnil
    rw [hnil] at hlast
    cases hlast
  rw [List.getLast?_eq_some_getLast hne, Option.some.injEq] at hlast
  rw [← hlast]
  simpa using List.rdropWhile_last_not isWhiteSpace l hne

theorem isTrimmed_empty : IsTrimmed "" := by
  intro c hlast
  cases hlast

theorem isTrimmed_pushParagraph {d p : Documentation} (hd : ∀ line ∈ d.lines, IsTrimmed line)
    (hp : ∀ line ∈ p.lines, IsTrimmed line) :
    ∀ line ∈ (d.pushParagraph p).lines, IsTrimmed line := by
  by_cases hd' : d = empty
  · rwa [hd', empty_pushParagraph]
  by_cases hp' : p = empty
  · rwa [hp', pushParagraph_empty]
  rw [pushParagraph_of_ne hd' hp']
  simp only [List.forall_mem_append, List.forall_mem_singleton]
  exact ⟨⟨hd, isTrimmed_empty⟩, hp⟩

theorem isTrimmed_of_mem_ofOption {content : Option String} {line : String}
    (h : line ∈ (ofOption content).lines) : IsTrimmed line := by
  cases content with
  | none => cases h
  | some s => exact isTrimmed_of_mem_ofText h

end Documentation

/-! ### Operations -/

namespace Operation

open Documentation

theorem toList_route (o : Operation) :
    o.route.toList = '`' :: (o.method.name.toList ++ ' ' :: o.path.toList) ++ ['`'] := by
  have htext (s : String) : toString s = s := rfl
  simp [route, htext]

theorem isTrimmed_of_mem_documentation {o : Operation} {line : String}
    (h : line ∈ o.documentation.lines) : IsTrimmed line := by
  refine isTrimmed_pushParagraph (isTrimmed_pushParagraph (fun _ => isTrimmed_of_mem_ofOption)
    fun _ => isTrimmed_of_mem_ofOption) ?_ line h
  intro line hline c hlast
  rw [List.mem_singleton.mp hline, toList_route, List.getLast?_concat] at hlast
  rw [← Option.some.inj hlast]
  rfl

theorem contains_documentation_iff {o : Operation} {c : Char} :
    o.documentation.Contains c ↔ (∃ s, (o.summary = some s ∨ o.description = some s) ∧
      (ofText s).Contains c) ∨ c ∈ o.route.toList := by
  have hroute : (⟨[o.route]⟩ : Documentation).Contains c ↔ c ∈ o.route.toList := by
    simp [Contains]
  rw [documentation, contains_pushParagraph, contains_pushParagraph, contains_ofOption_iff,
    contains_ofOption_iff, hroute]
  simp only [or_and_right, exists_or]

/-- Methods are words of token characters, so whatever else the route has is in its path. -/
theorem mem_route_iff {o : Operation} (hmethod : Method.parse? o.method.name = some o.method)
    {c : Char} (hc : isTokenChar c = false) (htick : c ≠ '`') (hspace : c ≠ ' ') :
    c ∈ o.route.toList ↔ c ∈ o.path.toList := by
  have hname : c ∉ o.method.name.toList := by
    intro hmem
    rw [Method.parse?] at hmethod
    split at hmethod
    case isTrue hname =>
      rw [Bool.and_eq_true, List.all_eq_true] at hname
      rw [hname.2 c hmem] at hc
      cases hc
    case isFalse => cases hmethod
  simp [toList_route, hname, htick, hspace]

/-- A line of documentation has a line feed only where the path has one, and a carriage return only
where the path has one or a summary or description has one within a line. All other lines, and no
others, are one comment each that is read as the line. -/
theorem documentation_breaks_iff {o : Operation}
    (hmethod : Method.parse? o.method.name = some o.method) :
    (o.documentation.Contains '\n' ↔ '\n' ∈ o.path.toList) ∧
    (o.documentation.Contains '\r' ↔ '\r' ∈ o.path.toList ∨
      ∃ s, (o.summary = some s ∨ o.description = some s) ∧ HasInnerReturn s) ∧
    ∀ line ∈ o.documentation.lines,
      IsLineComment line ↔ '\n' ∉ line.toList ∧ '\r' ∉ line.toList := by
  refine ⟨?_, ?_, fun line hline => (isTrimmed_of_mem_documentation hline).isLineComment_iff⟩
  · rw [contains_documentation_iff, mem_route_iff hmethod rfl (by decide) (by decide)]
    simp only [not_contains_lineFeed, and_false, exists_false, false_or]
  · rw [contains_documentation_iff, mem_route_iff hmethod rfl (by decide) (by decide), or_comm]
    simp only [contains_return_iff]

/-- The path has a line feed, and the summary has a carriage return within its second line. -/
def torn : Operation := ⟨"torn", .get, "/a\nb", some "one\r\ntwo\rthree", none, none, none, none⟩

theorem documentation_breaks_iff_torn :
    Method.parse? torn.method.name = some torn.method ∧
      torn.documentation.lines = ["one", "two\rthree", "", "`GET /a\nb`"] ∧
      torn.documentation.Contains '\n' ∧ torn.documentation.Contains '\r' ∧
      IsLineComment "one" ∧ ¬ IsLineComment "two\rthree" ∧ ¬ IsLineComment "`GET /a\nb`" := by
  have hmethod : Method.parse? torn.method.name = some torn.method := by decide
  have hlines : torn.documentation.lines = ["one", "two\rthree", "", "`GET /a\nb`"] := by
    decide +kernel
  obtain ⟨hfeed, hreturn, hcomment⟩ := documentation_breaks_iff hmethod
  have hinner : HasInnerReturn "one\r\ntwo\rthree" :=
    ⟨"three".toList, by decide, 't', by decide, by decide⟩
  rw [hlines] at hcomment
  refine ⟨hmethod, hlines, hfeed.mpr (by decide), hreturn.mpr (.inr ⟨_, .inl rfl, hinner⟩),
    (hcomment _ (by simp)).mpr (by decide), mt (hcomment _ (by simp)).mp (by decide),
    mt (hcomment _ (by simp)).mp (by decide)⟩

end Operation

end ApiClient.Service
