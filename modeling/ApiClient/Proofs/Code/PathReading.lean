import ApiClient.Proofs.Code.Parsing

/-!
Paths as the rules of types read them: words, and words with arguments in angle brackets or in
parentheses, in front of what belongs to no path.
-/

namespace ApiClient.Code

open ApiClient.Code.Parser Grammar

/-! ### What is not there -/

theorem keywordIf_eq_false {w : String} {ts : List Token} (h : isWordToken w ts = false) :
    keywordIf w ts = some (false, ts) :=
  bind_step rfl (else_step h rfl)

theorem opIf_eq_false {s : String} {ts : List Token} (h : isOp s ts = false) :
    opIf s ts = some (false, ts) :=
  bind_step rfl (else_step h rfl)

/-! ### Words -/

theorem isWordToken_word (w name : String) (ts : List Token) :
    isWordToken w (word name ++ ts) = (name == w) := rfl

theorem isOneOf_word {name : String} {words : List String} (h : name ∈ words) (ts : List Token) :
    isOneOf words (word name ++ ts) = true := by
  rw [isOneOf, List.any_eq_true]
  exact ⟨name, h, beq_self_eq_true name⟩

theorem isOneOf_eq_false {name : String} {words : List String} (h : name ∉ words)
    (ts : List Token) : isOneOf words (word name ++ ts) = false := by
  rw [isOneOf, List.any_eq_false]
  intro w hw
  rw [isWordToken_word, beq_iff_eq]
  rintro rfl
  exact h hw

theorem not_mem_of_not_reserved {name : String} {words : List String} (h : name ∉ reservedWords)
    (hwords : words ⊆ reservedWords) : name ∉ words := fun hmem => h (hwords hmem)

/-- A name that may stand in a path: an identifier, or a word for a scope. -/
def IsPathWord (name : String) : Prop := name ∉ reservedWords ∨ name ∈ ["super", "self", "crate"]

theorem isPathWord_iff {name : String} : IsPathWord name ↔
    (!reservedWords.contains name || ["super", "self", "crate"].contains name) = true := by
  simp [IsPathWord]

theorem IsPathWord.not_mem {name : String} (h : IsPathWord name) {words : List String}
    (hwords : words ⊆ reservedWords) (hscope : ∀ w ∈ words, w ∉ ["super", "self", "crate"]) :
    name ∉ words :=
  fun hmem => h.elim (fun hname => hname (hwords hmem)) (hscope name hmem)

theorem startsPlainPath_of_isPathWord {name : String} (h : IsPathWord name) (ts : List Token) :
    startsPlainPath (word name ++ ts) = true := by
  rcases h with hname | hscope
  · simp [startsPlainPath, isIdentToken_word hname]
  · have hword : isScopeWord (word name ++ ts) = true := by
      refine isOneOf_word ?_ ts
      simp only [List.mem_cons, List.not_mem_nil, or_false] at hscope ⊢
      tauto
    simp [startsPlainPath, hword]

/-! ### Segments -/

/-- What is no part of a segment in front of it. -/
structure EndsSegment (ts : List Token) : Prop where
  angle : isOp "<" ts = false
  turbofish : (isOp "::" ts && isOp "<" (ts.drop 2)) = false

def Segment.name : Segment → String
  | .mk name _ => name

/-- A segment that is read as another one wherever it ends. -/
structure Segment.ReadsAs (g : Grammar) (s s' : Segment) : Prop where
  word : IsPathWord s.name
  reads {ts : List Token} : EndsSegment ts → segment g false (s.tokens ++ ts) = some (s', ts)

theorem identOr_word {name : String} (h : name ∉ reservedWords) (words : List String)
    (ts : List Token) : identOr words (word name ++ ts) = some (name, ts) :=
  bind_step rfl (guardThat_step (by rw [isIdentToken_word h, Bool.true_or]) rfl)

theorem Segment.readsAs_bare (g : Grammar) {name : String} (h : IsPathWord name) :
    ReadsAs g (.mk name .none) (.mk name .none) := by
  refine ⟨h, fun {ts} hts => ?_⟩
  have hangle : isOpeningAngle ts = false := by simp [isOpeningAngle, hts.angle]
  have htokens : (Segment.mk name .none).tokens ++ ts = word name ++ ts := by
    simp [Segment.tokens, SegmentArgs.tokens]
  rw [htokens, Grammar.segment]
  refine bind_step rfl ?_
  rcases h with hname | hscope
  · refine else_step (isOneOf_eq_false (not_mem_of_not_reserved hname (by decide)) ts) ?_
    refine bind_step (identOr_word hname _ ts) (bind_step rfl (else_step ?_ rfl))
    rw [hangle, hts.turbofish]
    rfl
  · have hword : isOneOf ["super", "self", "crate", "try"] (word name ++ ts) = true :=
      isOneOf_word (List.mem_append_left ["try"] hscope) ts
    rw [hword, if_pos rfl]
    exact bind_step rfl rfl

/-- What opens the arguments of a segment. -/
def opensArgs (ts : List Token) : Bool :=
  isOpeningAngle ts || (isOp "::" ts && isOp "<" (ts.drop 2))

theorem Segment.readsAs_angle {g : Grammar} {name : String} (h : name ∉ reservedWords)
    {args args' : SegmentArgs} (hopens : ∀ ts, opensArgs (args.tokens ++ ts) = true)
    (hargs : ∀ ts, angleArgs g (args.tokens ++ ts) = some (args', ts)) :
    ReadsAs g (.mk name args) (.mk name args') := by
  refine ⟨.inl h, fun {ts} _ => ?_⟩
  rw [Segment.tokens, List.append_assoc, Grammar.segment]
  refine bind_step rfl (else_step (isOneOf_eq_false (not_mem_of_not_reserved h (by decide)) _) ?_)
  exact bind_step (identOr_word h _ _)
    (bind_step rfl (then_step (hopens ts) (bind_step (hargs ts) rfl)))

/-! ### Paths -/

theorem separated_cons (sep : List Token) (part : List Token) (parts : List (List Token)) :
    separated sep false (part :: parts) = part ++ (parts.map (sep ++ ·)).flatten := by
  induction parts generalizing part with
  | nil => simp [separated]
  | cons next parts ih =>
      rw [separated, ih, List.map_cons, List.flatten_cons, List.append_assoc, List.append_assoc]
      exact List.cons_ne_nil _ _

theorem segmentList_eq_map (segments : List Segment) :
    segmentList segments = segments.map Segment.tokens := by
  induction segments with
  | nil => rw [segmentList, List.map_nil]
  | cons s segments ih => rw [segmentList, ih, List.map_cons]

/-- What is no part of a path in front of it. -/
structure EndsPath (ts : List Token) : Prop where
  angle : isOp "<" ts = false
  path : isOp "::" ts = false

/-- What is no part of a type in front of it, where a sum may stand or not. -/
structure EndsType (allowPlus : Bool) (ts : List Token) : Prop extends EndsPath ts where
  paren : isParen ts = false
  bang : isOp "!" ts = false
  arrow : isOp "->" ts = false
  plus : (isOp "+" ts && allowPlus) = false

theorem EndsPath.endsSegment {ts : List Token} (h : EndsPath ts) : EndsSegment ts :=
  ⟨h.angle, by rw [h.path, Bool.false_and]⟩

/-- Where sums are not read a plus sign may follow. -/
theorem EndsType.noPlus {allowPlus : Bool} {ts : List Token} (h : EndsType allowPlus ts) :
    EndsType false ts :=
  { h with plus := Bool.and_false _ }

theorem EndsType.startsParenArgs {allowPlus : Bool} {ts : List Token} (h : EndsType allowPlus ts) :
    startsParenArgs ts = false := by
  rw [Grammar.startsParenArgs, h.paren, h.path]
  rfl

theorem endsSegment_sym (s : Segment) (ts : List Token) :
    EndsSegment (sym "::" ++ (s.tokens ++ ts)) := by
  cases s
  rw [Segment.tokens, List.append_assoc]
  exact ⟨rfl, rfl⟩

section

variable {g : Grammar} {rooted : Bool} {segments segments' : List Segment} {ts : List Token}

/-- Segments behind each other, up to where no more of them follow. -/
theorem moreSegments_of_readsAs (h : List.Forall₂ (Segment.ReadsAs g) segments segments')
    (more : List Token → Bool) (hmore : ∀ name ts, more (sym "::" ++ (word name ++ ts)) = true)
    (hend : more ts = false) (hts : EndsPath ts) :
    moreSegments g false more ((segments.map fun s => sym "::" ++ s.tokens).flatten ++ ts) =
      some (segments', ts) := by
  refine manyWhile_flatten EndsSegment hend hts.endsSegment ?_
  rw [List.forall₂_map_left_iff]
  refine h.imp fun s s' hs => ⟨fun _ => ?_, fun _ => ?_, fun hfollows => ?_⟩
  · cases s
    rw [Segment.tokens, List.append_assoc, List.append_assoc]
    exact hmore _ _
  · rw [List.append_assoc]
    exact endsSegment_sym s _
  · rw [List.append_assoc]
    exact bind_step rfl (hs.reads hfollows)

/-- The first of some segments, in front of the others. -/
theorem endsSegment_flatten (segments : List Segment) (hts : EndsPath ts) :
    EndsSegment ((segments.map fun s => sym "::" ++ s.tokens).flatten ++ ts) := by
  cases segments with
  | nil => exact hts.endsSegment
  | cons s segments =>
      rw [List.map_cons, List.flatten_cons, List.append_assoc, List.append_assoc]
      exact endsSegment_sym s _

theorem separated_segments (first : Segment) (segments : List Segment) (ts : List Token) :
    separated (sym "::") false (segmentList (first :: segments)) ++ ts =
      first.tokens ++ ((segments.map fun s => sym "::" ++ s.tokens).flatten ++ ts) := by
  rw [segmentList_eq_map, List.map_cons, separated_cons, List.map_map, List.append_assoc]
  rfl

/-- A plain path reads as one of the segments that its segments read as. -/
theorem plain_of_readsAs (rooted : Bool) (h : List.Forall₂ (Segment.ReadsAs g) segments segments')
    (hne : segments ≠ []) (hts : EndsPath ts) :
    plain g false ((Path.plain rooted segments).tokens ++ ts) =
      some (.plain rooted segments', ts) := by
  cases h with
  | nil => exact absurd rfl hne
  | @cons first first' segments segments' hfirst hall =>
      have hmore := moreSegments_of_readsAs hall pathGoesOn (fun _ _ => rfl)
        (by rw [pathGoesOn, hts.path, Bool.false_and]) hts
      have hrooted : opIf "::" ((Path.plain rooted (first :: segments)).tokens ++ ts) =
          some (rooted, first.tokens ++
            ((segments.map fun s => sym "::" ++ s.tokens).flatten ++ ts)) := by
        rw [Path.tokens, List.append_assoc, separated_segments]
        cases rooted
        · cases first
          rw [Segment.tokens, List.append_assoc]
          rfl
        · rfl
      exact bind_step hrooted
        (bind_step (hfirst.reads (endsSegment_flatten segments hts)) (bind_step hmore rfl))

/-! ### Arguments in parentheses -/

theorem withLastArgs?_append (rooted : Bool) (before : List Segment) (name : String)
    (args : SegmentArgs) :
    withLastArgs? (.plain rooted (before ++ [.mk name .none])) args =
      some (.plain rooted (before ++ [.mk name args])) := by
  simp [withLastArgs?, segmentsOf, withSegments]

/-- Arguments in parentheses that are read as themselves. -/
structure SegmentArgs.ReadsInParens (g : Grammar) (args : SegmentArgs) : Prop where
  opens (ts : List Token) : ∃ body rest, args.tokens ++ ts = .group .paren body :: rest
  reads {ts : List Token} : EndsType false ts → parenArgs g (args.tokens ++ ts) = some (args, ts)

theorem addParenArgs_of_readsInParens {args : SegmentArgs} (h : args.ReadsInParens g)
    (hts : EndsType false ts) (rooted : Bool) (before : List Segment) (name : String) :
    startsParenArgs (args.tokens ++ ts) = true ∧
      addParenArgs g (.plain rooted (before ++ [.mk name .none])) (args.tokens ++ ts) =
        some ((.plain rooted (before ++ [.mk name args]), args), ts) := by
  have hreads := h.reads hts
  obtain ⟨body, rest, htokens⟩ := h.opens ts
  rw [htokens] at hreads ⊢
  refine ⟨rfl, bind_step rfl (bind_step hreads ?_)⟩
  rw [withLastArgs?_append]
  rfl

/-! ### Paths in types -/

theorem typePath_of_path {before : List Token} {p : Path} {allowPlus : Bool}
    (h : path g false before = some (p, ts)) (hts : EndsType allowPlus ts) :
    typePath g before = some (p, ts) := by
  refine bind_step h (bind_step rfl (bind_step rfl (else_step ?_ rfl)))
  rw [hts.startsParenArgs, Bool.and_false]

/-- Arguments in parentheses become those of the last segment. -/
theorem typePath_of_readsInParens {tokens : List Token} {before : List Segment} {name : String}
    {args : SegmentArgs} (hargs : args.ReadsInParens g) (hts : EndsType false ts)
    (h : path g false tokens =
      some (.plain rooted (before ++ [.mk name .none]), args.tokens ++ ts)) :
    typePath g tokens = some (.plain rooted (before ++ [.mk name args]), ts) := by
  obtain ⟨hstarts, hadd⟩ := addParenArgs_of_readsInParens hargs hts rooted before name
  have hbare : lastIsBare (.plain rooted (before ++ [.mk name .none])) = true := by
    rw [lastIsBare, withLastArgs?_append]
    rfl
  have hlast (p : Path) (n : Nat) : typePath.loop g p (n + 1) ts = some (p, ts) := by
    refine bind_step rfl (else_step ?_ rfl)
    rw [hts.startsParenArgs, Bool.and_false]
  have hmore : moreSegments g false pathGoesOn ts = some ([], ts) := by
    refine bind_step rfl (bind_step rfl (else_step ?_ rfl))
    rw [pathGoesOn, hts.path, Bool.false_and]
  obtain ⟨n, hn⟩ : ∃ n, (args.tokens ++ ts).length = n + 1 := by
    obtain ⟨body, rest, htokens⟩ := hargs.opens ts
    exact ⟨rest.length, by rw [htokens, List.length_cons]⟩
  refine bind_step h (bind_step rfl ?_)
  rw [hn]
  refine bind_step rfl (then_step (by rw [hbare, hstarts]; rfl) (bind_step hadd ?_))
  cases hadmits : admitsSegments args with
  | true =>
      refine then_step hadmits (bind_step hmore ?_)
      rw [List.append_nil]
      exact hlast _ n
  | false => exact else_step hadmits (hlast _ n)

theorem traitPath_of_plain {before : List Token} {p : Path} {allowPlus : Bool}
    (h : plain g false before = some (p, ts)) (hts : EndsType allowPlus ts) :
    traitPath g before = some (p, ts) := by
  refine bind_step h (bind_step rfl (else_step ?_ rfl))
  rw [hts.startsParenArgs, Bool.and_false]

theorem traitPath_of_readsInParens {tokens : List Token} {before : List Segment} {name : String}
    {args : SegmentArgs} (hargs : args.ReadsInParens g) (hts : EndsType false ts)
    (h : plain g false tokens =
      some (.plain rooted (before ++ [.mk name .none]), args.tokens ++ ts)) :
    traitPath g tokens = some (.plain rooted (before ++ [.mk name args]), ts) := by
  obtain ⟨hstarts, hadd⟩ := addParenArgs_of_readsInParens hargs hts rooted before name
  have hbare : lastIsBare (.plain rooted (before ++ [.mk name .none])) = true := by
    rw [lastIsBare, withLastArgs?_append]
    rfl
  exact bind_step h (bind_step rfl (then_step (by rw [hbare, hstarts]; rfl) (bind_step hadd rfl)))

/-! ### Types -/

/-- Paths begin with two colons or with a word. -/
theorem tokens_plain_cases (rooted : Bool) (h : ∀ s ∈ segments, IsPathWord s.name)
    (hne : segments ≠ []) (ts : List Token) :
    ∃ tail, (Path.plain rooted segments).tokens ++ ts = sym "::" ++ tail ∨
      ∃ name, IsPathWord name ∧ (Path.plain rooted segments).tokens ++ ts = word name ++ tail := by
  rw [Path.tokens, List.append_assoc]
  cases rooted with
  | true => exact ⟨_, .inl rfl⟩
  | false =>
      cases segments with
      | nil => exact absurd rfl hne
      | cons first segments =>
          have hfirst := h first List.mem_cons_self
          obtain ⟨name, args⟩ := first
          rw [segmentList, separated_cons, Segment.tokens]
          simp only [List.append_assoc]
          exact ⟨_, .inr ⟨name, hfirst, rfl⟩⟩

theorem isPathWord_of_mem (h : List.Forall₂ (Segment.ReadsAs g) segments segments') :
    ∀ s ∈ segments, IsPathWord s.name := by
  induction h with
  | nil => exact nofun
  | cons hs hall ih => exact List.forall_mem_cons.mpr ⟨hs.word, ih⟩

/-- Paths without a self type begin in no angle bracket. -/
theorem path_of_readsAs (h : List.Forall₂ (Segment.ReadsAs g) segments segments')
    (hne : segments ≠ []) (hts : EndsPath ts) :
    path g false ((Path.plain rooted segments).tokens ++ ts) =
      some (.plain rooted segments', ts) := by
  have hself : isOp "<" ((Path.plain rooted segments).tokens ++ ts) = false := by
    obtain ⟨tail, htokens | ⟨name, -, htokens⟩⟩ :=
      tokens_plain_cases rooted (isPathWord_of_mem h) hne ts
    · rw [htokens]
      rfl
    · rw [htokens]
      rfl
  exact bind_step (opIf_eq_false hself) (plain_of_readsAs rooted h hne hts)

/-- A path in front of what belongs to no type is a type. -/
theorem pathType_of_typePath {before : List Token} {p : Path} {allowPlus : Bool}
    (h : typePath g before = some (p, ts)) (hts : EndsType allowPlus ts) :
    pathType g none allowPlus before = some (.path p, ts) := by
  have hbang : isBang ts = false := by rw [isBang, hts.bang, Bool.false_and]
  have hplus : (Option.isSome (none : Option Fragment) || (allowPlus && isOp "+" ts)) = false := by
    rw [Bool.and_comm, hts.plus]
    rfl
  refine bind_step h ?_
  cases p with
  | qualified => rfl
  | plain rooted segments =>
      refine else_step rfl (bind_step rfl ?_)
      rw [hbang]
      cases (Path.plain rooted segments).toPlain? with
      | none => exact bind_step rfl (else_step hplus rfl)
      | some m => exact bind_step rfl (else_step hplus rfl)

theorem tyRule_of_typePath {allowPlus : Bool} {p : Path} (hwords : ∀ s ∈ segments, IsPathWord s.name)
    (hne : segments ≠ [])
    (h : typePath g ((Path.plain rooted segments).tokens ++ ts) = some (p, ts))
    (hts : EndsType allowPlus ts) :
    tyRule g allowPlus ((Path.plain rooted segments).tokens ++ ts) = some (.path p, ts) := by
  have hpath := pathType_of_typePath h hts
  obtain ⟨tail, htokens | ⟨name, hname, htokens⟩⟩ := tokens_plain_cases rooted hwords hne ts
  · rw [htokens] at hpath ⊢
    exact bind_step rfl (bind_step rfl hpath)
  · rw [htokens] at hpath ⊢
    have hfor : isWordToken "for" (word name ++ tail) = false := by
      have hne : name ∉ ["for"] := hname.not_mem (by decide) (by decide)
      simpa [isWordToken_word] using hne
    have hbinder : binderIf g (word name ++ tail) = some (none, word name ++ tail) :=
      bind_step (keywordIf_eq_false hfor) rfl
    have hfn : startsFn (word name ++ tail) = false :=
      isOneOf_eq_false (hname.not_mem (by decide) (by decide)) tail
    refine bind_step hbinder (bind_step rfl (else_step rfl (else_step hfn ?_)))
    rw [startsPlainPath_of_isPathWord hname, Bool.true_or, if_pos rfl]
    exact hpath

end

end ApiClient.Code
