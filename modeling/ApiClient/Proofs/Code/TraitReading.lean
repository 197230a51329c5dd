import ApiClient.Proofs.Code.TypeReading

/-!
Paths in types, bounds and sums of them. Whatever a path or a bound holds is read one level deeper
than the type that it stands in.
-/

namespace ApiClient.Code

open ApiClient.Code.Parser Grammar

section

variable {n : Nat} {g : Grammar} {rooted allowPlus : Bool} {segments : List Segment}
  {ts : List Token}

/-! ### Arguments in parentheses -/

theorem output_of_readsAt {result : Option Ty} (h : ∀ t ∈ result, t.ReadsAt n false)
    (hts : EndsType false ts) :
    output (.ofFuel n) false (outputTokens result ++ ts) = some (result, ts) := by
  cases result with
  | none => exact bind_step (opIf_eq_false hts.arrow) rfl
  | some t =>
      rw [outputTokens, List.append_assoc]
      exact bind_step rfl (bind_step ((h t rfl).reads hts) rfl)

theorem readsInParens_paren {inputs : List Ty} {trailing : Bool} {result : Option Ty}
    (hinputs : ∀ t ∈ inputs, t.ReadsAt n true) (hempty : inputs = [] → trailing = false)
    (hresult : ∀ t ∈ result, t.ReadsAt n false) :
    (SegmentArgs.paren inputs trailing result).ReadsInParens (.ofFuel n) := by
  have htokens : (SegmentArgs.paren inputs trailing result).tokens =
      inParens (separated comma trailing (inputs.map Ty.tokens)) ++ outputTokens result := by
    rw [SegmentArgs.tokens, tyList_eq_map]
  refine ⟨fun ts => ?_, fun {ts} hts => ?_⟩
  · rw [htokens, List.append_assoc]
    exact ⟨_, _, rfl⟩
  · rw [htokens, List.append_assoc]
    exact bind_step (inside_group (commaList_of_readsAt hinputs hempty) _)
      (bind_step (output_of_readsAt hresult hts) rfl)

/-! ### Paths -/

/-- Segments that are read as themselves, the last one perhaps with arguments in parentheses. -/
def SegmentsRead (g : Grammar) (segments : List Segment) : Prop :=
  (∀ s ∈ segments, s.ReadsAs g s) ∨
    ∃ before name args, segments = before ++ [.mk name args] ∧ (∀ s ∈ before, s.ReadsAs g s) ∧
      IsPathWord name ∧ SegmentArgs.ReadsInParens g args

theorem SegmentsRead.isPathWord (h : SegmentsRead g segments) :
    ∀ s ∈ segments, IsPathWord s.name := by
  rcases h with h | ⟨before, name, args, rfl, hbefore, hname, -⟩
  · exact fun s hs => (h s hs).word
  · intro s hs
    rcases List.mem_append.mp hs with hs | hs
    · exact (hbefore s hs).word
    · rw [List.mem_singleton.mp hs]
      exact hname

theorem separated_append_last (sep : List Token) (parts : List (List Token))
    (last tail : List Token) :
    separated sep false (parts ++ [last ++ tail]) = separated sep false (parts ++ [last]) ++ tail := by
  induction parts with
  | nil => simp [separated]
  | cons part parts ih =>
      cases parts with
      | nil => simp [separated]
      | cons next parts =>
          rw [List.cons_append, List.cons_append, separated_cons_cons, List.cons_append,
            List.cons_append, separated_cons_cons, List.append_assoc, List.append_assoc]
          rw [List.cons_append, List.cons_append] at ih
          rw [ih]

theorem tokens_plain_append (rooted : Bool) (before : List Segment) (name : String)
    (args : SegmentArgs) :
    (Path.plain rooted (before ++ [.mk name args])).tokens =
      (Path.plain rooted (before ++ [.mk name .none])).tokens ++ args.tokens := by
  have hnone : (Segment.mk name .none).tokens = word name := by
    rw [Segment.tokens, SegmentArgs.tokens, List.append_nil]
  rw [Path.tokens, Path.tokens, segmentList_eq_map, segmentList_eq_map, List.map_append,
    List.map_append, List.map_singleton, List.map_singleton, hnone, Segment.tokens,
    separated_append_last, List.append_assoc]

theorem SegmentArgs.ReadsInParens.endsPath {args : SegmentArgs} (h : args.ReadsInParens g)
    (ts : List Token) : EndsPath (args.tokens ++ ts) := by
  obtain ⟨body, rest, htokens⟩ := h.opens ts
  rw [htokens]
  exact ⟨rfl, rfl⟩

theorem SegmentsRead.typePath (h : SegmentsRead g segments) (rooted : Bool) (hne : segments ≠ [])
    (hts : EndsType false ts) :
    typePath g ((Path.plain rooted segments).tokens ++ ts) =
      some (.plain rooted segments, ts) := by
  rcases h with h | ⟨before, name, args, rfl, hbefore, hname, hargs⟩
  · exact typePath_of_path (path_of_readsAs (List.forall₂_same.mpr h) hne hts.toEndsPath) hts
  · rw [tokens_plain_append, List.append_assoc]
    refine typePath_of_readsInParens hargs hts (path_of_readsAs ?_ (by simp) (hargs.endsPath ts))
    refine List.forall₂_same.mpr fun s hs => ?_
    rcases List.mem_append.mp hs with hs | hs
    · exact hbefore s hs
    · rw [List.mem_singleton.mp hs]
      exact Segment.readsAs_bare g hname

theorem SegmentsRead.traitPath (h : SegmentsRead g segments) (rooted : Bool) (hne : segments ≠ [])
    (hts : EndsType false ts) :
    traitPath g ((Path.plain rooted segments).tokens ++ ts) =
      some (.plain rooted segments, ts) := by
  rcases h with h | ⟨before, name, args, rfl, hbefore, hname, hargs⟩
  · exact traitPath_of_plain
      (plain_of_readsAs rooted (List.forall₂_same.mpr h) hne hts.toEndsPath) hts
  · rw [tokens_plain_append, List.append_assoc]
    refine traitPath_of_readsInParens hargs hts
      (plain_of_readsAs rooted ?_ (by simp) (hargs.endsPath ts))
    refine List.forall₂_same.mpr fun s hs => ?_
    rcases List.mem_append.mp hs with hs | hs
    · exact hbefore s hs
    · rw [List.mem_singleton.mp hs]
      exact Segment.readsAs_bare g hname

/-- What a path begins with. -/
theorem leadsType_path (rooted : Bool) (h : ∀ s ∈ segments, IsPathWord s.name)
    (hne : segments ≠ []) (ts : List Token) :
    LeadsType ((Path.plain rooted segments).tokens ++ ts) := by
  obtain ⟨tail, htokens | ⟨name, hname, htokens⟩⟩ := tokens_plain_cases rooted h hne ts
  · rw [htokens]
    exact ⟨rfl, rfl, rfl, rfl, rfl, rfl, rfl, rfl⟩
  · have hnot : name ∉ ["true", "false", "mut"] := hname.not_mem (by decide) (by decide)
    simp only [List.mem_cons, List.not_mem_nil, or_false, not_or] at hnot
    obtain ⟨htrue, hfalse, hmut⟩ := hnot
    rw [htokens]
    refine ⟨rfl, ?_, rfl, ?_, rfl, rfl, rfl, rfl⟩
    · change (name == "true" || name == "false" || false) = false
      simp [htrue, hfalse]
    · rw [isWordToken_word]
      simpa using hmut

/-- The first word of a path is no name of a parameter: no colon of its own is behind it. -/
theorem leadsUnnamed_path (rooted : Bool) (hne : segments ≠ []) (hts : EndsItem List.isEmpty ts) :
    LeadsUnnamed ((Path.plain rooted segments).tokens ++ ts) := by
  have hword {name : String} {tail : List Token} (hcolon : isColon tail = false)
      (hdots : (isOp ":" tail && isOp "..." (skip tail)) = false) :
      LeadsUnnamed (word name ++ tail) := by
    refine ⟨?_, ?_⟩
    · change ((isIdentToken _ || isOneOf _ _) && isColon tail) = false
      rw [hcolon, Bool.and_false]
    · change (false || (_ && isOp ":" tail && isOp "..." (skip tail))) = false
      rw [Bool.and_assoc, hdots, Bool.and_false]
      rfl
  cases segments with
  | nil => exact absurd rfl hne
  | cons first segments =>
      rw [Path.tokens, List.append_assoc, separated_segments]
      cases rooted with
      | true => exact ⟨rfl, rfl⟩
      | false =>
          obtain ⟨name, args⟩ := first
          rw [Segment.tokens]
          simp only [List.append_assoc]
          cases args with
          | none =>
              rw [SegmentArgs.tokens]
              cases segments with
              | nil =>
                  rcases hts with hnil | ⟨rest, rfl⟩
                  · rw [List.isEmpty_iff.mp hnil]
                    exact hword rfl rfl
                  · exact hword rfl rfl
              | cons s segments =>
                  rw [List.map_cons, List.flatten_cons]
                  exact hword rfl rfl
          | angle turbofish args trailing =>
              rw [SegmentArgs.tokens]
              simp only [List.append_assoc]
              cases turbofish <;> exact hword rfl rfl
          | paren inputs trailing result =>
              rw [SegmentArgs.tokens]
              exact hword rfl rfl

theorem readsAt_path (h : SegmentsRead (.ofFuel n) segments) (hne : segments ≠ []) :
    (Ty.path (.plain rooted segments)).ReadsAt (n + 1) allowPlus := by
  refine ⟨fun ts => ?_, fun {ts} hts => ?_, fun {ts} hts => ?_⟩
  · rw [Ty.tokens]
    exact leadsType_path rooted h.isPathWord hne ts
  · rw [Ty.tokens]
    exact leadsUnnamed_path rooted hne hts
  · rw [Ty.tokens]
    exact tyRule_of_typePath h.isPathWord hne (h.typePath rooted hne hts.noPlus) hts

/-! ### Paths with a self type -/

theorem tokens_qualified (self : Ty) (rooted : Bool) (trait segments : List Segment)
    (ts : List Token) :
    (Path.qualified self rooted trait segments).tokens ++ ts =
      sym "<" ++ (self.tokens ++ ((if trait.isEmpty then [] else
        word "as" ++ (Path.plain rooted trait).tokens) ++ (sym ">" ++ (sym "::" ++
          (separated (sym "::") false (segmentList segments) ++ ts))))) := by
  rw [Path.tokens, Path.tokens]
  simp only [List.append_assoc]

theorem typePath_qualified {self : Ty} {trait : List Segment} (hself : self.ReadsAt n true)
    (htrait : ∀ s ∈ trait, s.ReadsAs (.ofFuel n) s) (hrooted : trait = [] → rooted = false)
    (hsegments : ∀ s ∈ segments, s.ReadsAs (.ofFuel n) s) (hne : segments ≠ [])
    (hts : EndsType allowPlus ts) :
    typePath (.ofFuel n) ((Path.qualified self rooted trait segments).tokens ++ ts) =
      some (.qualified self rooted trait segments, ts) := by
  refine typePath_of_path ?_ hts
  cases segments with
  | nil => exact absurd rfl hne
  | cons first segments =>
      have hfirst := hsegments first List.mem_cons_self
      have hmore := moreSegments_of_readsAs (List.forall₂_same.mpr fun s hs =>
        hsegments s (List.mem_cons_of_mem first hs)) (isOp "::") (fun _ _ => rfl) hts.path
        hts.toEndsPath
      have hends := endsSegment_flatten segments hts.toEndsPath
      rw [tokens_qualified, separated_segments]
      cases trait with
      | nil =>
          obtain rfl := hrooted rfl
          refine bind_step rfl (bind_step (hself.reads ⟨⟨rfl, rfl⟩, rfl, rfl, rfl, rfl⟩) ?_)
          exact bind_step rfl (bind_step rfl (bind_step rfl (bind_step rfl
            (bind_step (hfirst.reads hends) (bind_step hmore rfl)))))
      | cons s trait =>
          have hangle : EndsPath (sym ">" ++ (sym "::" ++ (first.tokens ++
              ((segments.map fun s => sym "::" ++ s.tokens).flatten ++ ts)))) := ⟨rfl, rfl⟩
          have hplain := plain_of_readsAs rooted (List.forall₂_same.mpr htrait)
            (List.cons_ne_nil s trait) hangle
          rw [List.isEmpty_cons, if_neg Bool.false_ne_true, List.append_assoc]
          refine bind_step rfl (bind_step (hself.reads ⟨⟨rfl, rfl⟩, rfl, rfl, rfl, rfl⟩) ?_)
          exact bind_step rfl (bind_step hplain (bind_step rfl (bind_step rfl (bind_step rfl
            (bind_step (hfirst.reads hends) (bind_step hmore rfl))))))

theorem readsAt_qualified {self : Ty} {trait : List Segment} (hself : self.ReadsAt n true)
    (htrait : ∀ s ∈ trait, s.ReadsAs (.ofFuel n) s) (hrooted : trait = [] → rooted = false)
    (hsegments : ∀ s ∈ segments, s.ReadsAs (.ofFuel n) s) (hne : segments ≠ []) :
    (Ty.path (.qualified self rooted trait segments)).ReadsAt (n + 1) allowPlus := by
  refine ⟨fun ts => ?_, fun {ts} _ => ?_, fun {ts} hts => ?_⟩
  · rw [Ty.tokens, tokens_qualified]
    exact ⟨rfl, rfl, rfl, rfl, rfl, rfl, rfl, rfl⟩
  · rw [Ty.tokens, tokens_qualified]
    exact ⟨rfl, rfl⟩
  · have hpath := pathType_of_typePath
      (typePath_qualified hself htrait hrooted hsegments hne hts) hts
    rw [Ty.tokens]
    rw [tokens_qualified] at hpath ⊢
    exact bind_step rfl (bind_step rfl hpath)

/-! ### Bounds -/

/-- What a bound begins with, in a sum or in a list of arguments. -/
structure LeadsBound (ts : List Token) : Prop where
  starts : startsBound false ts = true
  star : isOp "*" ts = false
  comma : isOp "," ts = false
  angle : isOp ">" ts = false

/-- The rules to a depth read the bound as itself, in front of whatever belongs to no type. -/
structure Bound.ReadsAt (n : Nat) (b : Bound) : Prop where
  leads (ts : List Token) : LeadsBound (b.tokens ++ ts)
  reads (allowCapture allowConst : Bool) {ts : List Token} : EndsType false ts →
    (ofFuel n).bound allowCapture allowConst (b.tokens ++ ts) = some (b, ts)

/-- A binder that is read as itself. -/
structure Fragment.ReadsAsBinder (g : Grammar) (f : Fragment) : Prop where
  leads : ∃ rest, f.tokens = word "for" ++ rest
  reads (ts : List Token) : binderIf g (f.tokens ++ ts) = some (some f, ts)

theorem readsAt_lifetime (n : Nat) (name : String) : (Bound.lifetime name).ReadsAt (n + 1) :=
  ⟨fun _ => ⟨rfl, rfl, rfl, rfl⟩, fun _ _ {_} _ => rfl⟩

/-- Nothing stands in front of a path that begins a bound. -/
theorem leads_traitPath (g : Grammar) (rooted : Bool) (h : ∀ s ∈ segments, IsPathWord s.name)
    (hne : segments ≠ []) (allowConst : Bool) (ts : List Token) :
    let tokens := (Path.plain rooted segments).tokens ++ ts
    binderIf g tokens = some (none, tokens) ∧
      constCondition allowConst tokens = some (false, tokens) ∧
      isWordToken "use" tokens = false ∧ isLifetime tokens = false ∧ isParen tokens = false ∧
      opIf "?" tokens = some (false, tokens) ∧ LeadsBound tokens := by
  intro tokens
  obtain ⟨tail, htokens | ⟨name, hname, htokens⟩⟩ := tokens_plain_cases rooted h hne ts
  · rw [show tokens = sym "::" ++ tail from htokens]
    exact ⟨rfl, rfl, rfl, rfl, rfl, rfl, ⟨rfl, rfl, rfl, rfl⟩⟩
  · rw [show tokens = word name ++ tail from htokens]
    have hnot : name ∉ ["for", "const", "use"] := hname.not_mem (by decide) (by decide)
    simp only [List.mem_cons, List.not_mem_nil, or_false, not_or] at hnot
    obtain ⟨hfor, hconst, huse⟩ := hnot
    have hconst : isWordToken "const" (word name ++ tail) = false := by
      simpa [isWordToken_word] using hconst
    refine ⟨bind_step (keywordIf_eq_false ?_) rfl,
      bind_step rfl (else_step rfl (else_step hconst rfl)), ?_, rfl, rfl, rfl,
      ⟨rfl, rfl, rfl, rfl⟩⟩
    · simpa [isWordToken_word] using hfor
    · simpa [isWordToken_word] using huse

/-- What stands for a trait, apart from parentheses around it. -/
def traitTokens (isMaybe : Bool) (binder : Option Fragment) (p : Path) : List Token :=
  (if isMaybe then sym "?" else []) ++ Fragment.optionTokens binder ++ p.tokens

theorem traitBound_reads (h : SegmentsRead g segments) (rooted : Bool) (hne : segments ≠ [])
    {isMaybe : Bool}
    {binder : Option Fragment} (hmaybe : isMaybe = true → binder = none)
    (hbinder : ∀ f ∈ binder, f.ReadsAsBinder g) (inParens allowConst : Bool)
    (hts : EndsType false ts) :
    traitBound g inParens allowConst
        (traitTokens isMaybe binder (.plain rooted segments) ++ ts) =
      some (some (.trait inParens isMaybe binder (.plain rooted segments)), ts) := by
  obtain ⟨hnone, hconst, -, -, -, hmark, -⟩ :=
    leads_traitPath g rooted h.isPathWord hne allowConst ts
  have hpath := h.traitPath rooted hne hts
  rw [traitTokens, List.append_assoc, List.append_assoc]
  cases isMaybe with
  | true =>
      obtain rfl := hmaybe rfl
      exact bind_step rfl (bind_step rfl (bind_step rfl (bind_step hnone (bind_step hpath rfl))))
  | false =>
      cases binder with
      | none =>
          exact bind_step hnone (bind_step hconst (bind_step hmark
            (bind_step rfl (bind_step hpath rfl))))
      | some f =>
          exact bind_step ((hbinder f rfl).reads _) (bind_step hconst (bind_step hmark
            (bind_step rfl (bind_step hpath rfl))))

theorem readsAt_trait (h : SegmentsRead (.ofFuel n) segments) (hne : segments ≠ [])
    (inParens : Bool) {isMaybe : Bool} {binder : Option Fragment}
    (hmaybe : isMaybe = true → binder = none)
    (hbinder : ∀ f ∈ binder, f.ReadsAsBinder (.ofFuel n)) :
    (Bound.trait inParens isMaybe binder (.plain rooted segments)).ReadsAt (n + 1) := by
  have hlead (ts : List Token) :
      let tokens := traitTokens isMaybe binder (.plain rooted segments) ++ ts
      isWordToken "use" tokens = false ∧ isLifetime tokens = false ∧ isParen tokens = false ∧
        LeadsBound tokens := by
    obtain ⟨-, -, huse, hlifetime, hparen, -, hbound⟩ :=
      leads_traitPath (.ofFuel n) rooted h.isPathWord hne false ts
    rw [traitTokens, List.append_assoc, List.append_assoc]
    cases isMaybe with
    | true => exact ⟨rfl, rfl, rfl, ⟨rfl, rfl, rfl, rfl⟩⟩
    | false =>
        cases binder with
        | none => exact ⟨huse, hlifetime, hparen, hbound⟩
        | some f =>
            obtain ⟨rest, hfor⟩ := (hbinder f rfl).leads
            rw [Fragment.optionTokens, hfor]
            exact ⟨rfl, rfl, rfl, ⟨rfl, rfl, rfl, rfl⟩⟩
  have htokens : (Bound.trait inParens isMaybe binder (.plain rooted segments)).tokens =
      if inParens then [.group .paren (traitTokens isMaybe binder (.plain rooted segments))]
      else traitTokens isMaybe binder (.plain rooted segments) := by
    rw [Bound.tokens, traitTokens]
  refine ⟨fun ts => ?_, fun allowCapture allowConst {ts} hts => ?_⟩
  · rw [htokens]
    cases inParens with
    | true => exact ⟨rfl, rfl, rfl, rfl⟩
    | false => exact (hlead ts).2.2.2
  · rw [htokens]
    cases inParens with
    | true =>
        have hread := traitBound_reads h rooted hne hmaybe hbinder true allowConst
          (endsType_nil false)
        rw [List.append_nil] at hread
        exact bind_step rfl (bind_step (inside_group hread ts) rfl)
    | false =>
        obtain ⟨huse, hlifetime, hparen, -⟩ := hlead ts
        have hread := traitBound_reads h rooted hne hmaybe hbinder false allowConst hts
        rw [if_neg Bool.false_ne_true]
        exact bind_step rfl (else_step hlifetime (else_step huse
          (else_step hparen (bind_step hread rfl))))

/-! ### Sums -/

theorem boundList_eq_map (bounds : List Bound) : boundList bounds = bounds.map Bound.tokens := by
  induction bounds with
  | nil => rw [boundList, List.map_nil]
  | cons b bounds ih => rw [boundList, ih, List.map_cons]

theorem startsBound_of_leads (h : LeadsBound ts) (allowConst : Bool) :
    startsBound allowConst ts = true := by
  have hstarts := h.starts
  rw [startsBound, Bool.false_and, Bool.or_false] at hstarts
  rw [startsBound, hstarts, Bool.true_or]

theorem endsType_plus (ts : List Token) : EndsType false (sym "+" ++ ts) :=
  ⟨⟨rfl, rfl⟩, rfl, rfl, rfl, rfl⟩

theorem ne_nil_of_leads {bounds : List Bound} (h : ∀ b ∈ bounds, b.ReadsAt n) :
    ∀ part ∈ bounds.map Bound.tokens, part ≠ [] := by
  intro part hpart hnil
  obtain ⟨b, hb, rfl⟩ := List.mem_map.mp hpart
  have hstarts := ((h b hb).leads []).starts
  rw [hnil] at hstarts
  cases hstarts

/-- Bounds with plus signs between them, up to where no bound begins. -/
theorem whileSeparated_bounds {bounds : List Bound} (h : ∀ b ∈ bounds, b.ReadsAt n)
    {trailing : Bool} (hempty : bounds = [] → trailing = false) (stop : List Token → Bool)
    (hpass : ∀ {ts : List Token}, LeadsBound ts → stop ts = false) (hts : EndsType true ts)
    (hstop : trailing = true ∨ bounds = [] → stop ts = true) (allowCapture allowConst : Bool) :
    whileSeparated "+" stop ((ofFuel n).bound allowCapture allowConst)
        (separated (sym "+") trailing (bounds.map Bound.tokens) ++ ts) =
      some ((bounds, trailing), ts) := by
  have hitems : List.Forall₂ (fun part b => ∀ ts, EndsType false ts →
      stop (part ++ ts) = false ∧
        (ofFuel n).bound allowCapture allowConst (part ++ ts) = some (b, ts))
      (bounds.map Bound.tokens) bounds := by
    rw [List.forall₂_map_left_iff, List.forall₂_same]
    exact fun b hb ts hts =>
      ⟨hpass ((h b hb).leads ts), (h b hb).reads allowCapture allowConst hts⟩
  have hends : isOp "+" ts = false := by simpa using hts.plus
  exact whileSeparated_separated hitems endsType_plus hts.noPlus hends
    (fun hor => hstop (hor.imp_right List.map_eq_nil_iff.mp)) (ne_nil_of_leads h)
    fun hnil => hempty (List.map_eq_nil_iff.mp hnil)

theorem boundSum_reads {bounds : List Bound} (h : ∀ b ∈ bounds, b.ReadsAt n) (hne : bounds ≠ [])
    (hplus : allowPlus = true ∨ bounds.length = 1) (allowCapture allowConst : Bool)
    (hts : EndsType allowPlus ts) :
    boundSum (.ofFuel n) allowPlus allowCapture allowConst
        (separated (sym "+") false (bounds.map Bound.tokens) ++ ts) =
      some ((bounds, false), ts) := by
  match bounds, h, hplus with
  | [b], h, _ =>
      have hb := (h b List.mem_cons_self).reads allowCapture allowConst hts.noPlus
      refine bind_step hb ?_
      cases allowPlus with
      | true =>
          have hnone : moreBounds (.ofFuel n) allowCapture allowConst ts =
              some (([], false), ts) :=
            bind_step (opIf_eq_false (by simpa using hts.plus)) rfl
          exact bind_step hnone rfl
      | false => rfl
  | b :: next :: bounds, h, hplus =>
      obtain rfl : allowPlus = true := hplus.resolve_right (by simp)
      obtain ⟨hb, hrest⟩ := List.forall_mem_cons.mp h
      have hwhile := whileSeparated_bounds hrest (fun _ => rfl)
        (fun ts => !startsBound allowConst ts)
        (fun h => by rw [startsBound_of_leads h]; rfl) hts (by simp) allowCapture allowConst
      have hfirst := hb.reads allowCapture allowConst (endsType_plus
        (separated (sym "+") false ((next :: bounds).map Bound.tokens) ++ ts))
      rw [List.map_cons, List.map_cons, separated_cons_cons, List.append_assoc, List.append_assoc]
      have hstarts : startsBound allowConst
          (separated (sym "+") false ((next :: bounds).map Bound.tokens) ++ ts) = true := by
        rw [List.map_cons, separated_cons, List.append_assoc]
        exact startsBound_of_leads ((hrest next List.mem_cons_self).leads _) allowConst
      exact bind_step hfirst
        (bind_step (bind_step rfl (bind_step rfl (then_step hstarts hwhile))) rfl)

theorem leadsBound_sum {bounds : List Bound} (h : ∀ b ∈ bounds, b.ReadsAt n) (hne : bounds ≠ [])
    (ts : List Token) :
    LeadsBound (separated (sym "+") false (bounds.map Bound.tokens) ++ ts) := by
  cases bounds with
  | nil => exact absurd rfl hne
  | cons b bounds =>
      rw [List.map_cons, separated_cons, List.append_assoc]
      exact (h b List.mem_cons_self).leads _

theorem readsAt_dyn {bounds : List Bound} (h : ∀ b ∈ bounds, b.ReadsAt n) (hne : bounds ≠ [])
    (hplus : allowPlus = true ∨ bounds.length = 1) (htrait : hasTrait bounds = true) :
    (Ty.traitObject true bounds false).ReadsAt (n + 1) allowPlus := by
  have htokens (ts : List Token) : (Ty.traitObject true bounds false).tokens ++ ts =
      word "dyn" ++ (separated (sym "+") false (bounds.map Bound.tokens) ++ ts) := by
    rw [Ty.tokens, boundList_eq_map, List.append_assoc]
    rfl
  refine ⟨fun ts => ?_, fun {ts} _ => ?_, fun {ts} hts => ?_⟩
  · rw [htokens]
    exact ⟨rfl, rfl, rfl, rfl, rfl, rfl, rfl, rfl⟩
  · rw [htokens]
    exact ⟨rfl, rfl⟩
  · rw [htokens]
    have hstar := opIf_eq_false (leadsBound_sum h hne ts).star
    exact bind_step rfl (bind_step rfl (bind_step rfl (bind_step rfl (bind_step hstar
      (bind_step (boundSum_reads h hne hplus false false hts) (guardThat_step htrait rfl))))))

theorem readsAt_impl {bounds : List Bound} (h : ∀ b ∈ bounds, b.ReadsAt n) (hne : bounds ≠ [])
    (hplus : allowPlus = true ∨ bounds.length = 1) (htrait : hasTrait bounds = true) :
    (Ty.implTrait bounds false).ReadsAt (n + 1) allowPlus := by
  have htokens (ts : List Token) : (Ty.implTrait bounds false).tokens ++ ts =
      word "impl" ++ (separated (sym "+") false (bounds.map Bound.tokens) ++ ts) := by
    rw [Ty.tokens, boundList_eq_map, List.append_assoc]
  refine ⟨fun ts => ?_, fun {ts} _ => ?_, fun {ts} hts => ?_⟩
  · rw [htokens]
    exact ⟨rfl, rfl, rfl, rfl, rfl, rfl, rfl, rfl⟩
  · rw [htokens]
    exact ⟨rfl, rfl⟩
  · rw [htokens]
    exact bind_step rfl (bind_step rfl (bind_step rfl
      (bind_step (boundSum_reads h hne hplus true true hts) (guardThat_step htrait rfl))))

end

end ApiClient.Code
