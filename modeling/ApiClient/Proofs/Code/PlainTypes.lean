import ApiClient.Proofs.Code.ArgumentReading
import ApiClient.Proofs.Code.NameReading

/-!
Types that hold no code: no macro calls and attributes, no constants but literals, and no lengths but
literals and names. The rules read the tokens of such a type as the type itself.
-/

namespace ApiClient.Code

open ApiClient.Code.Parser Grammar

/-! ### What is plain -/

/-- A separator may stand behind the last of some parts only. -/
def mayTrail {α : Type} (trailing : Bool) (parts : List α) : Bool := !trailing || !parts.isEmpty

theorem eq_false_of_mayTrail {α : Type} {trailing : Bool} {parts : List α}
    (h : mayTrail trailing parts = true) : parts = [] → trailing = false := by
  rintro rfl
  simpa [mayTrail] using h

/-- Words for a scope have no arguments. -/
def fitsArgs (name : String) : SegmentArgs → Bool
  | .none => !reservedWords.contains name || ["super", "self", "crate"].contains name
  | _ => !reservedWords.contains name

/-- What may stand for the length of an array: a literal, or the name of a constant. -/
def Expr.isLength : Expr → Bool
  | .lit _ => true
  | .path p => p.isWords
  | _ => false

mutual

/-- Types without code, which may be sums where `allowPlus`. There is a word in front of each sum, and
no plus sign behind it. -/
def Ty.isPlain (allowPlus : Bool) : Ty → Bool
  | .infer => true
  | .never => true
  | .tuple elems trailing => tupleEnds trailing elems && typesArePlain elems
  | .paren t => t.isPlain true
  | .slice t => t.isPlain true
  | .array t size => t.isPlain true && size.isLength
  | .pointer _ t => t.isPlain false
  | .reference _ _ t => t.isPlain false
  | .path (.plain _ segments) => !segments.isEmpty && segmentsArePlain true segments
  | .path (.qualified self rooted trait segments) =>
    self.isPlain true && mayTrail rooted trait && segmentsArePlain false trait &&
      !segments.isEmpty && segmentsArePlain false segments
  | .function ⟨binder, qualifiers, trailing, none⟩ inputs result =>
    binder.all Fragment.isLifetimeBinder && qualifiers.isTyped && mayTrail trailing inputs &&
      inputsArePlain true inputs && resultIsPlain result
  | .implTrait bounds false =>
    (allowPlus || bounds.length == 1) && hasTrait bounds && boundsArePlain bounds
  | .traitObject true bounds false =>
    (allowPlus || bounds.length == 1) && hasTrait bounds && boundsArePlain bounds
  | _ => false

def typesArePlain : List Ty → Bool
  | [] => true
  | t :: rest => t.isPlain true && typesArePlain rest

def resultIsPlain : Option Ty → Bool
  | none => true
  | some t => t.isPlain false

def inputsArePlain (isFirst : Bool) : List FnInput → Bool
  | [] => true
  | .mk attrs name t :: rest =>
    attrs.isEmpty && name.all (isInputName isFirst) && t.isPlain true && inputsArePlain false rest

def boundsArePlain : List Bound → Bool
  | [] => true
  | .lifetime _ :: rest => boundsArePlain rest
  | .trait _ isMaybe binder (.plain _ segments) :: rest =>
    (!isMaybe || binder.isNone) && binder.all Fragment.isLifetimeBinder && !segments.isEmpty &&
      segmentsArePlain true segments && boundsArePlain rest
  | _ => false

/-- The last segment may have arguments in parentheses where `allowParens`. -/
def segmentsArePlain (allowParens : Bool) : List Segment → Bool
  | [] => true
  | .mk name args :: rest =>
    fitsArgs name args && args.isPlain (allowParens && rest.isEmpty) &&
      segmentsArePlain allowParens rest

def SegmentArgs.isPlain (allowParens : Bool) : SegmentArgs → Bool
  | .none => true
  | .angle _ args trailing => lifetimesLead args && mayTrail trailing args && argsArePlain args
  | .paren inputs trailing result =>
    allowParens && mayTrail trailing inputs && typesArePlain inputs && resultIsPlain result

def argsArePlain : List GenericArg → Bool
  | [] => true
  | .lifetime _ :: rest => argsArePlain rest
  | .type t :: rest => t.isPlain true && argsArePlain rest
  | .const e :: rest => e.isConstant && argsArePlain rest
  | .assocType name args t :: rest =>
    fitsArgs name args && args.isPlain false && t.isPlain true && argsArePlain rest
  | .assocConst name args e :: rest =>
    fitsArgs name args && args.isPlain false && e.isConstant && argsArePlain rest
  | .constraint name args bounds trailing :: rest =>
    fitsArgs name args && args.isPlain false && mayTrail trailing bounds &&
      boundsArePlain bounds && argsArePlain rest

end

/-! ### Reading -/

theorem isPathWord_of_fitsArgs {name : String} {args : SegmentArgs}
    (h : fitsArgs name args = true) : IsPathWord name := by
  cases args with
  | none => exact isPathWord_iff.mpr h
  | angle | paren => exact .inl (by simpa [fitsArgs] using h)

theorem expr_of_isLength {e : Expr} (h : e.isLength = true) (n : Nat) :
    (ofFuel (n + 1)).expr true e.tokens = some (e, []) := by
  cases e with
  | lit l => rfl
  | path p =>
      obtain ⟨rooted, names, rfl, hne, hnames⟩ := Path.eq_ofNames_of_isWords h
      have hread := @expr_ofNames rooted names [] n hne hnames (.inl rfl)
      rwa [List.append_nil] at hread
  | _ => cases h

theorem countAll_word (name : String) : Token.countAll (word name) = 1 := rfl

theorem countAll_tokens_le {α : Type} {tokens : α → List Token} {xs : List α} (sep : List Token)
    (trailing : Bool) {n : Nat} (h : Token.countAll (separated sep trailing (xs.map tokens)) ≤ n) :
    ∀ x ∈ xs, Token.countAll (tokens x) ≤ n := fun _ hx =>
  Nat.le_trans (countAll_le_separated sep trailing (List.mem_map_of_mem hx)) h

theorem countAll_qualified (self : Ty) (rooted : Bool) (trait segments : List Segment) :
    Token.countAll self.tokens < Token.countAll (Path.qualified self rooted trait segments).tokens ∧
      (∀ s ∈ trait, Token.countAll s.tokens <
        Token.countAll (Path.qualified self rooted trait segments).tokens) ∧
      ∀ s ∈ segments, Token.countAll s.tokens <
        Token.countAll (Path.qualified self rooted trait segments).tokens := by
  have hangle : Token.countAll (sym "<") = 1 := rfl
  have htokens := tokens_qualified self rooted trait segments []
  rw [List.append_nil, List.append_nil] at htokens
  rw [htokens]
  simp only [countAll_append, hangle]
  refine ⟨by omega, fun s hs => ?_, fun s hs => ?_⟩
  · rw [if_neg (by simpa using List.ne_nil_of_mem hs), Path.tokens, segmentList_eq_map]
    have hcount := countAll_le_separated (sym "::") false
      (List.mem_map_of_mem (f := Segment.tokens) hs)
    simp only [countAll_append]
    omega
  · rw [segmentList_eq_map]
    have hcount := countAll_le_separated (sym "::") false
      (List.mem_map_of_mem (f := Segment.tokens) hs)
    omega

/-- The tokens of the path are among those of the bound. -/
theorem countAll_trait (inParens isMaybe : Bool) (binder : Option Fragment) (p : Path) :
    Token.countAll p.tokens ≤ Token.countAll (Bound.trait inParens isMaybe binder p).tokens := by
  rw [Bound.tokens]
  cases inParens with
  | true =>
      rw [if_pos rfl, Token.countAll, Token.count, countAll_append, countAll_append]
      omega
  | false =>
      rw [if_neg Bool.false_ne_true, countAll_append, countAll_append]
      omega

theorem countAll_input (attrs : List Attribute) (name : Option String) (t : Ty) :
    Token.countAll t.tokens ≤ Token.countAll (FnInput.mk attrs name t).tokens := by
  cases name with
  | none | some =>
      rw [FnInput.tokens, countAll_append]
      exact Nat.le_add_left _ _

/-- The tokens of the parameters and of the result are among those of the function. -/
theorem countAll_function (header : FnTyHeader) (inputs : List FnInput) (result : Option Ty) :
    (∀ i ∈ inputs, Token.countAll i.tokens <
        Token.countAll (Ty.function header inputs result).tokens) ∧
      Token.countAll (outputTokens result) <
        Token.countAll (Ty.function header inputs result).tokens := by
  rw [Ty.tokens, fnInputs_eq_map]
  simp only [countAll_append, countAll_inParens]
  refine ⟨fun i hi => ?_, by omega⟩
  have hcount := countAll_le_separated comma header.trailing
    (List.mem_map_of_mem (f := FnInput.tokens) hi)
  omega

theorem ne_nil_of_hasTrait {bounds : List Bound} (h : hasTrait bounds = true) : bounds ≠ [] := by
  rintro rfl
  cases h

theorem assocName?_of_isPlain (name : String) {args : SegmentArgs}
    (h : args.isPlain false = true) : assocName? (assocHead name args) = some (name, args) := by
  cases args with
  | none | angle => rfl
  | paren => simp [SegmentArgs.isPlain] at h

theorem readsAt_assocHead {n : Nat} {name : String} {args : SegmentArgs}
    (h : (Segment.mk name args).ReadsAs (.ofFuel n) (.mk name args) ∨
      false = true ∧ args.ReadsInParens (.ofFuel n)) :
    (assocHead name args).ReadsAt (n + 1) true :=
  readsAt_path (.inl (List.forall_mem_singleton.mpr
    (h.resolve_right fun hparens => Bool.false_ne_true hparens.1))) (List.cons_ne_nil _ _)

mutual

/-- A type without code is read by rules that are deep enough for its tokens. -/
theorem Ty.readsAt_of_isPlain : ∀ (t : Ty) {allowPlus : Bool} {n : Nat},
    t.isPlain allowPlus = true → Token.countAll t.tokens ≤ n → t.ReadsAt (n + 1) allowPlus
  | .infer, allowPlus, n, _, _ => readsAt_infer allowPlus n
  | .never, allowPlus, n, _, _ => readsAt_never allowPlus n
  | .tuple elems trailing, allowPlus, n, h, hn => by
      rw [Ty.isPlain, Bool.and_eq_true] at h
      rw [Ty.tokens, countAll_inParens, tupleElems, tyList_eq_map] at hn
      obtain ⟨n, rfl⟩ : ∃ m, n = m + 1 := ⟨n - 1, by omega⟩
      exact readsAt_tuple allowPlus (readsAt_of_typesArePlain elems h.2
        (countAll_tokens_le comma _ (Nat.le_of_succ_le_succ hn))) h.1
  | .paren t, allowPlus, n, h, hn => by
      rw [Ty.isPlain] at h
      rw [Ty.tokens, countAll_inParens] at hn
      obtain ⟨n, rfl⟩ : ∃ m, n = m + 1 := ⟨n - 1, by omega⟩
      exact (t.readsAt_of_isPlain h (by omega)).paren allowPlus
  | .slice t, allowPlus, n, h, hn => by
      rw [Ty.isPlain] at h
      rw [Ty.tokens, countAll_inBrackets] at hn
      obtain ⟨n, rfl⟩ : ∃ m, n = m + 1 := ⟨n - 1, by omega⟩
      exact (t.readsAt_of_isPlain h (by omega)).slice allowPlus
  | .array t size, allowPlus, n, h, hn => by
      rw [Ty.isPlain, Bool.and_eq_true] at h
      rw [Ty.tokens, countAll_inBrackets, countAll_append, countAll_append] at hn
      obtain ⟨n, rfl⟩ : ∃ m, n = m + 1 := ⟨n - 1, by omega⟩
      exact (t.readsAt_of_isPlain h.1 (by omega)).array allowPlus (expr_of_isLength h.2 n)
  | .pointer isMut t, allowPlus, n, h, hn => by
      rw [Ty.isPlain] at h
      rw [Ty.tokens, countAll_append, countAll_append] at hn
      have hstar : Token.countAll (sym "*") = 1 := rfl
      obtain ⟨n, rfl⟩ : ∃ m, n = m + 1 := ⟨n - 1, by omega⟩
      exact (t.readsAt_of_isPlain h (by omega)).pointer allowPlus isMut
  | .reference lifetime isMut t, allowPlus, n, h, hn => by
      rw [Ty.isPlain] at h
      rw [Ty.tokens, countAll_append, countAll_append, countAll_append] at hn
      have hand : Token.countAll (sym "&") = 1 := rfl
      obtain ⟨n, rfl⟩ : ∃ m, n = m + 1 := ⟨n - 1, by omega⟩
      exact (t.readsAt_of_isPlain h (by omega)).reference allowPlus lifetime isMut
  | .path (.plain rooted segments), allowPlus, n, h, hn => by
      rw [Ty.isPlain, Bool.and_eq_true] at h
      rw [Ty.tokens, Path.tokens, countAll_append, segmentList_eq_map] at hn
      exact readsAt_path (segmentsRead_of_arePlain segments h.2
        (countAll_tokens_le (sym "::") false (by omega))).1 (by simpa using h.1)
  | .path (.qualified self rooted trait segments), allowPlus, n, h, hn => by
      rw [Ty.isPlain] at h
      simp only [Bool.and_eq_true] at h
      obtain ⟨⟨⟨⟨hself, hrooted⟩, htrait⟩, hne⟩, hsegments⟩ := h
      obtain ⟨hselfCount, htraitCount, hcount⟩ :=
        countAll_qualified self rooted trait segments
      rw [Ty.tokens] at hn
      obtain ⟨n, rfl⟩ : ∃ m, n = m + 1 := ⟨n - 1, by omega⟩
      refine readsAt_qualified (self.readsAt_of_isPlain hself (by omega)) ?_
        (eq_false_of_mayTrail hrooted) ?_ (by simpa using hne)
      · exact (segmentsRead_of_arePlain trait htrait fun s hs =>
          Nat.le_trans (Nat.le_of_lt (htraitCount s hs)) hn).2 rfl
      · exact (segmentsRead_of_arePlain segments hsegments fun s hs =>
          Nat.le_trans (Nat.le_of_lt (hcount s hs)) hn).2 rfl
  | .function ⟨binder, qualifiers, trailing, none⟩ inputs result, allowPlus, n, h, hn => by
      rw [Ty.isPlain] at h
      simp only [Bool.and_eq_true] at h
      obtain ⟨⟨⟨⟨hbinder, hqualifiers⟩, htrailing⟩, hinputs⟩, hresult⟩ := h
      obtain ⟨hcount, hresultCount⟩ :=
        countAll_function ⟨binder, qualifiers, trailing, none⟩ inputs result
      obtain ⟨n, rfl⟩ : ∃ m, n = m + 1 := ⟨n - 1, by omega⟩
      refine readsAt_function hqualifiers (inputsRead_of_arePlain inputs hinputs fun i hi => ?_)
        (eq_false_of_mayTrail htrailing) (readsAt_of_resultIsPlain result hresult (by omega))
        (fun f hf => Fragment.readsAsBinder (Option.all_eq_true _ _ |>.mp hbinder f hf) _) allowPlus
      exact Nat.le_of_lt_succ (Nat.lt_of_lt_of_le (hcount i hi) hn)
  | .implTrait bounds false, allowPlus, n, h, hn => by
      rw [Ty.isPlain, Bool.and_eq_true, Bool.and_eq_true, Bool.or_eq_true, beq_iff_eq] at h
      rw [Ty.tokens, countAll_append, boundList_eq_map, countAll_word] at hn
      obtain ⟨n, rfl⟩ : ∃ m, n = m + 1 := ⟨n - 1, by omega⟩
      exact readsAt_impl (readsAt_of_boundsArePlain bounds h.2
        (countAll_tokens_le (sym "+") false (by omega))) (ne_nil_of_hasTrait h.1.2) h.1.1 h.1.2
  | .traitObject true bounds false, allowPlus, n, h, hn => by
      rw [Ty.isPlain, Bool.and_eq_true, Bool.and_eq_true, Bool.or_eq_true, beq_iff_eq] at h
      rw [Ty.tokens, countAll_append, boundList_eq_map, wordIf, if_pos rfl, countAll_word] at hn
      obtain ⟨n, rfl⟩ : ∃ m, n = m + 1 := ⟨n - 1, by omega⟩
      exact readsAt_dyn (readsAt_of_boundsArePlain bounds h.2
        (countAll_tokens_le (sym "+") false (by omega))) (ne_nil_of_hasTrait h.1.2) h.1.1 h.1.2

theorem readsAt_of_typesArePlain : ∀ (types : List Ty) {n : Nat}, typesArePlain types = true →
    (∀ t ∈ types, Token.countAll t.tokens ≤ n) → ∀ t ∈ types, t.ReadsAt (n + 1) true
  | [], _, _, _ => nofun
  | t :: types, n, h, hn => by
      rw [typesArePlain, Bool.and_eq_true] at h
      obtain ⟨ht, htypes⟩ := List.forall_mem_cons.mp hn
      exact List.forall_mem_cons.mpr
        ⟨t.readsAt_of_isPlain h.1 ht, readsAt_of_typesArePlain types h.2 htypes⟩

theorem readsAt_of_resultIsPlain : ∀ (result : Option Ty) {n : Nat},
    resultIsPlain result = true → Token.countAll (outputTokens result) ≤ n →
    ∀ t ∈ result, t.ReadsAt n false
  | none, _, _, _ => nofun
  | some t, n, h, hn => by
      rw [resultIsPlain] at h
      have harrow : Token.countAll (sym "->") = 2 := rfl
      rw [outputTokens, countAll_append] at hn
      obtain ⟨n, rfl⟩ : ∃ m, n = m + 1 := ⟨n - 1, by omega⟩
      intro t' ht
      obtain rfl : t = t' := Option.some.inj ht
      exact t.readsAt_of_isPlain h (by omega)

theorem inputsRead_of_arePlain : ∀ (inputs : List FnInput) {isFirst : Bool} {n : Nat},
    inputsArePlain isFirst inputs = true → (∀ i ∈ inputs, Token.countAll i.tokens ≤ n) →
    InputsRead (n + 1) isFirst inputs
  | [], _, _, _, _ => trivial
  | .mk attrs name t :: inputs, isFirst, n, h, hn => by
      simp only [inputsArePlain, Bool.and_eq_true, List.isEmpty_iff] at h
      obtain ⟨⟨⟨rfl, hname⟩, ht⟩, hinputs⟩ := h
      obtain ⟨hcount, hrest⟩ := List.forall_mem_cons.mp hn
      have hread := t.readsAt_of_isPlain ht (Nat.le_trans (countAll_input [] name t) hcount)
      refine ⟨?_, inputsRead_of_arePlain inputs hinputs hrest⟩
      cases name with
      | none => exact readsAt_unnamed hread isFirst
      | some name => exact readsAt_named hread hname

theorem readsAt_of_boundsArePlain : ∀ (bounds : List Bound) {n : Nat},
    boundsArePlain bounds = true → (∀ b ∈ bounds, Token.countAll b.tokens ≤ n) →
    ∀ b ∈ bounds, b.ReadsAt (n + 1)
  | [], _, _, _ => nofun
  | .lifetime name :: bounds, n, h, hn => by
      rw [boundsArePlain] at h
      exact List.forall_mem_cons.mpr ⟨readsAt_lifetime n name,
        readsAt_of_boundsArePlain bounds h (List.forall_mem_cons.mp hn).2⟩
  | .trait inParens isMaybe binder (.plain rooted segments) :: bounds, n, h, hn => by
      simp only [boundsArePlain, Bool.and_eq_true] at h
      obtain ⟨⟨⟨⟨hmaybe, hbinder⟩, hne⟩, hsegments⟩, hbounds⟩ := h
      obtain ⟨hcount, hrest⟩ := List.forall_mem_cons.mp hn
      replace hcount := Nat.le_trans (countAll_trait inParens isMaybe binder _) hcount
      rw [Path.tokens, countAll_append, segmentList_eq_map] at hcount
      have hsegments := segmentsRead_of_arePlain segments hsegments (n := n)
        (countAll_tokens_le (sym "::") false (by omega))
      refine List.forall_mem_cons.mpr ⟨?_, readsAt_of_boundsArePlain bounds hbounds hrest⟩
      exact readsAt_trait hsegments.1 (by simpa using hne) inParens
        (by rintro rfl; simpa using hmaybe)
        (fun f hf => Fragment.readsAsBinder (Option.all_eq_true _ _ |>.mp hbinder f hf) _)

theorem segmentsRead_of_arePlain : ∀ (segments : List Segment) {allowParens : Bool} {n : Nat},
    segmentsArePlain allowParens segments = true →
    (∀ s ∈ segments, Token.countAll s.tokens ≤ n) →
    SegmentsRead (.ofFuel n) segments ∧
      (allowParens = false → ∀ s ∈ segments, s.ReadsAs (.ofFuel n) s)
  | [], _, _, _, _ => ⟨.inl nofun, fun _ => nofun⟩
  | .mk name args :: segments, allowParens, n, h, hn => by
      simp only [segmentsArePlain, Bool.and_eq_true] at h
      obtain ⟨⟨hname, hargs⟩, hsegments⟩ := h
      obtain ⟨hcount, hrest⟩ := List.forall_mem_cons.mp hn
      rw [Segment.tokens, countAll_append] at hcount
      obtain ⟨hread, hall⟩ := segmentsRead_of_arePlain segments hsegments hrest
      rcases args.reads_of_isPlain hname hargs (n := n) (by omega) with hfirst | ⟨hparens, hfirst⟩
      · refine ⟨?_, fun hfalse => List.forall_mem_cons.mpr ⟨hfirst, hall hfalse⟩⟩
        rcases hread with hread | ⟨before, last, args', rfl, hbefore, hlast⟩
        · exact .inl (List.forall_mem_cons.mpr ⟨hfirst, hread⟩)
        · exact .inr ⟨.mk name args :: before, last, args', rfl,
            List.forall_mem_cons.mpr ⟨hfirst, hbefore⟩, hlast⟩
      · rw [Bool.and_eq_true, List.isEmpty_iff] at hparens
        obtain ⟨rfl, rfl⟩ := hparens
        exact ⟨.inr ⟨[], name, args, rfl, nofun, isPathWord_of_fitsArgs hname, hfirst⟩, nofun⟩

theorem SegmentArgs.reads_of_isPlain : ∀ (args : SegmentArgs) {name : String}
    {allowParens : Bool} {n : Nat}, fitsArgs name args = true → args.isPlain allowParens = true →
    Token.countAll args.tokens ≤ n →
    (Segment.mk name args).ReadsAs (.ofFuel n) (.mk name args) ∨
      allowParens = true ∧ args.ReadsInParens (.ofFuel n)
  | .none, name, _, n, hname, _, _ =>
      .inl (Segment.readsAs_bare _ (isPathWord_of_fitsArgs hname))
  | .angle turbofish args trailing, name, _, n, hname, h, hn => by
      simp only [SegmentArgs.isPlain, Bool.and_eq_true] at h
      obtain ⟨⟨hlead, htrailing⟩, hargs⟩ := h
      have hangle : Token.countAll (sym "<") = 1 := rfl
      rw [tokens_angle hlead] at hn
      simp only [countAll_append] at hn
      obtain ⟨n, rfl⟩ : ∃ m, n = m + 1 := ⟨n - 1, by omega⟩
      refine .inl (Segment.readsAs_angle (by simpa [fitsArgs] using hname)
        (opensArgs_angle hlead turbofish trailing) ?_)
      exact angleArgs_of_readsAs hlead (List.forall₂_same.mpr (readsAs_of_argsArePlain args hargs
        (countAll_tokens_le comma trailing (by omega)))) turbofish (eq_false_of_mayTrail htrailing)
  | .paren inputs trailing result, name, allowParens, n, hname, h, hn => by
      simp only [SegmentArgs.isPlain, Bool.and_eq_true] at h
      obtain ⟨⟨⟨hparens, htrailing⟩, hinputs⟩, hresult⟩ := h
      rw [SegmentArgs.tokens, countAll_append, countAll_inParens, tyList_eq_map] at hn
      obtain ⟨n, rfl⟩ : ∃ m, n = m + 1 := ⟨n - 1, by omega⟩
      exact .inr ⟨hparens, readsInParens_paren (readsAt_of_typesArePlain inputs hinputs
        (countAll_tokens_le comma trailing (by omega))) (eq_false_of_mayTrail htrailing)
        (readsAt_of_resultIsPlain result hresult (by omega))⟩

theorem readsAs_of_argsArePlain : ∀ (args : List GenericArg) {n : Nat},
    argsArePlain args = true → (∀ a ∈ args, Token.countAll a.tokens ≤ n) →
    ∀ a ∈ args, a.ReadsAs (.ofFuel (n + 1)) a
  | [], _, _, _ => nofun
  | .lifetime name :: args, n, h, hn => by
      rw [argsArePlain] at h
      exact List.forall_mem_cons.mpr ⟨readsAs_lifetime _ name,
        readsAs_of_argsArePlain args h (List.forall_mem_cons.mp hn).2⟩
  | .type t :: args, n, h, hn => by
      rw [argsArePlain, Bool.and_eq_true] at h
      obtain ⟨hcount, hrest⟩ := List.forall_mem_cons.mp hn
      rw [GenericArg.tokens] at hcount
      exact List.forall_mem_cons.mpr ⟨(t.readsAt_of_isPlain h.1 hcount).readsAs,
        readsAs_of_argsArePlain args h.2 hrest⟩
  | .const e :: args, n, h, hn => by
      rw [argsArePlain, Bool.and_eq_true] at h
      exact List.forall_mem_cons.mpr ⟨readsAs_const _ h.1,
        readsAs_of_argsArePlain args h.2 (List.forall_mem_cons.mp hn).2⟩
  | .assocType name args' t :: args, n, h, hn => by
      simp only [argsArePlain, Bool.and_eq_true] at h
      obtain ⟨⟨⟨hname, hargs⟩, ht⟩, hrest⟩ := h
      obtain ⟨hcount, hcounts⟩ := List.forall_mem_cons.mp hn
      rw [GenericArg.tokens, countAll_append, countAll_append, countAll_append, countAll_word]
        at hcount
      have hhead := readsAt_assocHead (args'.reads_of_isPlain hname hargs (n := n) (by omega))
      exact List.forall_mem_cons.mpr ⟨readsAs_assocType (assocName?_of_isPlain name hargs) hhead
        (t.readsAt_of_isPlain ht (by omega)), readsAs_of_argsArePlain args hrest hcounts⟩
  | .assocConst name args' e :: args, n, h, hn => by
      simp only [argsArePlain, Bool.and_eq_true] at h
      obtain ⟨⟨⟨hname, hargs⟩, he⟩, hrest⟩ := h
      obtain ⟨hcount, hcounts⟩ := List.forall_mem_cons.mp hn
      rw [GenericArg.tokens, countAll_append, countAll_append, countAll_append, countAll_word]
        at hcount
      have hhead := readsAt_assocHead (args'.reads_of_isPlain hname hargs (n := n) (by omega))
      exact List.forall_mem_cons.mpr ⟨readsAs_assocConst (assocName?_of_isPlain name hargs) hhead
        he, readsAs_of_argsArePlain args hrest hcounts⟩
  | .constraint name args' bounds trailing :: args, n, h, hn => by
      simp only [argsArePlain, Bool.and_eq_true] at h
      obtain ⟨⟨⟨⟨hname, hargs⟩, htrailing⟩, hbounds⟩, hrest⟩ := h
      obtain ⟨hcount, hcounts⟩ := List.forall_mem_cons.mp hn
      rw [GenericArg.tokens, countAll_append, countAll_append, countAll_append, countAll_word,
        boundList_eq_map] at hcount
      have hhead := readsAt_assocHead (args'.reads_of_isPlain hname hargs (n := n) (by omega))
      have hbounds := readsAt_of_boundsArePlain bounds hbounds (n := n)
        (countAll_tokens_le (sym "+") trailing (by omega))
      exact List.forall_mem_cons.mpr ⟨readsAs_constraint (assocName?_of_isPlain name hargs) hhead
        hbounds (eq_false_of_mayTrail htrailing), readsAs_of_argsArePlain args hrest hcounts⟩

end

end ApiClient.Code
