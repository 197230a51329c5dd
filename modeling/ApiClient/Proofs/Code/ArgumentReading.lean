import ApiClient.Proofs.Code.TraitReading

/-!
Function types and the arguments that are no types: lifetimes, constants, and what an associated
item is.
-/

namespace ApiClient.Code

open ApiClient.Code.Parser Grammar

section

variable {n : Nat} {t : Ty} {ts : List Token}

/-! ### Parameters -/

/-- The rules to a depth read the parameter as itself, in front of further ones or of the end. -/
structure FnInput.ReadsAt (n : Nat) (isFirst : Bool) (i : FnInput) : Prop where
  nonempty (ts : List Token) : (i.tokens ++ ts).isEmpty = false
  hash (ts : List Token) : isOp "#" (i.tokens ++ ts) = false
  variadic {ts : List Token} : EndsItem List.isEmpty ts → startsVariadic (i.tokens ++ ts) = false
  reads {ts : List Token} : EndsItem List.isEmpty ts →
    fnInput (.ofFuel n) isFirst [] (i.tokens ++ ts) = some (i, ts)

/-- What may stand for the name of a parameter. -/
def isInputName (isFirst : Bool) (name : String) : Bool :=
  !reservedWords.contains name || name == "_" || (isFirst && name == "self")

/-- The words that stand for names besides identifiers. -/
def inputWords (isFirst : Bool) : List String := if isFirst then ["_", "self"] else ["_"]

theorem startsNamed_inputWords (isFirst : Bool) (h : startsNamed ["_", "self"] ts = false) :
    startsNamed (inputWords isFirst) ts = false := by
  cases isFirst with
  | true => exact h
  | false =>
      by_contra hnamed
      rw [Bool.not_eq_false, startsNamed, Bool.and_eq_true, Bool.or_eq_true] at hnamed
      obtain ⟨hname, hcolon⟩ := hnamed
      have hwords : (isIdentToken ts || isOneOf ["_", "self"] ts) = true := by
        rcases hname with hident | hunder
        · rw [hident, Bool.true_or]
        · simp_all [isOneOf, inputWords]
      rw [startsNamed, hwords, hcolon] at h
      cases h

theorem readsAt_unnamed (h : t.ReadsAt n true) (isFirst : Bool) :
    (FnInput.mk [] none t).ReadsAt n isFirst := by
  have htokens : (FnInput.mk [] none t).tokens = t.tokens := by
    rw [FnInput.tokens]
    rfl
  refine ⟨fun ts => ?_, fun ts => ?_, fun {ts} hts => ?_, fun {ts} hts => ?_⟩
  · rw [htokens]
    exact (h.leads ts).nonempty
  · rw [htokens]
    exact (h.leads ts).hash
  · rw [htokens]
    exact (h.unnamed hts).variadic
  · rw [htokens]
    have hmut : (isFirst && isWordToken "mut" (t.tokens ++ ts) &&
        isWordToken "self" (skip (t.tokens ++ ts))) = false := by
      rw [(h.leads ts).mutable, Bool.and_false, Bool.false_and]
    have hnamed := startsNamed_inputWords isFirst (h.unnamed hts).named
    exact bind_step rfl (else_step hmut (else_step hnamed
      (bind_step (h.reads (endsType_of_endsItem hts true)) rfl)))

theorem startsNamed_word {isFirst : Bool} {name : String} (h : isInputName isFirst name = true)
    (rest : List Token) :
    startsNamed (inputWords isFirst) (word name ++ (sym ":" ++ rest)) = true := by
  change ((!reservedWords.contains name || isOneOf (inputWords isFirst) (word name ++ _)) && true) =
    true
  rw [Bool.and_true, Bool.or_eq_true]
  rw [isInputName, Bool.or_eq_true, Bool.or_eq_true, Bool.and_eq_true] at h
  rcases h with (hident | hunder) | ⟨rfl, hself⟩
  · exact .inl hident
  · rw [beq_iff_eq.mp hunder]
    exact .inr (isOneOf_word (by cases isFirst <;> decide) _)
  · rw [beq_iff_eq.mp hself]
    exact .inr (isOneOf_word (by decide) _)

theorem readsAt_named (h : t.ReadsAt n true) {isFirst : Bool} {name : String}
    (hname : isInputName isFirst name = true) :
    (FnInput.mk [] (some name) t).ReadsAt n isFirst := by
  have htokens (ts : List Token) :
      (FnInput.mk [] (some name) t).tokens ++ ts = word name ++ (sym ":" ++ (t.tokens ++ ts)) := by
    rw [FnInput.tokens, List.append_assoc]
    rfl
  refine ⟨fun ts => ?_, fun ts => ?_, fun {ts} hts => ?_, fun {ts} hts => ?_⟩
  · rw [htokens]
    rfl
  · rw [htokens]
    rfl
  · rw [htokens]
    change (false || (_ && true && isOp "..." (t.tokens ++ ts))) = false
    rw [(h.leads ts).dots, Bool.and_false]
    rfl
  · rw [htokens]
    have hmut (rest : List Token) : (isFirst && isWordToken "mut" (word name ++ rest) &&
        isWordToken "self" (skip (word name ++ rest))) = false := by
      have hne : isWordToken "mut" (word name ++ rest) = false := by
        rw [isWordToken_word, beq_eq_false_iff_ne]
        rintro rfl
        cases isFirst <;> cases hname
      rw [hne, Bool.and_false, Bool.false_and]
    have hself : ((isFirst && isWordToken "mut" (t.tokens ++ ts) &&
        isWordToken "self" (skip (t.tokens ++ ts))) && name != "self") = false := by
      rw [(h.leads ts).mutable, Bool.and_false, Bool.false_and, Bool.false_and]
    have hty := h.reads (endsType_of_endsItem hts true)
    have hinput (rest : List Token) : inputName (word name ++ (sym ":" ++ rest)) =
        some (name, rest) := rfl
    exact bind_step rfl (else_step (hmut _) (then_step (startsNamed_word hname _) (bind_step (hinput _)
      (bind_step rfl (else_step hself (bind_step hty rfl))))))

/-- Parameters that are read as themselves, each at its place. -/
def InputsRead (n : Nat) : Bool → List FnInput → Prop
  | _, [] => True
  | isFirst, i :: rest => i.ReadsAt n isFirst ∧ InputsRead n false rest

theorem fnInputs_eq_map (inputs : List FnInput) :
    Code.fnInputs inputs = inputs.map FnInput.tokens := by
  induction inputs with
  | nil => rw [Code.fnInputs, List.map_nil]
  | cons i inputs ih => rw [Code.fnInputs, ih, List.map_cons]

theorem attributes_eq_nil {g : Grammar} (h : isOp "#" ts = false) :
    attributes g ts = some ([], ts) :=
  bind_step rfl (bind_step rfl (else_step h rfl))

theorem fnInputs_last {i : FnInput} {isFirst : Bool} (h : i.ReadsAt n isFirst) (k : Nat) :
    fnInputs.loop (.ofFuel n) isFirst (k + 1) i.tokens = some (([i], false, none), []) := by
  have hts : EndsItem List.isEmpty [] := .inl (by rfl)
  have hempty := h.nonempty []
  have hhash := h.hash []
  have hvariadic := h.variadic hts
  have hread := h.reads hts
  rw [List.append_nil] at hempty hhash hvariadic hread
  exact bind_step rfl (else_step hempty (bind_step (attributes_eq_nil hhash) (bind_step rfl
    (else_step hvariadic (bind_step hread rfl)))))

theorem fnInputs_cons {i : FnInput} {isFirst : Bool} (h : i.ReadsAt n isFirst)
    {inputs : List FnInput} {trailing : Bool} {k : Nat} {rest : List Token}
    (hrest : fnInputs.loop (.ofFuel n) false k rest = some ((inputs, trailing, none), [])) :
    fnInputs.loop (.ofFuel n) isFirst (k + 1) (i.tokens ++ (comma ++ rest)) =
      some ((i :: inputs, trailing, none), []) := by
  have hts : EndsItem List.isEmpty (comma ++ rest) := .inr ⟨rest, rfl⟩
  exact bind_step rfl (else_step (h.nonempty _) (bind_step (attributes_eq_nil (h.hash _))
    (bind_step rfl (else_step (h.variadic hts) (bind_step (h.reads hts) (bind_step rfl
      (else_step rfl (bind_step rfl (bind_step hrest rfl)))))))))

theorem fnInputs_loop {inputs : List FnInput} {isFirst : Bool} (h : InputsRead n isFirst inputs)
    (trailing : Bool) {k : Nat} (hk : inputs.length < k) :
    fnInputs.loop (.ofFuel n) isFirst k (separated comma trailing (inputs.map FnInput.tokens)) =
      some ((inputs, if inputs.isEmpty then !isFirst else trailing, none), []) := by
  induction inputs generalizing isFirst k with
  | nil =>
      obtain ⟨k, rfl⟩ : ∃ m, k = m + 1 := ⟨k - 1, by simp at hk; omega⟩
      rfl
  | cons i inputs ih =>
      obtain ⟨hinput, hrest⟩ := h
      obtain ⟨k, rfl⟩ : ∃ m, k = m + 1 := ⟨k - 1, by omega⟩
      have hloop := ih hrest (k := k) (by simpa using hk)
      rw [List.isEmpty_cons, if_neg Bool.false_ne_true]
      cases inputs with
      | nil =>
          cases trailing with
          | false => exact fnInputs_last hinput k
          | true => exact fnInputs_cons hinput hloop
      | cons next inputs =>
          rw [List.map_cons, List.map_cons, separated_cons_cons]
          exact fnInputs_cons hinput hloop

theorem InputsRead.ne_nil {inputs : List FnInput} {isFirst : Bool}
    (h : InputsRead n isFirst inputs) : ∀ part ∈ inputs.map FnInput.tokens, part ≠ [] := by
  induction inputs generalizing isFirst with
  | nil => exact nofun
  | cons i inputs ih =>
      rw [List.map_cons]
      refine List.forall_mem_cons.mpr ⟨?_, ih h.2⟩
      intro hnil
      have hempty := h.1.nonempty []
      rw [hnil] at hempty
      cases hempty

/-- The parameters of a function type, perhaps with a comma behind the last. -/
theorem fnInputs_reads {inputs : List FnInput} (h : InputsRead n true inputs) {trailing : Bool}
    (hempty : inputs = [] → trailing = false) :
    Grammar.fnInputs (.ofFuel n) (separated comma trailing (inputs.map FnInput.tokens)) =
      some ((inputs, trailing, none), []) := by
  have hlength := length_le_length_separated (List.cons_ne_nil (Token.punct ',' false) [])
    trailing h.ne_nil []
  rw [List.append_nil, List.length_map] at hlength
  have hflag : (if inputs.isEmpty then !true else trailing) = trailing := by
    cases inputs with
    | nil => exact (hempty rfl).symm
    | cons => rfl
  have hloop := fnInputs_loop h trailing (Nat.lt_add_one_of_le hlength)
  rw [hflag] at hloop
  exact bind_step rfl hloop

/-! ### Function types -/

/-- What may stand in front of `fn` in a type. -/
def FnQualifiers.isTyped (q : FnQualifiers) : Bool :=
  !q.isConst && !q.isAsync && match q.abi with
    | some (some l) => l.kind = .string
    | _ => true

theorem fnType_reads {q : FnQualifiers} (hq : q.isTyped = true) {inputs : List FnInput}
    (hinputs : InputsRead n true inputs) {trailing : Bool}
    (hempty : inputs = [] → trailing = false) {result : Option Ty}
    (hresult : ∀ t ∈ result, t.ReadsAt n false) (binder : Option Fragment)
    (hts : EndsType false ts) :
    let tokens := q.tokens ++ (inParens (separated comma trailing (inputs.map FnInput.tokens)) ++
      (outputTokens result ++ ts))
    startsFn tokens = true ∧
      fnType (.ofFuel n) binder tokens =
        some (.function ⟨binder, q, trailing, none⟩ inputs result, ts) := by
  have hinside := inside_group (d := .paren) (fnInputs_reads hinputs hempty)
    (outputTokens result ++ ts)
  have hout := output_of_readsAt hresult hts
  obtain ⟨isConst, isAsync, isUnsafe, abi⟩ := q
  simp only [FnQualifiers.isTyped, Bool.and_eq_true, Bool.not_eq_true'] at hq
  obtain ⟨⟨rfl, rfl⟩, habi⟩ := hq
  -- the tokens of the qualifiers are known once they are
  rcases abi with _ | _ | l
  · cases isUnsafe <;> exact ⟨rfl, bind_step rfl (bind_step rfl (bind_step rfl
      (bind_step hinside (bind_step hout rfl))))⟩
  · cases isUnsafe <;> exact ⟨rfl, bind_step rfl (bind_step rfl (bind_step rfl
      (bind_step hinside (bind_step hout rfl))))⟩
  · obtain ⟨kind, text⟩ := l
    obtain rfl : kind = .string := of_decide_eq_true habi
    cases isUnsafe <;> exact ⟨rfl, bind_step rfl (bind_step rfl (bind_step rfl
      (bind_step hinside (bind_step hout rfl))))⟩

/-- The word that a function type begins with when it has no binder. -/
theorem tokens_qualifiers {q : FnQualifiers} (hq : q.isTyped = true) (ts : List Token) :
    ∃ w rest, (w = "unsafe" ∨ w = "extern" ∨ w = "fn") ∧ q.tokens ++ ts = word w ++ rest := by
  obtain ⟨isConst, isAsync, isUnsafe, abi⟩ := q
  simp only [FnQualifiers.isTyped, Bool.and_eq_true, Bool.not_eq_true'] at hq
  obtain ⟨⟨rfl, rfl⟩, -⟩ := hq
  cases isUnsafe with
  | true => exact ⟨_, _, .inl rfl, rfl⟩
  | false =>
      rcases abi with _ | _ | l
      · exact ⟨_, _, .inr (.inr rfl), rfl⟩
      · exact ⟨_, _, .inr (.inl rfl), rfl⟩
      · exact ⟨_, _, .inr (.inl rfl), rfl⟩

theorem readsAt_function {q : FnQualifiers} (hq : q.isTyped = true) {inputs : List FnInput}
    (hinputs : InputsRead n true inputs) {trailing : Bool}
    (hempty : inputs = [] → trailing = false) {result : Option Ty}
    (hresult : ∀ t ∈ result, t.ReadsAt n false) {binder : Option Fragment}
    (hbinder : ∀ f ∈ binder, f.ReadsAsBinder (.ofFuel n)) (allowPlus : Bool) :
    (Ty.function ⟨binder, q, trailing, none⟩ inputs result).ReadsAt (n + 1) allowPlus := by
  have htokens (ts : List Token) :
      (Ty.function ⟨binder, q, trailing, none⟩ inputs result).tokens ++ ts =
        Fragment.optionTokens binder ++ (q.tokens ++ (inParens (separated comma trailing
          (inputs.map FnInput.tokens)) ++ (outputTokens result ++ ts))) := by
    have hnone : Fragment.optionTokens none = [] := rfl
    rw [Ty.tokens, fnInputs_eq_map, hnone, List.append_nil]
    simp only [List.append_assoc]
  have hleads (ts : List Token) : ∃ w rest, (w = "for" ∨ w = "unsafe" ∨ w = "extern" ∨ w = "fn") ∧
      Fragment.optionTokens binder ++ (q.tokens ++ ts) = word w ++ rest := by
    cases binder with
    | none =>
        obtain ⟨w, rest, hw, hword⟩ := tokens_qualifiers hq ts
        exact ⟨w, rest, .inr hw, hword⟩
    | some f =>
        obtain ⟨rest, hfor⟩ := (hbinder f rfl).leads
        exact ⟨"for", _, .inl rfl, by rw [Fragment.optionTokens, hfor, List.append_assoc]⟩
  refine ⟨fun ts => ?_, fun {ts} _ => ?_, fun {ts} hts => ?_⟩
  · rw [htokens]
    obtain ⟨w, rest, hw, hword⟩ := hleads _
    rw [hword]
    rcases hw with rfl | rfl | rfl | rfl <;> exact ⟨rfl, rfl, rfl, rfl, rfl, rfl, rfl, rfl⟩
  · rw [htokens]
    obtain ⟨w, rest, hw, hword⟩ := hleads _
    rw [hword]
    rcases hw with rfl | rfl | rfl | rfl <;> exact ⟨rfl, rfl⟩
  · rw [htokens]
    obtain ⟨hstarts, hread⟩ := fnType_reads hq hinputs hempty hresult binder hts.noPlus
    cases binder with
    | none =>
        rw [Fragment.optionTokens, List.nil_append]
        obtain ⟨w, rest, hw, hword⟩ := tokens_qualifiers hq
          (inParens (separated comma trailing (inputs.map FnInput.tokens)) ++
            (outputTokens result ++ ts))
        rw [hword] at hread ⊢
        rcases hw with rfl | rfl | rfl <;> exact bind_step rfl (bind_step rfl hread)
    | some f =>
        exact bind_step ((hbinder f rfl).reads _) (bind_step rfl (then_step hstarts hread))

/-! ### Binders -/

/-- `for<…>` with lifetimes. -/
def lifetimeBinder (names : List String) (trailing : Bool) : Fragment :=
  GenericParams.binder ⟨names.map fun name => .lifetime [] name [] false, trailing⟩

theorem tokens_lifetimeParam (name : String) :
    (GenericParam.lifetime [] name [] false).tokens = Token.lifetime name := rfl

theorem readsAsBinder_lifetimes (g : Grammar) {names : List String} {trailing : Bool}
    (hempty : names = [] → trailing = false) :
    (lifetimeBinder names trailing).ReadsAsBinder g := by
  refine ⟨⟨_, rfl⟩, fun ts => ?_⟩
  have hitems : List.Forall₂ (fun part p => ∀ ts, EndsItem (isOp ">") ts →
      isOp ">" (part ++ ts) = false ∧
        (do genericParam g (← attributes g) : Parser GenericParam) (part ++ ts) = some (p, ts))
      ((names.map fun name => GenericParam.lifetime [] name [] false).map GenericParam.tokens)
      (names.map fun name => .lifetime [] name [] false) := by
    rw [List.forall₂_map_left_iff, List.forall₂_same]
    intro p hp ts hts
    obtain ⟨name, -, rfl⟩ := List.mem_map.mp hp
    rw [tokens_lifetimeParam]
    have hcolon : opIf ":" ts = some (false, ts) := opIf_eq_false (endsArgument_ne hts).2
    exact ⟨rfl, bind_step (attributes_eq_nil rfl)
      (bind_step rfl (bind_step rfl (bind_step hcolon rfl)))⟩
  have hlist := separatedUntil_separated trailing (sym ">" ++ ts) (fun ts => rfl) rfl
    hitems (fun hnil => hempty (List.map_eq_nil_iff.mp (List.map_eq_nil_iff.mp hnil)))
  have htokens : (lifetimeBinder names trailing).tokens ++ ts =
      word "for" ++ (sym "<" ++ (separated comma trailing
        ((names.map fun name => GenericParam.lifetime [] name [] false).map GenericParam.tokens)
        ++ (sym ">" ++ ts))) := by
    rw [lifetimeBinder, GenericParams.binder]
    simp only [List.append_assoc]
  rw [htokens]
  exact bind_step rfl (bind_step rfl (bind_step hlist (bind_step rfl rfl)))

/-- The names of the lifetimes among some tokens. -/
def lifetimeNames : List Token → List String
  | .punct '\'' _ :: .ident name :: rest => name :: lifetimeNames rest
  | _ :: rest => lifetimeNames rest
  | [] => []

/-- Whether there are the same tokens, and no groups among them. -/
def sameFlat : List Token → List Token → Bool
  | [], [] => true
  | .ident name :: ts, .ident name' :: ts' => name == name' && sameFlat ts ts'
  | .punct c joint :: ts, .punct c' joint' :: ts' =>
    c == c' && joint == joint' && sameFlat ts ts'
  | _, _ => false

theorem eq_of_sameFlat {ts ts' : List Token} (h : sameFlat ts ts' = true) : ts = ts' := by
  fun_induction sameFlat ts ts' with
  | case1 => rfl
  | case2 name ts name' ts' ih =>
      rw [Bool.and_eq_true, beq_iff_eq] at h
      rw [h.1, ih h.2]
  | case3 c joint ts c' joint' ts' ih =>
      rw [Bool.and_eq_true, Bool.and_eq_true, beq_iff_eq, beq_iff_eq] at h
      rw [h.1.1, h.1.2, ih h.2]
  | case4 => cases h

/-- Whether a binder has lifetimes alone, and no comma behind the last. -/
def Fragment.isLifetimeBinder (f : Fragment) : Bool :=
  let binder := lifetimeBinder (lifetimeNames f.tokens) false
  sameFlat f.tokens binder.tokens && f.layout == binder.layout

theorem Fragment.readsAsBinder {f : Fragment} (h : f.isLifetimeBinder = true) (g : Grammar) :
    f.ReadsAsBinder g := by
  rw [isLifetimeBinder, Bool.and_eq_true, beq_iff_eq] at h
  obtain ⟨htokens, hlayout⟩ := h
  have heq : f = lifetimeBinder (lifetimeNames f.tokens) false := by
    rw [Fragment.mk.injEq]
    exact ⟨eq_of_sameFlat htokens, hlayout⟩
  rw [heq]
  exact readsAsBinder_lifetimes g fun _ => rfl

/-! ### Arguments -/

theorem readsAs_lifetime (g : Grammar) (name : String) :
    (GenericArg.lifetime name).ReadsAs g (.lifetime name) := by
  intro ts hts
  rw [GenericArg.tokens]
  have hplus : isOp "+" ts = false := by simpa using (endsType_of_endsArgument hts true).plus
  have hlone : (isLifetime (Token.lifetime name ++ ts) &&
      !isOp "+" (skip (Token.lifetime name ++ ts))) = true := by
    change (true && !isOp "+" ts) = true
    rw [hplus]
    rfl
  exact ⟨rfl, bind_step rfl (then_step hlone rfl)⟩

/-- What may stand for a constant: a literal. -/
def Expr.isConstant : Expr → Bool
  | .lit _ | .bool _ => true
  | .unary .neg (.lit l) => l.kind == .integer || l.kind == .float
  | _ => false

theorem constArgument_reads (g : Grammar) {e : Expr} (h : e.isConstant = true) (ts : List Token) :
    isLifetime (e.tokens ++ ts) = false ∧ isOp ">" (e.tokens ++ ts) = false ∧
      startsConst (e.tokens ++ ts) = true ∧ constArgument g (e.tokens ++ ts) = some (e, ts) := by
  fun_cases Expr.isConstant e with
  | case1 l =>
      rw [Expr.tokens]
      exact ⟨rfl, rfl, rfl, rfl⟩
  | case2 value =>
      rw [Expr.tokens]
      cases value <;> exact ⟨rfl, rfl, rfl, rfl⟩
  | case3 l =>
      have htokens : (Expr.unary .neg (.lit l)).tokens = [.punct '-' false, .literal l] := by
        rw [Expr.tokens, Expr.tokens]
        rfl
      rw [Expr.isConstant] at h
      rw [htokens]
      exact ⟨rfl, rfl, by rw [startsConst, Bool.or_eq_true]; exact .inl h,
        bind_step rfl (then_step h (bind_step rfl (guardThat_step h rfl)))⟩
  | case4 => simp_all [Expr.isConstant]

theorem readsAs_const (g : Grammar) {e : Expr} (h : e.isConstant = true) :
    (GenericArg.const e).ReadsAs g (.const e) := by
  intro ts hts
  rw [GenericArg.tokens]
  obtain ⟨hlifetime, hangle, hstarts, hconst⟩ := constArgument_reads g h ts
  exact ⟨hangle, bind_step rfl (else_step (by rw [hlifetime]; rfl)
    (then_step hstarts (bind_step hconst rfl)))⟩

/-- The name of an associated item, with its arguments. -/
def assocHead (name : String) (args : SegmentArgs) : Ty := .path (.plain false [.mk name args])

theorem tokens_assocHead (name : String) (args : SegmentArgs) :
    (assocHead name args).tokens = word name ++ args.tokens := by
  simp [assocHead, Ty.tokens, Path.tokens, segmentList, Segment.tokens, separated]

section

variable {name : String} {args : SegmentArgs}

theorem readsAs_assocType (hassoc : assocName? (assocHead name args) = some (name, args))
    (hhead : (assocHead name args).ReadsAt n true) (ht : t.ReadsAt n true) :
    (GenericArg.assocType name args t).ReadsAs (.ofFuel n) (.assocType name args t) := by
  intro ts hts
  have hends : EndsType true (sym "=" ++ (t.tokens ++ ts)) := ⟨⟨rfl, rfl⟩, rfl, rfl, rfl, rfl⟩
  have hread := hhead.reads hends
  have hleads := hhead.leads (sym "=" ++ (t.tokens ++ ts))
  rw [tokens_assocHead] at hread hleads
  rw [GenericArg.tokens]
  simp only [List.append_assoc] at hread hleads ⊢
  refine ⟨hleads.angle, bind_step rfl (else_step (by rw [hleads.lifetime]; rfl)
    (else_step hleads.const (bind_step hread ?_)))⟩
  rw [hassoc]
  exact bind_step rfl (bind_step rfl (else_step (ht.leads ts).const
    (bind_step (ht.reads (endsType_of_endsArgument hts true)) rfl)))

theorem readsAs_assocConst (hassoc : assocName? (assocHead name args) = some (name, args))
    (hhead : (assocHead name args).ReadsAt n true) {e : Expr} (he : e.isConstant = true) :
    (GenericArg.assocConst name args e).ReadsAs (.ofFuel n) (.assocConst name args e) := by
  intro ts hts
  have hends : EndsType true (sym "=" ++ (e.tokens ++ ts)) := ⟨⟨rfl, rfl⟩, rfl, rfl, rfl, rfl⟩
  have hread := hhead.reads hends
  have hleads := hhead.leads (sym "=" ++ (e.tokens ++ ts))
  rw [tokens_assocHead] at hread hleads
  rw [GenericArg.tokens]
  simp only [List.append_assoc] at hread hleads ⊢
  obtain ⟨-, -, hstarts, hconst⟩ := constArgument_reads (.ofFuel n) he ts
  refine ⟨hleads.angle, bind_step rfl (else_step (by rw [hleads.lifetime]; rfl)
    (else_step hleads.const (bind_step hread ?_)))⟩
  rw [hassoc]
  exact bind_step rfl (bind_step rfl (then_step hstarts (bind_step hconst rfl)))

/-- Bounds of an associated type, perhaps none and perhaps with a plus sign behind the last. -/
theorem readsAs_constraint (hassoc : assocName? (assocHead name args) = some (name, args))
    (hhead : (assocHead name args).ReadsAt n true) {bounds : List Bound}
    (hbounds : ∀ b ∈ bounds, b.ReadsAt n) {trailing : Bool}
    (hempty : bounds = [] → trailing = false) :
    (GenericArg.constraint name args bounds trailing).ReadsAs (.ofFuel n)
      (.constraint name args bounds trailing) := by
  intro ts hts
  have hends : EndsType true (sym ":" ++ (separated (sym "+") trailing
      (bounds.map Bound.tokens) ++ ts)) := ⟨⟨rfl, rfl⟩, rfl, rfl, rfl, rfl⟩
  have hread := hhead.reads hends
  have hleads := hhead.leads (sym ":" ++ (separated (sym "+") trailing
    (bounds.map Bound.tokens) ++ ts))
  have hstop : (isOp "," ts || isOp ">" ts) = true := by
    rcases hts with hangle | ⟨rest, rfl⟩
    · rw [hangle, Bool.or_true]
    · rfl
  have hpass {ts : List Token} (h : LeadsBound ts) : (isOp "," ts || isOp ">" ts) = false := by
    rw [h.comma, h.angle]
    rfl
  have hwhile := whileSeparated_bounds hbounds hempty (fun ts => isOp "," ts || isOp ">" ts) hpass
    (endsType_of_endsArgument hts true) (fun _ => hstop) false true
  rw [tokens_assocHead] at hread hleads
  rw [GenericArg.tokens, boundList_eq_map]
  simp only [List.append_assoc] at hread hleads ⊢
  refine ⟨hleads.angle, bind_step rfl (else_step (by rw [hleads.lifetime]; rfl)
    (else_step hleads.const (bind_step hread ?_)))⟩
  rw [hassoc]
  exact bind_step rfl (bind_step rfl (bind_step hwhile rfl))

end

end

end ApiClient.Code
