import ApiClient.Proofs.Code.Parsing
import Mathlib.Order.Basic
import Mathlib.Tactic.GCongr

/-!
Parsers in order. One is below another when the other reads whatever it reads, and in the same way.
The combinators that rules are made of keep this order, and so do the rules of types and patterns: a
grammar whose parsers are below those of another one makes rules that are below theirs.
-/

namespace ApiClient.Code

/-! ### Combinators -/

namespace Parser

variable {α β : Type}

instance : Preorder (Parser α) where
  le p q := ∀ ts x, p ts = some x → q ts = some x
  le_refl _ _ _ h := h
  le_trans _ _ _ hpq hqr ts x h := hqr ts x (hpq ts x h)

theorem failure_le (p : Parser α) : failure ≤ p := fun _ _ h => nomatch h

@[gcongr]
theorem bind_mono {p p' : Parser α} {f f' : α → Parser β} (hp : p ≤ p') (hf : ∀ x, f x ≤ f' x) :
    p >>= f ≤ p' >>= f' := by
  intro ts y h
  obtain ⟨x, rest, hx, hy⟩ := bind_eq_some.mp h
  exact bind_eq_some.mpr ⟨x, rest, hp ts _ hx, hf x rest y hy⟩

@[gcongr]
theorem map_mono (f : α → β) {p p' : Parser α} (hp : p ≤ p') : f <$> p ≤ f <$> p' := by
  rw [← bind_pure_comp, ← bind_pure_comp]
  gcongr

@[gcongr]
theorem ite_mono {c : Prop} [Decidable c] {p p' q q' : Parser α} (hp : p ≤ p') (hq : q ≤ q') :
    (if c then p else q) ≤ if c then p' else q' := by
  split
  · exact hp
  · exact hq

section

variable {p p' : Parser α}

theorem run?_mono (hp : p ≤ p') {ts : List Token} {x : α} (h : run? p ts = some x) :
    run? p' ts = some x := by
  rw [run?] at h ⊢
  split at h
  case h_1 y hy => rwa [hp ts _ hy]
  case h_2 => cases h

theorem lift_run?_mono (hp : p ≤ p') (body : List Token) :
    (liftM (run? p body) : Parser α) ≤ liftM (run? p' body) := by
  intro ts y h
  change (run? p body).bind _ = some y at h
  obtain ⟨x, hx, hy⟩ := Option.bind_eq_some_iff.mp h
  exact Option.bind_eq_some_iff.mpr ⟨x, run?_mono hp hx, hy⟩

@[gcongr]
theorem inside_mono (d : Delimiter) (hp : p ≤ p') : inside d p ≤ inside d p' := by
  unfold inside
  repeat' first | gcongr | exact lift_run?_mono hp _ | split

@[gcongr]
theorem optionally_mono (test : List Token → Bool) (hp : p ≤ p') :
    optionally test p ≤ optionally test p' := by
  unfold optionally
  gcongr

theorem separatedUntil_loop_mono (sep : String) (stop : List Token → Bool) (hp : p ≤ p') (n : Nat) :
    separatedUntil.loop sep stop p n ≤ separatedUntil.loop sep stop p' n := by
  induction n with
  | zero => rfl
  | succ n ih =>
      unfold separatedUntil.loop
      gcongr

@[gcongr]
theorem separatedUntil_mono (sep : String) (stop : List Token → Bool) (hp : p ≤ p') :
    separatedUntil sep stop p ≤ separatedUntil sep stop p' := by
  have hloop := separatedUntil_loop_mono sep stop hp
  unfold separatedUntil
  gcongr
  exact hloop _

@[gcongr]
theorem commaList_mono (hp : p ≤ p') : commaList p ≤ commaList p' :=
  separatedUntil_mono "," List.isEmpty hp

theorem whileSeparated_loop_mono (sep : String) (stop : List Token → Bool) (hp : p ≤ p') (n : Nat) :
    whileSeparated.loop sep stop p n ≤ whileSeparated.loop sep stop p' n := by
  induction n with
  | zero => rfl
  | succ n ih =>
      unfold whileSeparated.loop
      gcongr

@[gcongr]
theorem whileSeparated_mono (sep : String) (stop : List Token → Bool) (hp : p ≤ p') :
    whileSeparated sep stop p ≤ whileSeparated sep stop p' := by
  unfold whileSeparated
  gcongr
  exact whileSeparated_loop_mono sep stop hp _

theorem manyWhile_loop_mono (test : List Token → Bool) (hp : p ≤ p') (n : Nat) :
    manyWhile.loop test p n ≤ manyWhile.loop test p' n := by
  induction n with
  | zero => rfl
  | succ n ih =>
      unfold manyWhile.loop
      gcongr

@[gcongr]
theorem manyWhile_mono (test : List Token → Bool) (hp : p ≤ p') :
    manyWhile test p ≤ manyWhile test p' := by
  unfold manyWhile
  gcongr
  exact manyWhile_loop_mono test hp _

end

end Parser

/-! ### Grammars -/

namespace Grammar

open ApiClient.Code.Parser

/-- The parsers of a grammar are below those of another one. So is the rule for a parameter, which
is the only one that tries something and goes on in another way where that fails. -/
structure Below (g g' : Grammar) : Prop where
  ty (allowPlus : Bool) : g.ty allowPlus ≤ g'.ty allowPlus
  bound (allowCapture allowConst : Bool) :
    g.bound allowCapture allowConst ≤ g'.bound allowCapture allowConst
  expr (allowRecord : Bool) : g.expr allowRecord ≤ g'.expr allowRecord
  operand (allowRecord : Bool) : g.operand allowRecord ≤ g'.operand allowRecord
  climb (lhs : Expr) (allowRecord : Bool) (base : Nat) :
    g.climb lhs allowRecord base ≤ g'.climb lhs allowRecord base
  rightOperand (allowRecord : Bool) (precedence : Nat) :
    g.rightOperand allowRecord precedence ≤ g'.rightOperand allowRecord precedence
  early : g.early ≤ g'.early
  stmts : g.stmts ≤ g'.stmts
  pat : g.pat ≤ g'.pat
  patSingle : g.patSingle ≤ g'.patSingle
  item (start : List Token) (attrs : List Attribute) : g.item start attrs ≤ g'.item start attrs
  recordFields : g.recordFields ≤ g'.recordFields
  parameter (isFirst : Bool) (attrs : List Attribute) :
    parameter g isFirst attrs ≤ parameter g' isFirst attrs

attribute [gcongr] Below.ty Below.bound Below.expr Below.operand Below.climb Below.rightOperand
  Below.early Below.stmts Below.pat Below.patSingle Below.item Below.recordFields Below.parameter

variable {g g' : Grammar}

/-! ### Attributes and blocks -/

@[gcongr]
theorem attributeValue_mono (h : g.Below g') : attributeValue g ≤ attributeValue g' := by
  unfold attributeValue
  gcongr

@[gcongr]
theorem attributeBody_mono (h : g.Below g') : attributeBody g ≤ attributeBody g' := by
  unfold attributeBody
  dsimp only
  repeat' first | gcongr | split

@[gcongr]
theorem attributes_mono (h : g.Below g') : attributes g ≤ attributes g' := by
  unfold attributes
  gcongr

@[gcongr]
theorem innerAttributes_mono (h : g.Below g') : innerAttributes g ≤ innerAttributes g' := by
  unfold innerAttributes
  gcongr

@[gcongr]
theorem block_mono (h : g.Below g') : block g ≤ block g' := by
  unfold block
  gcongr

@[gcongr]
theorem bareBlock_mono (h : g.Below g') : bareBlock g ≤ bareBlock g' := by
  unfold bareBlock
  gcongr

/-! ### Paths -/

@[gcongr]
theorem constArgument_mono (h : g.Below g') : constArgument g ≤ constArgument g' := by
  unfold constArgument
  gcongr

@[gcongr]
theorem genericArg_mono (h : g.Below g') : genericArg g ≤ genericArg g' := by
  unfold genericArg
  repeat' first | gcongr | split

@[gcongr]
theorem angleArgs_mono (h : g.Below g') : angleArgs g ≤ angleArgs g' := by
  unfold angleArgs
  gcongr

@[gcongr]
theorem output_mono (h : g.Below g') (allowPlus : Bool) :
    output g allowPlus ≤ output g' allowPlus := by
  unfold output
  gcongr

@[gcongr]
theorem parenArgs_mono (h : g.Below g') : parenArgs g ≤ parenArgs g' := by
  unfold parenArgs
  dsimp only
  gcongr

@[gcongr]
theorem segment_mono (h : g.Below g') (inExpr : Bool) : segment g inExpr ≤ segment g' inExpr := by
  unfold segment
  gcongr

@[gcongr]
theorem moreSegments_mono (h : g.Below g') (inExpr : Bool) (more : List Token → Bool) :
    moreSegments g inExpr more ≤ moreSegments g' inExpr more := by
  unfold moreSegments
  gcongr

@[gcongr]
theorem plain_mono (h : g.Below g') (inExpr : Bool) : plain g inExpr ≤ plain g' inExpr := by
  unfold plain
  gcongr

@[gcongr]
theorem path_mono (h : g.Below g') (inExpr : Bool) : path g inExpr ≤ path g' inExpr := by
  unfold path
  dsimp only
  repeat' first | gcongr | split

@[gcongr]
theorem addParenArgs_mono (h : g.Below g') (p : Path) : addParenArgs g p ≤ addParenArgs g' p := by
  unfold addParenArgs
  gcongr

@[gcongr]
theorem traitPath_mono (h : g.Below g') : traitPath g ≤ traitPath g' := by
  unfold traitPath
  gcongr

theorem typePath_loop_mono (h : g.Below g') (p : Path) (n : Nat) :
    typePath.loop g p n ≤ typePath.loop g' p n := by
  induction n generalizing p with
  | zero => rfl
  | succ n ih =>
      unfold typePath.loop
      repeat' first | gcongr | exact ih _ | split

@[gcongr]
theorem typePath_mono (h : g.Below g') : typePath g ≤ typePath g' := by
  unfold typePath
  gcongr
  exact typePath_loop_mono h _ _

/-! ### Generics -/

@[gcongr]
theorem typeParam_mono (h : g.Below g') (attrs : List Attribute) :
    typeParam g attrs ≤ typeParam g' attrs := by
  unfold typeParam
  dsimp only
  gcongr

@[gcongr]
theorem constParam_mono (h : g.Below g') (attrs : List Attribute) :
    constParam g attrs ≤ constParam g' attrs := by
  unfold constParam
  dsimp only
  gcongr

@[gcongr]
theorem genericParam_mono (h : g.Below g') (attrs : List Attribute) :
    genericParam g attrs ≤ genericParam g' attrs := by
  unfold genericParam
  gcongr

@[gcongr]
theorem itemParam_mono (h : g.Below g') : itemParam g ≤ itemParam g' := by
  unfold itemParam
  gcongr

@[gcongr]
theorem genericParams_mono (h : g.Below g') : genericParams g ≤ genericParams g' := by
  unfold genericParams
  gcongr

@[gcongr]
theorem binderIf_mono (h : g.Below g') : binderIf g ≤ binderIf g' := by
  unfold binderIf
  gcongr

@[gcongr]
theorem typePredicate_mono (h : g.Below g') : typePredicate g ≤ typePredicate g' := by
  unfold typePredicate
  gcongr

@[gcongr]
theorem wherePredicate_mono (h : g.Below g') : wherePredicate g ≤ wherePredicate g' := by
  unfold wherePredicate
  gcongr

@[gcongr]
theorem whereIf_mono (h : g.Below g') : whereIf g ≤ whereIf g' := by
  unfold whereIf
  gcongr

/-! ### Types -/

@[gcongr]
theorem traitBound_mono (h : g.Below g') (inParens allowConst : Bool) :
    traitBound g inParens allowConst ≤ traitBound g' inParens allowConst := by
  unfold traitBound
  dsimp only
  gcongr

@[gcongr]
theorem boundRule_mono (h : g.Below g') (allowCapture allowConst : Bool) :
    boundRule g allowCapture allowConst ≤ boundRule g' allowCapture allowConst := by
  unfold boundRule
  dsimp only
  gcongr

@[gcongr]
theorem moreBounds_mono (h : g.Below g') (allowCapture allowConst : Bool) :
    moreBounds g allowCapture allowConst ≤ moreBounds g' allowCapture allowConst := by
  unfold moreBounds
  gcongr

@[gcongr]
theorem boundSum_mono (h : g.Below g') (allowPlus allowCapture allowConst : Bool) :
    boundSum g allowPlus allowCapture allowConst ≤ boundSum g' allowPlus allowCapture allowConst := by
  unfold boundSum
  gcongr

@[gcongr]
theorem boundsAfterPlus_mono (h : g.Below g') : boundsAfterPlus g ≤ boundsAfterPlus g' := by
  unfold boundsAfterPlus
  gcongr

@[gcongr]
theorem bareObject_mono (h : g.Below g') : bareObject g ≤ bareObject g' := by
  unfold bareObject
  gcongr

@[gcongr]
theorem implTrait_mono (h : g.Below g') (allowPlus : Bool) :
    implTrait g allowPlus ≤ implTrait g' allowPlus := by
  unfold implTrait
  gcongr

@[gcongr]
theorem dynTrait_mono (h : g.Below g') (allowPlus : Bool) :
    dynTrait g allowPlus ≤ dynTrait g' allowPlus := by
  unfold dynTrait
  gcongr

@[gcongr]
theorem fnInput_mono (h : g.Below g') (isFirst : Bool) (attrs : List Attribute) :
    fnInput g isFirst attrs ≤ fnInput g' isFirst attrs := by
  unfold fnInput
  dsimp only
  gcongr

theorem fnInputs_loop_mono (h : g.Below g') (isFirst : Bool) (n : Nat) :
    fnInputs.loop g isFirst n ≤ fnInputs.loop g' isFirst n := by
  induction n generalizing isFirst with
  | zero => rfl
  | succ n ih =>
      unfold fnInputs.loop
      gcongr
      exact ih _

@[gcongr]
theorem fnInputs_mono (h : g.Below g') : fnInputs g ≤ fnInputs g' := by
  unfold fnInputs
  gcongr
  exact fnInputs_loop_mono h _ _

@[gcongr]
theorem fnType_mono (h : g.Below g') (binder : Option Fragment) :
    fnType g binder ≤ fnType g' binder := by
  unfold fnType
  dsimp only
  gcongr

@[gcongr]
theorem pathType_mono (h : g.Below g') (binder : Option Fragment) (allowPlus : Bool) :
    pathType g binder allowPlus ≤ pathType g' binder allowPlus := by
  unfold pathType
  dsimp only
  repeat' first | gcongr | split

@[gcongr]
theorem parenContent_mono (h : g.Below g') : parenContent g ≤ parenContent g' := by
  unfold parenContent
  dsimp only
  repeat' first | gcongr | split

@[gcongr]
theorem parenType_mono (h : g.Below g') (allowPlus : Bool) :
    parenType g allowPlus ≤ parenType g' allowPlus := by
  unfold parenType
  repeat' first | gcongr | split

@[gcongr]
theorem bracketType_mono (h : g.Below g') : bracketType g ≤ bracketType g' := by
  unfold bracketType
  gcongr

@[gcongr]
theorem pointerType_mono (h : g.Below g') : pointerType g ≤ pointerType g' := by
  unfold pointerType
  gcongr

@[gcongr]
theorem referenceType_mono (h : g.Below g') : referenceType g ≤ referenceType g' := by
  unfold referenceType
  gcongr

@[gcongr]
theorem tyRule_mono (h : g.Below g') (allowPlus : Bool) :
    tyRule g allowPlus ≤ tyRule g' allowPlus := by
  unfold tyRule
  repeat' first | gcongr | split

/-! ### Patterns -/

@[gcongr]
theorem rangeBound_mono (h : g.Below g') : rangeBound g ≤ rangeBound g' := by
  unfold rangeBound
  gcongr

@[gcongr]
theorem rangeEnd_mono (h : g.Below g') (closed : Bool) :
    rangeEnd g closed ≤ rangeEnd g' closed := by
  unfold rangeEnd
  gcongr

@[gcongr]
theorem fieldPat_mono (h : g.Below g') (attrs : List Attribute) :
    fieldPat g attrs ≤ fieldPat g' attrs := by
  unfold fieldPat
  repeat' first | gcongr | split

theorem fieldPats_loop_mono (h : g.Below g') (afterComma : Bool) (n : Nat) :
    fieldPats.loop g afterComma n ≤ fieldPats.loop g' afterComma n := by
  induction n generalizing afterComma with
  | zero => rfl
  | succ n ih =>
      unfold fieldPats.loop
      gcongr
      exact ih _

@[gcongr]
theorem fieldPats_mono (h : g.Below g') : fieldPats g ≤ fieldPats g' := by
  unfold fieldPats
  gcongr
  exact fieldPats_loop_mono h _ _

@[gcongr]
theorem pathPat_mono (h : g.Below g') : pathPat g ≤ pathPat g' := by
  unfold pathPat
  repeat' first | gcongr | split

@[gcongr]
theorem identPat_mono (h : g.Below g') : identPat g ≤ identPat g' := by
  unfold identPat
  gcongr

@[gcongr]
theorem literalPat_mono (h : g.Below g') : literalPat g ≤ literalPat g' := by
  unfold literalPat
  repeat' first | gcongr | split

@[gcongr]
theorem openRangePat_mono (h : g.Below g') : openRangePat g ≤ openRangePat g' := by
  unfold openRangePat
  gcongr

@[gcongr]
theorem parenPat_mono (h : g.Below g') : parenPat g ≤ parenPat g' := by
  unfold parenPat
  gcongr

@[gcongr]
theorem slicePat_mono (h : g.Below g') : slicePat g ≤ slicePat g' := by
  unfold slicePat
  gcongr

@[gcongr]
theorem boxPat_mono (h : g.Below g') : boxPat g ≤ boxPat g' := by
  unfold boxPat
  gcongr

@[gcongr]
theorem patSingleRule_mono (h : g.Below g') : patSingleRule g ≤ patSingleRule g' := by
  unfold patSingleRule
  gcongr

@[gcongr]
theorem patRule_mono (h : g.Below g') : patRule g ≤ patRule g' := by
  unfold patRule
  gcongr

end Grammar

end ApiClient.Code
