import ApiClient.Proofs.Code.GrammarOrder

/-!
Deeper grammars. The rules of expressions, statements and items keep the order of grammars as well,
so each further level reads whatever the level before it reads: how deep a grammar is matters only
as long as it is not deep enough.
-/

namespace ApiClient.Code.Grammar

open ApiClient.Code.Parser

variable {g g' : Grammar}

/-! ### Expressions -/

theorem rightOperandRule_extend_mono (h : g.Below g') (allowRecord : Bool) (precedence : Nat)
    (e : Expr) (n : Nat) :
    rightOperandRule.extend g allowRecord precedence e n ≤
      rightOperandRule.extend g' allowRecord precedence e n := by
  induction n generalizing e with
  | zero => rfl
  | succ n ih =>
      unfold rightOperandRule.extend
      dsimp only
      gcongr
      exact ih _

@[gcongr]
theorem rightOperandRule_mono (h : g.Below g') (allowRecord : Bool) (precedence : Nat) :
    rightOperandRule g allowRecord precedence ≤ rightOperandRule g' allowRecord precedence := by
  unfold rightOperandRule
  gcongr
  exact rightOperandRule_extend_mono h _ _ _ _

@[gcongr]
theorem rangeTail_mono (h : g.Below g') (allowRecord : Bool) :
    rangeTail g allowRecord ≤ rangeTail g' allowRecord := by
  unfold rangeTail
  gcongr

@[gcongr]
theorem climbRule_mono (h : g.Below g') (lhs : Expr) (allowRecord : Bool) (base : Nat) :
    climbRule g lhs allowRecord base ≤ climbRule g' lhs allowRecord base := by
  unfold climbRule
  repeat' first | gcongr | split

@[gcongr]
theorem afterDot_plainMember_mono (h : g.Below g') (e : Expr) :
    afterDot.plainMember g e ≤ afterDot.plainMember g' e := by
  unfold afterDot.plainMember
  dsimp only
  repeat' first | gcongr | split

@[gcongr]
theorem afterDot_mono (h : g.Below g') (e : Expr) : afterDot g e ≤ afterDot g' e := by
  unfold afterDot
  repeat' first | gcongr | split

theorem trailers_loop_mono (h : g.Below g') (e : Expr) (n : Nat) :
    trailers.loop g e n ≤ trailers.loop g' e n := by
  induction n generalizing e with
  | zero => rfl
  | succ n ih =>
      unfold trailers.loop
      gcongr <;> exact ih _

@[gcongr]
theorem trailers_mono (h : g.Below g') (e : Expr) : trailers g e ≤ trailers g' e := by
  unfold trailers
  gcongr
  exact trailers_loop_mono h _ _

@[gcongr]
theorem closureInput_mono (h : g.Below g') : closureInput g ≤ closureInput g' := by
  unfold closureInput
  gcongr

@[gcongr]
theorem closure_mono (h : g.Below g') (allowRecord : Bool) :
    closure g allowRecord ≤ closure g' allowRecord := by
  unfold closure
  dsimp only
  gcongr

@[gcongr]
theorem fieldValue_mono (h : g.Below g') : fieldValue g ≤ fieldValue g' := by
  unfold fieldValue
  gcongr

@[gcongr]
theorem record_mono (h : g.Below g') (p : Path) : record g p ≤ record g' p := by
  unfold record
  dsimp only
  gcongr

@[gcongr]
theorem pathExpr_mono (h : g.Below g') (allowRecord : Bool) :
    pathExpr g allowRecord ≤ pathExpr g' allowRecord := by
  unfold pathExpr
  repeat' first | gcongr | split

@[gcongr]
theorem parenExpr_mono (h : g.Below g') : parenExpr g ≤ parenExpr g' := by
  unfold parenExpr
  gcongr

@[gcongr]
theorem bracketExpr_mono (h : g.Below g') : bracketExpr g ≤ bracketExpr g' := by
  unfold bracketExpr
  gcongr

@[gcongr]
theorem condition_mono (h : g.Below g') (n : Nat) : condition g n ≤ condition g' n := by
  induction n with
  | zero => rfl
  | succ n ih =>
      unfold condition
      gcongr

@[gcongr]
theorem arm_mono (h : g.Below g') : arm g ≤ arm g' := by
  unfold arm
  dsimp only
  gcongr

@[gcongr]
theorem whileLoop_mono (h : g.Below g') (label : Option String) :
    whileLoop g label ≤ whileLoop g' label := by
  unfold whileLoop
  gcongr

@[gcongr]
theorem forLoop_mono (h : g.Below g') (label : Option String) :
    forLoop g label ≤ forLoop g' label := by
  unfold forLoop
  gcongr

@[gcongr]
theorem endlessLoop_mono (h : g.Below g') (label : Option String) :
    endlessLoop g label ≤ endlessLoop g' label := by
  unfold endlessLoop
  gcongr

@[gcongr]
theorem labeled_mono (h : g.Below g') : labeled g ≤ labeled g' := by
  unfold labeled
  dsimp only
  gcongr

@[gcongr]
theorem matchOn_mono (h : g.Below g') : matchOn g ≤ matchOn g' := by
  unfold matchOn
  gcongr

@[gcongr]
theorem jumpValue_mono (h : g.Below g') : jumpValue g ≤ jumpValue g' := by
  unfold jumpValue
  gcongr

@[gcongr]
theorem breakOut_mono (h : g.Below g') (allowRecord : Bool) :
    breakOut g allowRecord ≤ breakOut g' allowRecord := by
  unfold breakOut
  gcongr

@[gcongr]
theorem letTest_mono (h : g.Below g') (allowRecord : Bool) :
    letTest g allowRecord ≤ letTest g' allowRecord := by
  unfold letTest
  gcongr

@[gcongr]
theorem tailCall_mono (h : g.Below g') : tailCall g ≤ tailCall g' := by
  unfold tailCall
  gcongr

@[gcongr]
theorem atom_mono (h : g.Below g') (allowRecord : Bool) :
    atom g allowRecord ≤ atom g' allowRecord := by
  unfold atom
  dsimp only
  gcongr

@[gcongr]
theorem appended_mono (h : g.Below g') (allowRecord : Bool) (start : List Token)
    (attrs : List Attribute) :
    appended g allowRecord start attrs ≤ appended g' allowRecord start attrs := by
  unfold appended
  gcongr

@[gcongr]
theorem operandRule_mono (h : g.Below g') (allowRecord : Bool) :
    operandRule g allowRecord ≤ operandRule g' allowRecord := by
  unfold operandRule
  repeat' first | gcongr | split

@[gcongr]
theorem earlyRule_mono (h : g.Below g') : earlyRule g ≤ earlyRule g' := by
  unfold earlyRule
  dsimp only
  gcongr

/-! ### Statements -/

@[gcongr]
theorem letStmt_mono (h : g.Below g') (attrs : List Attribute) :
    letStmt g attrs ≤ letStmt g' attrs := by
  unfold letStmt
  dsimp only
  gcongr

@[gcongr]
theorem exprStmt_mono (h : g.Below g') (attrs : List Attribute) :
    exprStmt g attrs ≤ exprStmt g' attrs := by
  unfold exprStmt
  gcongr

@[gcongr]
theorem stmt_mono (h : g.Below g') : stmt g ≤ stmt g' := by
  unfold stmt
  dsimp only
  repeat' first | gcongr | split

theorem stmtsRule_loop_mono (h : g.Below g') (n : Nat) :
    stmtsRule.loop g n ≤ stmtsRule.loop g' n := by
  induction n with
  | zero => rfl
  | succ n ih =>
      unfold stmtsRule.loop
      gcongr

@[gcongr]
theorem stmtsRule_mono (h : g.Below g') : stmtsRule g ≤ stmtsRule g' := by
  unfold stmtsRule
  gcongr
  exact stmtsRule_loop_mono h _

/-! ### Functions -/

@[gcongr]
theorem valueIf_mono (h : g.Below g') : valueIf g ≤ valueIf g' := by
  unfold valueIf
  gcongr

@[gcongr]
theorem boundsIf_mono (h : g.Below g') (stop : List Token → Bool) :
    boundsIf g stop ≤ boundsIf g' stop := by
  unfold boundsIf
  gcongr

@[gcongr]
theorem bracedItems_mono (h : g.Below g') {item item' : Parser Item} (hitem : item ≤ item') :
    bracedItems g item ≤ bracedItems g' item' := by
  unfold bracedItems
  gcongr

theorem parameters_loop_mono (h : g.Below g') (isFirst : Bool) (n : Nat) :
    parameters.loop g isFirst n ≤ parameters.loop g' isFirst n := by
  induction n generalizing isFirst with
  | zero => rfl
  | succ n ih =>
      unfold parameters.loop
      repeat' first | gcongr | exact ih _ | split

@[gcongr]
theorem parameters_mono (h : g.Below g') : parameters g ≤ parameters g' := by
  unfold parameters
  gcongr
  exact parameters_loop_mono h _ _

@[gcongr]
theorem signature_mono (h : g.Below g') (allowSafe : Bool) :
    signature g allowSafe ≤ signature g' allowSafe := by
  unfold signature
  dsimp only
  gcongr

@[gcongr]
theorem functionItem_mono (h : g.Below g') : functionItem g ≤ functionItem g' := by
  unfold functionItem
  dsimp only
  gcongr

@[gcongr]
theorem declaredFunction_mono (h : g.Below g') : declaredFunction g ≤ declaredFunction g' := by
  unfold declaredFunction
  dsimp only
  gcongr

/-! ### Items -/

@[gcongr]
theorem constItem_mono (h : g.Below g') (needsValue : Bool) :
    constItem g needsValue ≤ constItem g' needsValue := by
  unfold constItem
  dsimp only
  gcongr

@[gcongr]
theorem staticItem_mono (h : g.Below g') : staticItem g ≤ staticItem g' := by
  unfold staticItem
  gcongr

@[gcongr]
theorem typeDeclaration_mono (h : g.Below g') (place : ConditionsPlace) :
    typeDeclaration g place ≤ typeDeclaration g' place := by
  unfold typeDeclaration
  dsimp only
  repeat' first | gcongr | split

@[gcongr]
theorem typeAlias_mono (h : g.Below g') : typeAlias g ≤ typeAlias g' := by
  unfold typeAlias
  gcongr

@[gcongr]
theorem namelessStruct_mono (h : g.Below g') : namelessStruct g ≤ namelessStruct g' := by
  unfold namelessStruct
  gcongr

@[gcongr]
theorem namedField_mono (h : g.Below g') : namedField g ≤ namedField g' := by
  unfold namedField
  dsimp only
  gcongr

@[gcongr]
theorem recordFieldsRule_mono (h : g.Below g') : recordFieldsRule g ≤ recordFieldsRule g' := by
  unfold recordFieldsRule
  gcongr

@[gcongr]
theorem tupleFields_mono (h : g.Below g') : tupleFields g ≤ tupleFields g' := by
  unfold tupleFields
  gcongr

@[gcongr]
theorem structItem_mono (h : g.Below g') : structItem g ≤ structItem g' := by
  unfold structItem
  dsimp only
  gcongr

@[gcongr]
theorem unionItem_mono (h : g.Below g') : unionItem g ≤ unionItem g' := by
  unfold unionItem
  dsimp only
  gcongr

@[gcongr]
theorem variant_mono (h : g.Below g') : variant g ≤ variant g' := by
  unfold variant
  dsimp only
  gcongr

@[gcongr]
theorem enumItem_mono (h : g.Below g') : enumItem g ≤ enumItem g' := by
  unfold enumItem
  dsimp only
  gcongr

@[gcongr]
theorem traitItem_mono (h : g.Below g') : traitItem g ≤ traitItem g' := by
  unfold traitItem
  dsimp only
  gcongr

@[gcongr]
theorem implItem_mono (h : g.Below g') : implItem g ≤ implItem g' := by
  unfold implItem
  dsimp only
  gcongr

@[gcongr]
theorem foreignFunction_mono (h : g.Below g') : foreignFunction g ≤ foreignFunction g' := by
  unfold foreignFunction
  dsimp only
  gcongr

@[gcongr]
theorem foreignStatic_mono (h : g.Below g') : foreignStatic g ≤ foreignStatic g' := by
  unfold foreignStatic
  dsimp only
  gcongr

@[gcongr]
theorem foreignItem_mono (h : g.Below g') : foreignItem g ≤ foreignItem g' := by
  unfold foreignItem
  dsimp only
  gcongr

@[gcongr]
theorem foreignMod_mono (h : g.Below g') : foreignMod g ≤ foreignMod g' := by
  unfold foreignMod
  repeat' first | gcongr | split

@[gcongr]
theorem anyItem_mono (h : g.Below g') : anyItem g ≤ anyItem g' := by
  unfold anyItem
  gcongr

@[gcongr]
theorem moduleItem_mono (h : g.Below g') : moduleItem g ≤ moduleItem g' := by
  unfold moduleItem
  dsimp only
  gcongr

@[gcongr]
theorem traitRest_mono (h : g.Below g') (isUnsafe isAuto : Bool) (name : String)
    (params : GenericParams) :
    traitRest g isUnsafe isAuto name params ≤ traitRest g' isUnsafe isAuto name params := by
  unfold traitRest
  repeat' first | gcongr | split

@[gcongr]
theorem traitDeclaration_mono (h : g.Below g') : traitDeclaration g ≤ traitDeclaration g' := by
  unfold traitDeclaration
  dsimp only
  gcongr

@[gcongr]
theorem implHead_mono (h : g.Below g') (isNegative : Bool) :
    implHead g isNegative ≤ implHead g' isNegative := by
  unfold implHead
  gcongr

@[gcongr]
theorem implementation_mono (h : g.Below g') (access : Access) :
    implementation g access ≤ implementation g' access := by
  unfold implementation
  dsimp only
  gcongr

@[gcongr]
theorem externItem_mono (h : g.Below g') (access : Access) :
    externItem g access ≤ externItem g' access := by
  unfold externItem
  gcongr

@[gcongr]
theorem unsafeItem_mono (h : g.Below g') (access : Access) :
    unsafeItem g access ≤ unsafeItem g' access := by
  unfold unsafeItem
  dsimp only
  gcongr

@[gcongr]
theorem itemKind_mono (h : g.Below g') (access : Access) :
    itemKind g access ≤ itemKind g' access := by
  unfold itemKind
  dsimp only
  gcongr

@[gcongr]
theorem itemRule_mono (h : g.Below g') (start : List Token) (attrs : List Attribute) :
    itemRule g start attrs ≤ itemRule g' start attrs := by
  unfold itemRule
  gcongr

/-! ### A parameter

A receiver that is not read up to its end, because the grammar is not deep enough for its type, could
be read as a parameter with a pattern instead. It is not: behind the pattern stands the same type.
-/

theorem receiver_mono (hty : g.ty true ≤ g'.ty true) (attrs : List Attribute) :
    receiver g attrs ≤ receiver g' attrs := by
  unfold receiver
  dsimp only
  gcongr

theorem typedParameter_mono (hty : g.ty true ≤ g'.ty true) (hpat : g.patSingle ≤ g'.patSingle)
    (attrs : List Attribute) : typedParameter g attrs ≤ typedParameter g' attrs := by
  unfold typedParameter
  gcongr

theorem parameter_mono (hty : g.ty true ≤ g'.ty true) (hpat : g.patSingle ≤ g'.patSingle)
    {attrs : List Attribute} (h : ∀ {ts y}, receiver g attrs ts = none →
      receiver g' attrs ts = some y → typedParameter g attrs ts = none) (isFirst : Bool) :
    parameter g isFirst attrs ≤ parameter g' isFirst attrs := by
  intro ts y hy
  unfold parameter at hy ⊢
  obtain ⟨_, _, hget, hy⟩ := bind_eq_some.mp hy
  cases hget
  refine bind_eq_some.mpr ⟨ts, ts, rfl, ?_⟩
  cases hr : receiver g attrs ts with
  | some z =>
      rw [hr] at hy
      rwa [receiver_mono hty attrs ts z hr]
  | none =>
      rw [hr] at hy
      replace hy : typedParameter g attrs ts = some y := hy
      cases hr' : receiver g' attrs ts with
      | none => exact typedParameter_mono hty hpat attrs ts y hy
      | some z => exact absurd ((h hr hr').symm.trans hy) nofun

/-- Receivers are read in different ways only where their types are. -/
theorem receiver_differs {attrs : List Attribute} {ts : List Token} {y : Parameter × List Token}
    (hnone : receiver g attrs ts = none) (hsome : receiver g' attrs ts = some y) :
    ∃ isMut joint rest, ts = wordIf isMut "mut" ++ (word "self" ++ .punct ':' joint :: rest) ∧
      g.ty true rest = none ∧ ∃ z, g'.ty true rest = some z := by
  unfold receiver at hnone hsome
  obtain ⟨isRef, ts₀, hamp, hnone, hsome⟩ := bind_differs hnone hsome
  cases isRef with
  | true =>
      obtain ⟨reference, ts₁, href, hnone, hsome⟩ := bind_differs hnone hsome
      obtain ⟨isMut, ts₂, -, hnone, hsome⟩ := bind_differs hnone hsome
      obtain ⟨_, ts₃, -, hnone, -⟩ := bind_differs hnone hsome
      rw [← bind_pure_comp] at href
      obtain ⟨name, _, -, href⟩ := bind_eq_some.mp href
      cases href
      cases hnone
  | false =>
      obtain ⟨_, ts₁, href, hnone, hsome⟩ := bind_differs hnone hsome
      cases href
      obtain ⟨isMut, ts₂, hmut, hnone, hsome⟩ := bind_differs hnone hsome
      obtain ⟨_, ts₃, hself, hnone, hsome⟩ := bind_differs hnone hsome
      obtain ⟨hasType, rest, hcolon, hnone, hsome⟩ := bind_differs hnone hsome
      cases hasType with
      | false => cases hnone
      | true =>
      obtain ⟨t, rest', ht, -⟩ := bind_eq_some.mp hsome
      have hty : g.ty true rest = none := by
        cases hty : g.ty true rest with
        | none => rfl
        | some y => exact absurd ((bind_step hty rfl).symm.trans hnone) nofun
      obtain ⟨-, -, rfl⟩ | ⟨h, -⟩ := opIf_eq_some hamp
      · obtain ⟨h, -⟩ | ⟨-, hafter⟩ := opIf_eq_some hcolon
        · cases h
        · obtain ⟨joint, _, rfl, hrest, -⟩ := eq_of_afterOp? (c := ':') hafter
          obtain rfl : _ = rest := Option.some.inj hrest
          refine ⟨isMut, joint, _, ?_, hty, _, ht⟩
          rw [keywordIf_eq_some hmut, keyword_eq_some hself]
      · cases h

theorem eq_of_isOp_colons {joint : Bool} {ts : List Token}
    (h : isOp "::" (.punct ':' joint :: ts) = true) :
    ∃ joint' ts', joint = true ∧ ts = .punct ':' joint' :: ts' := by
  obtain ⟨rest, hafter⟩ : ∃ rest, afterOp? [':', ':'] (.punct ':' joint :: ts) = some rest :=
    Option.isSome_iff_exists.mp h
  obtain ⟨_, _, heq, hafter, hjoint⟩ := eq_of_afterOp? hafter
  cases heq
  obtain ⟨joint', ts', rfl, -, -⟩ := eq_of_afterOp? hafter
  exact ⟨joint', ts', hjoint (List.cons_ne_nil _ _), rfl⟩

/-- A type that begins with a colon begins with two. -/
theorem tyRule_colon {joint : Bool} {ts : List Token} {y : Ty × List Token}
    (h : tyRule g true (.punct ':' joint :: ts) = some y) :
    ∃ joint' ts', joint = true ∧ ts = .punct ':' joint' :: ts' := by
  refine eq_of_isOp_colons ?_
  by_contra hop
  have hplain : (startsPlainPath (.punct ':' joint :: ts) ||
      isOp "<" (.punct ':' joint :: ts)) = false := by
    rw [startsPlainPath, Bool.not_eq_true _ |>.mp hop]
    rfl
  have hnone : tyRule g true (.punct ':' joint :: ts) = none :=
    bind_step rfl (bind_step rfl (else_step rfl (else_step rfl (else_step hplain rfl))))
  cases hnone.symm.trans h

/-- In front of the colon of a type, `self` is a pattern. -/
theorem patSingleRule_self {isMut joint : Bool} {ts rest : List Token} {p : Pat}
    {y : Ty × List Token} (hty : tyRule g' true ts = some y)
    (h : patSingleRule g (wordIf isMut "mut" ++ (word "self" ++ .punct ':' joint :: ts)) =
      some (p, rest)) : rest = .punct ':' joint :: ts := by
  cases isMut with
  | true =>
      have hself : patSingleRule g (word "mut" ++ (word "self" ++ .punct ':' joint :: ts)) =
          some (.ident false true "self", .punct ':' joint :: ts) := rfl
      cases hself.symm.trans h
      rfl
  | false =>
      cases hop : isOp "::" (.punct ':' joint :: ts) with
      | false =>
          have hpath : startsPathPat (word "self" ++ .punct ':' joint :: ts) = false := by
            change ((false && _) || (true && isOp "::" (.punct ':' joint :: ts)) || false || false
              || false) = false
            rw [hop]
            rfl
          have hself : patSingleRule g (word "self" ++ .punct ':' joint :: ts) =
              some (.ident false false "self", .punct ':' joint :: ts) :=
            bind_step rfl (else_step hpath rfl)
          cases hself.symm.trans h
          rfl
      | true =>
          -- two colons would begin a path, and there would be a third one in front of the type
          obtain ⟨_, _, rfl, rfl⟩ := eq_of_isOp_colons hop
          obtain ⟨joint', ts', rfl, rfl⟩ := tyRule_colon hty
          have hnone : patSingleRule g (word "self" ++ (.punct ':' true :: .punct ':' true ::
            .punct ':' joint' :: ts')) = none := rfl
          cases hnone.symm.trans h

theorem typedParameter_eq_none {isMut joint : Bool} {ts : List Token} {y : Ty × List Token}
    (hnone : tyRule g true ts = none) (hsome : tyRule g' true ts = some y)
    (attrs : List Attribute) : typedParameter (next g) attrs
      (wordIf isMut "mut" ++ (word "self" ++ .punct ':' joint :: ts)) = none := by
  by_contra hne
  obtain ⟨z, hz⟩ := Option.ne_none_iff_exists'.mp hne
  unfold typedParameter at hz
  obtain ⟨_, _, hget, hz⟩ := bind_eq_some.mp hz
  cases hget
  have hident : (isIdentToken (wordIf isMut "mut" ++ (word "self" ++ .punct ':' joint :: ts)) &&
      isOp "<" (skip (wordIf isMut "mut" ++ (word "self" ++ .punct ':' joint :: ts)))) = false := by
    cases isMut <;> rfl
  rw [hident] at hz
  obtain ⟨p, _, hp, hbehind⟩ := bind_eq_some.mp hz
  obtain rfl := patSingleRule_self hsome hp
  obtain ⟨_, _, hcolon, htype⟩ := bind_eq_some.mp hbehind
  cases hcolon
  obtain ⟨_, _, hdots, hend⟩ := bind_eq_some.mp htype
  obtain ⟨rfl, -, rfl⟩ | ⟨rfl, hafter⟩ := opIf_eq_some hdots
  · obtain ⟨t, _, ht, -⟩ := bind_eq_some.mp hend
    cases hnone.symm.trans ht
  · obtain ⟨joint', ts', rfl, -, -⟩ := eq_of_afterOp? (c := '.') hafter
    have hdot : tyRule g' true (.punct '.' joint' :: ts') = none := by
      cases joint' <;> rfl
    cases hdot.symm.trans hsome

/-! ### Depth -/

theorem empty_below (g : Grammar) : empty.Below g where
  ty _ := failure_le _
  bound _ _ := failure_le _
  expr _ := failure_le _
  operand _ := failure_le _
  climb _ _ _ := failure_le _
  rightOperand _ _ := failure_le _
  early := failure_le _
  stmts := failure_le _
  pat := failure_le _
  patSingle := failure_le _
  item _ _ := failure_le _
  recordFields := failure_le _
  parameter isFirst attrs := by
    refine parameter_mono (failure_le _) (failure_le _) (fun {ts _} _ _ => ?_) isFirst
    unfold typedParameter
    refine bind_step rfl ?_
    split <;> rfl

/-- One level more on both sides keeps the order. -/
theorem next_mono (h : g.Below g') : (next g).Below (next g') where
  ty := tyRule_mono h
  bound := boundRule_mono h
  expr allowRecord :=
    bind_mono (operandRule_mono h allowRecord) fun lhs => climbRule_mono h lhs allowRecord _
  operand := operandRule_mono h
  climb := climbRule_mono h
  rightOperand := rightOperandRule_mono h
  early := earlyRule_mono h
  stmts := stmtsRule_mono h
  pat := patRule_mono h
  patSingle := patSingleRule_mono h
  item := itemRule_mono h
  recordFields := recordFieldsRule_mono h
  parameter isFirst attrs := by
    refine parameter_mono (tyRule_mono h true) (patSingleRule_mono h) (fun hnone hsome => ?_) isFirst
    obtain ⟨isMut, joint, rest, rfl, hty, _, hty'⟩ := receiver_differs hnone hsome
    exact typedParameter_eq_none hty hty' attrs

/-- Whatever a grammar reads, a deeper one reads in the same way. -/
theorem ofFuel_below {n m : Nat} (h : n ≤ m) : (ofFuel n).Below (ofFuel m) := by
  induction n generalizing m with
  | zero => exact empty_below (ofFuel m)
  | succ n ih =>
      obtain ⟨k, rfl⟩ := Nat.exists_eq_add_of_le' h
      exact next_mono (ih (Nat.le_add_left n k))

end ApiClient.Code.Grammar
