import ApiClient.Proofs.Code.GrammarDepth
import ApiClient.Proofs.Code.PlainTypes
import ApiClient.Proofs.Code.Splicing

/-!
Types among generic arguments. The rules of types are local, one by one; so a type whose tokens are
read again where they stand alone is read as an argument wherever it is written as one.
-/

namespace ApiClient.Code

open ApiClient.Code.Parser

namespace Grammar

/-- The types and bounds of a grammar are read in the same way wherever `more` stands behind, and
there has to be something to read them from. -/
structure LocalTypes (more : List Token) (g : Grammar) : Prop where
  ends : EndsArgument more
  ty (allowPlus : Bool) : Local more (g.ty allowPlus)
  bound (allowCapture allowConst : Bool) : Local more (g.bound allowCapture allowConst)
  ty_nil (allowPlus : Bool) : g.ty allowPlus [] = none
  bound_nil (allowCapture allowConst : Bool) : g.bound allowCapture allowConst [] = none

section

variable {more : List Token} {g : Grammar}

/-! ### Stops -/

theorem lasts_angle : Lasts more (isOp ">") := ⟨isOp_append_of_ne_nil rfl, nofun⟩

theorem endsArgument_or (h : EndsArgument more) : isOp "," more = true ∨ isOp ">" more = true := by
  rcases h with hangle | ⟨rest, rfl⟩
  · exact .inr hangle
  · exact .inl rfl

/-- What stops at both marks. -/
theorem lasts_marks : Lasts more fun ts => isOp "," ts || isOp ">" ts where
  ahead hts := by rw [isOp_append_of_ne_nil rfl hts, isOp_append_of_ne_nil rfl hts]
  atEnd := nofun

theorem lasts_endOrMarks (h : EndsArgument more) :
    Lasts more fun ts => ts.isEmpty || isOp "," ts || isOp ">" ts where
  ahead {ts} hts := by
    rw [isOp_append_of_ne_nil rfl hts, isOp_append_of_ne_nil rfl hts,
      List.isEmpty_eq_false_iff.mpr hts]
    rw [List.isEmpty_eq_false_iff.mpr (List.append_ne_nil_of_left_ne_nil hts more)]
  atEnd _ := by rcases endsArgument_or h with h | h <;> simp [h]

theorem lasts_endsParamBounds (h : EndsArgument more) : Lasts more endsParamBounds where
  ahead {ts} hts := by
    exact congrArg₂ (· || ·) ((lasts_endOrMarks h).ahead hts) (isOp_append_of_ne_nil rfl hts)
  atEnd _ := by rcases endsArgument_or h with h | h <;> simp [endsParamBounds, h]

theorem startsBound_append (h : EndsArgument more) (allowConst : Bool) (ts : List Token) :
    startsBound allowConst (ts ++ more) = startsBound allowConst ts := by
  simp only [startsBound, isParen, isBracket, isAnyIdent_append h, isLifetime_append h,
    isGroup_append h, isOp_append (s := "::") h rfl, isOp_append (s := "?") h rfl]

/-! ### Paths -/

theorem constArgument_local (h : g.LocalTypes more) : Local more (constArgument g) := by
  intro ts
  refine .get (.ite (isLiteralToken_append h.ends ts) (Local.literalExpr ts) ?_)
  refine .ite (isIdentToken_append h.ends ts) ?_ ?_
  · exact .bind (Local.ident h.ends ts) fun _ _ => .pure _
  · exact .bind (Local.inside .brace _ ts) fun _ _ => .pure _

theorem startsConst_append (h : EndsArgument more) (ts : List Token) :
    startsConst (ts ++ more) = startsConst ts := by
  rw [startsConst, isLiteralToken_append h, isBrace, isGroup_append h]
  rfl

theorem isLoneLifetime_append (h : EndsArgument more) (ts : List Token) :
    (isLifetime (ts ++ more) && !isOp "+" (skip (ts ++ more))) =
      (isLifetime ts && !isOp "+" (skip ts)) := by
  rw [isLifetime_append h]
  cases hts : isLifetime ts with
  | false => rfl
  | true =>
      obtain ⟨name, ts, rfl⟩ := eq_of_isLifetime hts
      exact congrArg (true && !·) (isOp_append h rfl ts)

theorem genericArg_local (h : g.LocalTypes more) : Local more (genericArg g) := by
  intro ts
  refine .get (.ite (isLoneLifetime_append h.ends ts) ?_ (.ite (startsConst_append h.ends ts) ?_ ?_))
  · exact .bind (Local.lifetime ts) fun _ _ => .pure _
  · exact .bind (constArgument_local h ts) fun _ _ => .pure _
  · refine .bind (h.ty true ts) fun t rest => ?_
    cases assocName? t with
    | none => exact .pure _
    | some named =>
        refine .bind (Local.opIf h.ends rfl (by decide) rest) fun hasValue rest => .ite rfl ?_ ?_
        · refine .get (.ite (startsConst_append h.ends rest) ?_ ?_)
          · exact .bind (constArgument_local h rest) fun _ _ => .pure _
          · exact .bind (h.ty true rest) fun _ _ => .pure _
        · refine .bind (Local.opIf h.ends rfl (by decide) rest) fun hasBounds rest => .ite rfl ?_
            (.pure _)
          exact .bind (Local.whileSeparated h.ends lasts_marks (h.bound false true)
            (h.bound_nil false true) rest) fun _ _ => .pure _

theorem genericArg_nil (h : g.LocalTypes more) : genericArg g [] = none :=
  bind_step rfl (bind_eq_none (h.ty_nil true))

theorem angleArgs_local (h : g.LocalTypes more) : Local more (angleArgs g) := by
  intro ts
  refine .bind (Local.opIf h.ends rfl (by decide) ts) fun turbofish rest => ?_
  refine .bind (Local.op (by decide) rest) fun _ rest => ?_
  refine .bind (Local.separatedUntil lasts_angle rfl (genericArg_local h) (genericArg_nil h) rest)
    fun args rest => ?_
  exact .bind (Local.op (by decide) rest) fun _ _ => .pure _

theorem output_local (h : g.LocalTypes more) (allowPlus : Bool) :
    Local more (output g allowPlus) := by
  intro ts
  refine .bind (Local.arrowIf h.ends ts) fun hasOutput rest => .ite rfl ?_ (.pure none)
  exact .bind (h.ty allowPlus rest) fun _ _ => .pure _

theorem parenArgs_local (h : g.LocalTypes more) : Local more (parenArgs g) := by
  intro ts
  refine .bind (Local.inside .paren _ ts) fun inputs rest => ?_
  exact .bind (output_local h false rest) fun _ _ => .pure _

theorem isOpeningAngle_append (h : EndsArgument more) (ts : List Token) :
    isOpeningAngle (ts ++ more) = isOpeningAngle ts := by
  simp only [isOpeningAngle, isOp_append (s := "<") h rfl, isOp_append (s := "<=") h rfl,
    isOp_append (s := "<<=") h rfl]

theorem segment_local (h : g.LocalTypes more) (inExpr : Bool) : Local more (segment g inExpr) := by
  intro ts
  refine .get (.ite (isOneOf_append h.ends _ ts) (.bind (Local.anyIdent ts) fun _ _ => .pure _) ?_)
  refine .bind (Local.identOr h.ends _ ts) fun name rest => .get (.ite ?_ ?_ (.pure _))
  · rw [isOpeningAngle_append h.ends,
      colonsThen_append (isOp "<") h.ends (isOp_append h.ends rfl)]
  · exact .bind (angleArgs_local h rest) fun _ _ => .pure _

theorem moreSegments_local (h : g.LocalTypes more) (inExpr : Bool) {test : List Token → Bool}
    (htest : ∀ ts, test (ts ++ more) = test ts) : Local more (moreSegments g inExpr test) :=
  Local.manyWhile htest fun ts =>
    .bind (Local.op (by decide) ts) fun _ rest => segment_local h inExpr rest

theorem pathGoesOn_append (h : EndsArgument more) (ts : List Token) :
    pathGoesOn (ts ++ more) = pathGoesOn ts :=
  colonsThen_append (fun ts => !isParen ts) h
    (fun ts => congrArg Bool.not (isGroup_append h .paren ts)) ts

theorem plain_local (h : g.LocalTypes more) (inExpr : Bool) : Local more (plain g inExpr) := by
  intro ts
  refine .bind (Local.opIf h.ends rfl (by decide) ts) fun rooted rest => ?_
  refine .bind (segment_local h inExpr rest) fun first rest => ?_
  exact .bind (moreSegments_local h inExpr (pathGoesOn_append h.ends) rest) fun _ _ => .pure _

theorem path_local (h : g.LocalTypes more) (inExpr : Bool) : Local more (path g inExpr) := by
  intro ts
  refine .bind (Local.opIf h.ends rfl (by decide) ts) fun isQualified rest =>
    .ite rfl ?_ (plain_local h inExpr rest)
  refine .bind (h.ty true rest) fun self rest => ?_
  refine .bind (Local.keywordIf h.ends "as" rest) fun hasTrait rest => ?_
  -- what follows the self type is the same with a trait and without
  have hbehind (trait : Bool × List Segment) : Local more do
      op ">"
      op "::"
      let first ← segment g inExpr
      return Path.qualified self trait.1 trait.2
        (first :: (← moreSegments g inExpr (isOp "::"))) := by
    intro rest
    refine .bind (Local.op (by decide) rest) fun _ rest => ?_
    refine .bind (Local.op (by decide) rest) fun _ rest => ?_
    refine .bind (segment_local h inExpr rest) fun first rest => ?_
    exact .bind (moreSegments_local h inExpr (isOp_append h.ends rfl) rest) fun _ _ => .pure _
  refine .ite rfl (.bind (plain_local h false rest) fun p rest => ?_) (hbehind (false, []) rest)
  cases p with
  | plain rooted trait => exact hbehind (rooted, trait) rest
  | qualified => exact .failure

theorem startsParenArgs_append (h : EndsArgument more) (ts : List Token) :
    startsParenArgs (ts ++ more) = startsParenArgs ts := by
  rw [startsParenArgs, colonsThen_append isParen h (isGroup_append h .paren)]
  exact congrArg (· || _) (isGroup_append h .paren ts)

theorem addParenArgs_local (h : g.LocalTypes more) (p : Path) :
    Local more (addParenArgs g p) := by
  intro ts
  refine .bind (Local.opIf h.ends rfl (by decide) ts) fun _ rest => ?_
  refine .bind (parenArgs_local h rest) fun args rest => ?_
  cases withLastArgs? p args with
  | none => exact .failure
  | some p => exact .pure _

theorem traitPath_local (h : g.LocalTypes more) : Local more (traitPath g) := by
  intro ts
  refine .bind (plain_local h false ts) fun p rest => .get (.ite ?_ ?_ (.pure p))
  · rw [startsParenArgs_append h.ends]
  · exact .bind (addParenArgs_local h p rest) fun _ _ => .pure _

theorem typePath_loop_carries (h : g.LocalTypes more) (p : Path) {ts : List Token} {n m : Nat}
    (hn : n ≤ m) : Carries more ts (typePath.loop g p n) (typePath.loop g p m) := by
  induction n generalizing p m ts with
  | zero => exact .failure
  | succ n ih =>
      obtain ⟨m, rfl⟩ := Nat.exists_eq_add_of_le' hn
      unfold typePath.loop
      refine .get (.ite (by rw [startsParenArgs_append h.ends]) ?_ (.pure p))
      refine .bind (addParenArgs_local h p ts) fun args rest => .ite rfl ?_ ?_
      · refine .bind (moreSegments_local h false (pathGoesOn_append h.ends) rest) fun _ _ => ?_
        exact ih _ (Nat.le_add_left n m)
      · exact ih _ (Nat.le_add_left n m)

theorem typePath_local (h : g.LocalTypes more) : Local more (typePath g) := by
  intro ts
  refine .bind (path_local h false ts) fun p rest => .get ?_
  exact typePath_loop_carries h p (by simp)

/-! ### Parameters -/

theorem attributes_local (h : EndsArgument more) : Local more (attributes g) :=
  Local.manyWhile (isOp_append h rfl) fun ts =>
    .bind (Local.op (by decide) ts) fun _ rest => Local.inside .bracket _ rest

theorem lifetimeParam_local (h : EndsArgument more) (attrs : List Attribute) :
    Local more (lifetimeParam attrs) := by
  intro ts
  refine .bind (Local.lifetime ts) fun name rest => ?_
  refine .bind (Local.opIf h rfl (by decide) rest) fun hasBounds rest => .ite rfl ?_ (.pure _)
  exact .bind (Local.whileSeparated h (lasts_endOrMarks h) Local.lifetime rfl rest)
    fun _ _ => .pure _

theorem typeParam_local (h : g.LocalTypes more) (attrs : List Attribute) :
    Local more (typeParam g attrs) := by
  intro ts
  refine .bind (Local.ident h.ends ts) fun name rest => ?_
  refine .bind (Local.opIf h.ends rfl (by decide) rest) fun hasBounds rest => ?_
  have hdefault (bounds : List Bound × Bool) : Local more do
      let default ← if ← opIf "=" then some <$> g.ty true else pure none
      return GenericParam.type attrs name bounds.1 bounds.2 default := by
    intro rest
    refine .bind (Local.opIf h.ends rfl (by decide) rest) fun hasDefault rest => ?_
    refine .ite rfl (.bind ?_ fun _ _ => .pure _) (.pure _)
    rw [← bind_pure_comp]
    exact .bind (h.ty true rest) fun _ _ => .pure _
  refine .ite rfl (.bind ?_ fun _ _ => hdefault _ _) (hdefault ([], false) rest)
  exact Local.whileSeparated h.ends (lasts_endsParamBounds h.ends) (h.bound false true)
    (h.bound_nil false true) rest

theorem constParam_local (h : g.LocalTypes more) (attrs : List Attribute) :
    Local more (constParam g attrs) := by
  intro ts
  refine .bind (Local.keyword "const" ts) fun _ rest => ?_
  refine .bind (Local.ident h.ends rest) fun name rest => ?_
  refine .bind (Local.op (by decide) rest) fun _ rest => ?_
  refine .bind (h.ty true rest) fun t rest => ?_
  refine .bind (Local.opIf h.ends rfl (by decide) rest) fun hasDefault rest => ?_
  exact .ite rfl (.bind (.map (constArgument_local h rest)) fun _ _ => .pure _) (.pure _)

theorem genericParam_local (h : g.LocalTypes more) (attrs : List Attribute) :
    Local more (genericParam g attrs) := by
  intro ts
  exact .get (.ite (isLifetime_append h.ends ts) (lifetimeParam_local h.ends attrs ts)
    (.ite (isIdentToken_append h.ends ts) (typeParam_local h attrs ts) (constParam_local h attrs ts)))

theorem binderIf_local (h : g.LocalTypes more) : Local more (binderIf g) := by
  intro ts
  refine .bind (Local.keywordIf h.ends "for" ts) fun isBinder rest => .ite rfl ?_ (.pure none)
  refine .bind (Local.op (by decide) rest) fun _ rest => ?_
  have hparam : Local more (do genericParam g (← attributes g)) := fun ts =>
    .bind (attributes_local h.ends ts) fun attrs rest => genericParam_local h attrs rest
  refine .bind (Local.separatedUntil lasts_angle rfl hparam rfl rest) fun params rest => ?_
  exact .bind (Local.op (by decide) rest) fun _ _ => .pure _

/-! ### Bounds -/

theorem constCondition_local (h : EndsArgument more) (allowConst : Bool) :
    Local more (constCondition allowConst) := by
  intro ts
  refine .get (.ite (isGroup_append h .bracket ts) ?_
    (.ite (isWordToken_append h "const" ts) ?_ (.pure false)))
  · exact .bind (Local.inside .bracket _ ts) fun _ _ => .bind (.guardThat rfl) fun _ _ => .pure _
  · exact .bind (Local.keyword "const" ts) fun _ _ => .bind (.guardThat rfl) fun _ _ => .pure _

theorem traitBound_local (h : g.LocalTypes more) (inParens allowConst : Bool) :
    Local more (traitBound g inParens allowConst) := by
  intro ts
  refine .bind (binderIf_local h ts) fun binder rest => ?_
  refine .bind (constCondition_local h.ends allowConst rest) fun isConst rest => ?_
  refine .bind (Local.opIf h.ends rfl (by decide) rest) fun isMaybe rest => ?_
  have htrait (inner : Option Fragment) : Local more do
      let p ← traitPath g
      guardThat (!isMaybe || (binder.isNone && inner.isNone))
      return if isConst then none else some (Bound.trait inParens isMaybe binder p) := by
    intro rest
    refine .bind (traitPath_local h rest) fun p rest => ?_
    exact .bind (.guardThat rfl) fun _ _ => .pure _
  exact .ite rfl (.bind (binderIf_local h rest) fun _ _ => htrait _ _) (htrait none rest)

theorem capture_local (h : EndsArgument more) : Local more capture := by
  intro ts
  refine .bind (Local.keyword "use" ts) fun _ rest => ?_
  refine .bind (Local.op (by decide) rest) fun _ rest => ?_
  have hname : Local more (do
      if isLifetime (← get) then return "'" ++ (← lifetime)
      identOr ["Self"]) := fun ts =>
    .get (.ite (isLifetime_append h ts) (.bind (Local.lifetime ts) fun _ _ => .pure _)
      (Local.identOr h _ ts))
  refine .bind (Local.separatedUntil lasts_angle rfl hname rfl rest) fun names rest => ?_
  exact .bind (Local.op (by decide) rest) fun _ _ => .pure _

theorem boundRule_local (h : g.LocalTypes more) (allowCapture allowConst : Bool) :
    Local more (boundRule g allowCapture allowConst) := by
  intro ts
  refine .get (.ite (isLifetime_append h.ends ts) (.bind (Local.lifetime ts) fun _ _ => .pure _)
    (.ite (isWordToken_append h.ends "use" ts) ?_ ?_))
  · exact .bind (.guardThat rfl) fun _ rest => capture_local h.ends rest
  · refine .ite (isGroup_append h.ends .paren ts)
      (.bind (Local.inside .paren _ ts) fun bound rest => ?_)
      (.bind (traitBound_local h false allowConst ts) fun bound rest => ?_)
    all_goals
      cases bound with
      | some b => exact .pure b
      | none => exact .bind (.tokensSince ts) fun _ _ => .pure _

theorem moreBounds_local (h : g.LocalTypes more) (allowCapture allowConst : Bool) :
    Local more (moreBounds g allowCapture allowConst) := by
  intro ts
  refine .bind (Local.opIf h.ends rfl (by decide) ts) fun goesOn rest => .ite rfl ?_ (.pure _)
  refine .get (.ite (startsBound_append h.ends allowConst rest) ?_ (.pure _))
  refine Local.whileSeparated h.ends ?_ (h.bound allowCapture allowConst)
    (h.bound_nil allowCapture allowConst) rest
  exact .of_append fun ts => congrArg Bool.not (startsBound_append h.ends allowConst ts)

theorem boundSum_local (h : g.LocalTypes more) (allowPlus allowCapture allowConst : Bool) :
    Local more (boundSum g allowPlus allowCapture allowConst) := by
  intro ts
  refine .bind (h.bound allowCapture allowConst ts) fun first rest => .ite rfl ?_ (.pure _)
  exact .bind (moreBounds_local h allowCapture allowConst rest) fun _ _ => .pure _

theorem boundsAfterPlus_local (h : g.LocalTypes more) : Local more (boundsAfterPlus g) :=
  Local.manyWhile (isOp_append h.ends rfl) fun ts =>
    .bind (Local.op (by decide) ts) fun _ rest => h.bound false false rest

theorem bareObject_local (h : g.LocalTypes more) : Local more (bareObject g) := by
  intro ts
  refine .bind (boundSum_local h true false false ts) fun bounds _ => ?_
  exact .bind (.guardThat rfl) fun _ _ => .pure _

theorem implTrait_local (h : g.LocalTypes more) (allowPlus : Bool) :
    Local more (implTrait g allowPlus) := by
  intro ts
  refine .bind (Local.keyword "impl" ts) fun _ rest => ?_
  refine .bind (boundSum_local h allowPlus true true rest) fun bounds _ => ?_
  exact .bind (.guardThat rfl) fun _ _ => .pure _

theorem dynTrait_local (h : g.LocalTypes more) (allowPlus : Bool) :
    Local more (dynTrait g allowPlus) := by
  intro ts
  refine .get (.bind (Local.keyword "dyn" ts) fun _ rest => ?_)
  refine .bind (Local.opIf h.ends rfl (by decide) rest) fun isStar rest => ?_
  refine .bind (boundSum_local h allowPlus false false rest) fun bounds rest => ?_
  refine .bind (.guardThat rfl) fun _ rest => .ite rfl ?_ (.pure _)
  exact .bind (.tokensSince ts) fun _ _ => .pure _

/-! ### Types -/

theorem abiIf_local (h : EndsArgument more) : Local more abiIf := by
  intro ts
  refine .bind (Local.keywordIf h "extern" ts) fun isExtern rest => .ite rfl (.get ?_) (.pure none)
  obtain ⟨c, joint, behind, rfl, -⟩ := h.exists_punct
  match rest with
  | [] | .ident _ :: _ | .punct _ _ :: _ | .group _ _ :: _ => exact .pure _
  | .literal l :: rest =>
      change Carries _ _ (if l.kind = .string then _ else _) (if l.kind = .string then _ else _)
      split
      · exact .bind (.set [.literal l] nofun) fun _ _ => .pure _
      · exact .pure _

theorem fnType_local (h : g.LocalTypes more) (binder : Option Fragment) :
    Local more (fnType g binder) := by
  intro ts
  refine .bind (Local.keywordIf h.ends "unsafe" ts) fun isUnsafe rest => ?_
  refine .bind (abiIf_local h.ends rest) fun abi rest => ?_
  refine .bind (Local.keyword "fn" rest) fun _ rest => ?_
  refine .bind (Local.inside .paren _ rest) fun inputs rest => ?_
  exact .bind (output_local h false rest) fun _ _ => .pure _

theorem isBang_append (h : EndsArgument more) (ts : List Token) :
    isBang (ts ++ more) = isBang ts := by
  rw [isBang, isOp_append h rfl, isOp_append h rfl]
  rfl

theorem pathType_local (h : g.LocalTypes more) (binder : Option Fragment) (allowPlus : Bool) :
    Local more (pathType g binder allowPlus) := by
  intro ts
  refine .bind (typePath_local h ts) fun p rest => .ite rfl (.pure _) (.get ?_)
  rw [isBang_append h.ends]
  have hpath : Local more do
      if binder.isSome || (allowPlus && isOp "+" (← get)) then
        let more ← if allowPlus then moreBounds g false false else pure ([], false)
        return Ty.traitObject false (.trait false false binder p :: more.1) more.2
      return Ty.path p := by
    intro rest
    refine .get (.ite (by rw [isOp_append h.ends rfl]) (.ite rfl ?_ (.pure _)) (.pure _))
    exact .bind (moreBounds_local h false false rest) fun _ _ => .pure _
  cases p.toPlain? with
  | none => exact hpath rest
  | some m =>
      cases isBang rest with
      | false => exact hpath rest
      | true =>
          refine .bind (Local.op (by decide) rest) fun _ rest => ?_
          exact .bind (Local.macroBody m rest) fun _ _ => .pure _

theorem parenType_local (h : g.LocalTypes more) (allowPlus : Bool) :
    Local more (parenType g allowPlus) := by
  intro ts
  refine .bind (Local.inside .paren _ ts) fun content rest => ?_
  cases content with
  | unit => exact .pure _
  | object t => exact .pure _
  | maybe b => exact .bind (boundsAfterPlus_local h rest) fun _ _ => .pure _
  | tuple elems trailing => exact .pure _
  | single t =>
      refine .get (.ite (by rw [isOp_append h.ends rfl]) ?_ (.pure _))
      cases parenBound? t with
      | none => exact .pure _
      | some b => exact .bind (boundsAfterPlus_local h rest) fun _ _ => .pure _

theorem pointerType_local (h : g.LocalTypes more) : Local more (pointerType g) := by
  intro ts
  refine .bind (Local.op (by decide) ts) fun _ rest => ?_
  refine .bind (Local.keywordIf h.ends "const" rest) fun isConst rest => .ite rfl ?_ ?_
  · exact .bind (h.ty false rest) fun _ _ => .pure _
  · refine .bind (Local.keyword "mut" rest) fun _ rest => ?_
    exact .bind (h.ty false rest) fun _ _ => .pure _

theorem referenceType_local (h : g.LocalTypes more) : Local more (referenceType g) := by
  intro ts
  refine .bind (Local.op (by decide) ts) fun _ rest => ?_
  refine .bind (Local.lifetimeIf h.ends rest) fun _ rest => ?_
  refine .bind (Local.keywordIf h.ends "mut" rest) fun _ rest => ?_
  exact .bind (h.ty false rest) fun _ _ => .pure _

theorem startsPlainPath_append (h : EndsArgument more) (ts : List Token) :
    startsPlainPath (ts ++ more) = startsPlainPath ts := by
  simp only [startsPlainPath, isScopeWord, isIdentToken_append h, isOneOf_append h,
    isOp_append (s := "::") h rfl]

theorem tyRule_local (h : g.LocalTypes more) (allowPlus : Bool) :
    Local more (tyRule g allowPlus) := by
  intro ts
  refine .bind (binderIf_local h ts) fun binder rest => ?_
  cases binder with
  | some b =>
      refine .get (.ite (isOneOf_append h.ends _ rest) (fnType_local h (some b) rest) ?_)
      refine .bind (.guardThat ?_) fun _ rest => pathType_local h (some b) allowPlus rest
      rw [isIdentToken_append h.ends, isScopeWord, isOneOf_append h.ends]
      rfl
  | none =>
      have hgroup (d : Delimiter) := isGroup_append h.ends d rest
      have hword (w : String) := isWordToken_append h.ends w rest
      have hop {s : String} (hs : isApart s = true) := isOp_append h.ends hs rest
      have hpath : (startsPlainPath (rest ++ more) || isOp "<" (rest ++ more)) =
          (startsPlainPath rest || isOp "<" rest) := by
        rw [startsPlainPath_append h.ends, hop rfl]
      refine .get (.ite (hgroup .paren) (parenType_local h allowPlus rest) ?_)
      refine .ite (isOneOf_append h.ends _ rest) (fnType_local h none rest) ?_
      refine .ite hpath (pathType_local h none allowPlus rest) ?_
      refine .ite (hword "dyn") (dynTrait_local h allowPlus rest) ?_
      refine .ite (hgroup .bracket) (Local.inside .bracket _ rest) ?_
      refine .ite (hop rfl) (pointerType_local h rest) ?_
      refine .ite (hop rfl) (referenceType_local h rest) ?_
      refine .ite (hop rfl) (.bind (Local.op (by decide) rest) fun _ _ => .pure _) ?_
      refine .ite (hword "impl") (implTrait_local h allowPlus rest) ?_
      refine .ite (hword "_") (.bind (Local.keyword "_" rest) fun _ _ => .pure _) ?_
      exact .ite (isLifetime_append h.ends rest) (bareObject_local h rest) .failure

/-- The rules to any depth are local. -/
theorem ofFuel_localTypes (hmore : EndsArgument more) (n : Nat) : (ofFuel n).LocalTypes more := by
  induction n with
  | zero =>
      exact ⟨hmore, fun _ _ => .failure, fun _ _ _ => .failure, fun _ => rfl, fun _ _ => rfl⟩
  | succ n ih =>
      exact ⟨hmore, tyRule_local ih, boundRule_local ih, fun _ => rfl, fun _ _ => rfl⟩

end

/-! ### What begins no type -/

section

variable {ts : List Token}

/-- Lifetimes make no type without a trait behind. -/
theorem ty_of_isLoneLifetime (h : (isLifetime ts && !isOp "+" (skip ts)) = true) (n : Nat) :
    (ofFuel n).ty true ts = none := by
  rw [Bool.and_eq_true, Bool.not_eq_true'] at h
  obtain ⟨hlifetime, hplus⟩ := h
  obtain ⟨name, rest, rfl⟩ := eq_of_isLifetime hlifetime
  have hbound : ∀ n, (ofFuel n).bound false false (Token.lifetime name ++ rest) = none ∨
      (ofFuel n).bound false false (Token.lifetime name ++ rest) =
        some (.lifetime name, rest) := by
    rintro (_ | n)
    · exact .inl rfl
    · exact .inr rfl
  cases n with
  | zero => rfl
  | succ n =>
      have hobject : bareObject (.ofFuel n) (Token.lifetime name ++ rest) = none := by
        rcases hbound n with hbound | hbound
        · exact bind_eq_none (bind_eq_none hbound)
        · have hmore : moreBounds (.ofFuel n) false false rest = some (([], false), rest) :=
            bind_step (opIf_eq_false hplus) rfl
          exact bind_step (bind_step hbound (bind_step hmore rfl)) rfl
      exact bind_step rfl hobject

/-- No type begins like a constant. -/
theorem ty_of_startsConst (h : startsConst ts = true) (n : Nat) (allowPlus : Bool) :
    (ofFuel n).ty allowPlus ts = none := by
  cases n with
  | zero => rfl
  | succ n =>
      rw [startsConst, Bool.or_eq_true] at h
      rcases h with hliteral | hbrace
      · unfold isLiteralToken at hliteral
        split at hliteral
        case h_1 => rfl
        case h_2 name rest =>
          rw [Bool.or_eq_true, beq_iff_eq, beq_iff_eq] at hliteral
          rcases hliteral with rfl | rfl <;> rfl
        case h_3 joint _ _ => cases joint <;> rfl
        case h_4 => cases hliteral
      · rw [isBrace] at hbrace
        unfold isGroup at hbrace
        split at hbrace
        case h_1 d body rest =>
          obtain rfl := of_decide_eq_true hbrace
          rfl
        case h_2 => cases hbrace

end

end Grammar

open Grammar

/-! ### Arguments -/

/-- The tokens of a type are read as a type again where they stand alone. -/
def Ty.rereads (t : Ty) : Bool :=
  (Parser.run? ((Grammar.for t.tokens).ty true) t.tokens).isSome

theorem Ty.rereads_of_isPlain {t : Ty} (h : t.isPlain true = true) : t.rereads = true := by
  have hreads : t.ReadsAt (4 * Token.countAll t.tokens + 16) true :=
    readsAt_of_isPlain t h (by omega)
  exact Option.isSome_iff_exists.mpr ⟨t, run?_eq_some.mpr hreads.reads_all⟩

/-- A text that has the tokens which its type is printed with. -/
theorem Ty.rereads_of_printed {text : String} {t : Ty} (h : Ty.parse? text = some t)
    (htokens : Token.ofText? text = some t.tokens) : t.rereads = true := by
  rw [Ty.parse?, parseWith, htokens] at h
  exact Option.isSome_iff_exists.mpr ⟨t, h⟩

theorem Ty.readsBack_of_rereads {t : Ty} (h : t.rereads = true) : t.ReadsBack := by
  obtain ⟨t', hrun⟩ := Option.isSome_iff_exists.mp h
  have hread : (Grammar.for t.tokens).ty true t.tokens = some (t', []) := run?_eq_some.mp hrun
  refine ⟨.type t', fun n hn ts hts => ?_⟩
  -- deeper rules read the same, and so do they in front of `ts`
  replace hread : (ofFuel n).ty true t.tokens = some (t', []) := (ofFuel_below hn).ty true _ _ hread
  have hcarried := (ofFuel_localTypes hts n).ty true t.tokens t' [] hread
  have hreads := hcarried.reads fun hdash => nomatch hcarried.dash hdash
  have hlifetime : (isLifetime t.tokens && !isOp "+" (skip t.tokens)) = false := by
    by_contra hlone
    rw [Bool.not_eq_false] at hlone
    cases (ty_of_isLoneLifetime hlone n).symm.trans hread
  have hconst : startsConst t.tokens = false := by
    by_contra hconst
    rw [Bool.not_eq_false] at hconst
    cases (ty_of_startsConst hconst n true).symm.trans hread
  obtain ⟨heq, hcolon⟩ := endsArgument_ne hts
  refine bind_step rfl (else_step ((isLoneLifetime_append hts _).trans hlifetime)
    (else_step ((startsConst_append hts _).trans hconst) (bind_step hreads ?_)))
  cases assocName? t' with
  | none => rfl
  | some named => exact bind_step (opIf_eq_false heq) (bind_step (opIf_eq_false hcolon) rfl)

end ApiClient.Code
