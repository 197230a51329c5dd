import ApiClient.Proofs.Code.PlainTypes

/-!
Which types can be laid out. A document is complete where its parts are, and the parts of a type
without code are.
-/

namespace ApiClient

namespace Layout

@[simp]
theorem isComplete_nil : isComplete [] = true := rfl

@[simp]
theorem isComplete_append (doc doc' : List Piece) :
    isComplete (doc ++ doc') = (isComplete doc && isComplete doc') := by
  simp [isComplete]

theorem isComplete_flatMap {α : Type} (f : α → List Piece) (l : List α) :
    isComplete (l.flatMap f) = l.all fun x => isComplete (f x) := by
  induction l with
  | nil => rfl
  | cons a l ih => rw [List.flatMap_cons, isComplete_append, ih, List.all_cons]

@[simp]
theorem isComplete_brk (b : Break) (doc : List Piece) :
    isComplete (.brk b :: doc) = isComplete doc := by
  simp [isComplete]

@[simp]
theorem isComplete_text (s : String) : isComplete (text s) = true := rfl

@[simp]
theorem isComplete_consistent (offset : Int) (body : List Piece) :
    isComplete (consistent offset body) = isComplete body := by
  simp [isComplete, consistent]

@[simp]
theorem isComplete_filled (offset : Int) (body : List Piece) :
    isComplete (filled offset body) = isComplete body := by
  simp [isComplete, filled]

@[simp]
theorem isComplete_space : isComplete space = true := rfl

@[simp]
theorem isComplete_nbsp : isComplete nbsp = true := rfl

@[simp]
theorem isComplete_hardBreak : isComplete hardBreak = true := rfl

@[simp]
theorem isComplete_hardBreakIfNonempty : isComplete hardBreakIfNonempty = true := rfl

@[simp]
theorem isComplete_neverBreak : isComplete neverBreak = true := rfl

@[simp]
theorem isComplete_zeroBreak : isComplete zeroBreak = true := rfl

@[simp]
theorem isComplete_outdent : isComplete outdent = true := rfl

@[simp]
theorem isComplete_trailingComma (isLast : Bool) : isComplete (trailingComma isLast) = true := by
  cases isLast <;> rfl

end Layout

namespace Code

open Layout

@[simp]
theorem isComplete_textIf (present : Bool) (s : String) : isComplete (textIf present s) = true := by
  cases present <;> rfl

@[simp]
theorem isComplete_listPieces (items : List (List Piece)) :
    isComplete (listPieces items) = items.all isComplete := by
  fun_induction listPieces items with
  | case1 => rfl
  | case2 last => simp
  | case3 item rest hrest ih => simp [ih]

@[simp]
theorem isComplete_delimited (items : List (List Piece)) :
    isComplete (delimited items) = items.all isComplete := by
  simp [delimited]

@[simp]
theorem isComplete_joinedPieces (sep : String) (items : List (List Piece)) :
    isComplete (joinedPieces sep items) = items.all isComplete := by
  fun_induction joinedPieces sep items with
  | case1 => rfl
  | case2 last => simp
  | case3 item rest hrest ih => simp [ih]

@[simp]
theorem isComplete_lifetimePieces (name : String) : isComplete (lifetimePieces name) = true := rfl

/-- The group that a place asks for changes nothing. -/
@[simp]
theorem isComplete_around (place : Place) (e : Expr) (core : List Piece) :
    isComplete (place.around e core) = isComplete core := by
  have hchained : isComplete (if e.isDotted then consistent indentWidth core else core) =
      isComplete core := by
    split <;> simp
  cases place with
  | plain | lineStart | orElse => exact hchained
  | link =>
      simp only [Place.around]
      split <;> simp
  | arm =>
      simp only [Place.around]
      split <;> simp [armPieces, hchained]

/-! ### Types -/

/-- The order of arguments has no bearing on whether they can be laid out. -/
theorem all_lifetimesFirst {flags : List Bool} {parts : List (List Piece)}
    (h : flags.length = parts.length) :
    (lifetimesFirst flags parts).all isComplete = parts.all isComplete := by
  have hperm : (lifetimesFirst flags parts).Perm ((flags.zip parts).map (·.2)) := by
    rw [lifetimesFirst, putFirst]
    exact (List.filter_append_perm _ _).map _
  rw [hperm.all_eq, List.map_snd_zip (Nat.le_of_eq h.symm)]

/-- Whether a type can be laid out. -/
def Ty.hasLayout (t : Ty) : Bool := isComplete t.pieces

@[simp]
theorem isComplete_pieces (t : Ty) : isComplete t.pieces = t.hasLayout := rfl

theorem tyPieces_eq_map (types : List Ty) : tyPieces types = types.map Ty.pieces := by
  induction types with
  | nil => rfl
  | cons t types ih => exact congrArg (t.pieces :: ·) ih

theorem isComplete_outputPieces (t : Ty) : isComplete (outputPieces (some t)) = t.hasLayout := by
  have hpieces : outputPieces (some t) = text " -> " ++ t.pieces := rfl
  simp [hpieces]

theorem isComplete_tuplePieces (items : List (List Piece)) :
    isComplete (tuplePieces items) = items.all isComplete := by
  fun_cases tuplePieces items with
  | case1 => simp
  | case2 => simp

namespace Ty

variable (t : Ty)

theorem hasLayout_tuple (elems : List Ty) (trailing : Bool) :
    (tuple elems trailing).hasLayout = elems.all hasLayout := by
  have hpieces : (tuple elems trailing).pieces =
      text "(" ++ tuplePieces (tyPieces elems) ++ text ")" := rfl
  have hcomp : isComplete ∘ pieces = hasLayout := rfl
  rw [hasLayout, hpieces, tyPieces_eq_map]
  simp [isComplete_tuplePieces, hcomp]

theorem hasLayout_paren : (paren t).hasLayout = t.hasLayout := by
  have hpieces : (paren t).pieces = text "(" ++ t.pieces ++ text ")" := rfl
  rw [hasLayout, hpieces]
  simp

theorem hasLayout_slice : (slice t).hasLayout = t.hasLayout := by
  have hpieces : (slice t).pieces = text "[" ++ t.pieces ++ text "]" := rfl
  rw [hasLayout, hpieces]
  simp

theorem hasLayout_array (size : Expr) :
    (array t size).hasLayout = (t.hasLayout && isComplete (size.pieces .plain)) := by
  have hpieces : (array t size).pieces =
      text "[" ++ t.pieces ++ text "; " ++ size.pieces .plain ++ text "]" := rfl
  rw [hasLayout, hpieces]
  simp

theorem hasLayout_pointer (isMut : Bool) : (pointer isMut t).hasLayout = t.hasLayout := by
  have hpieces : (pointer isMut t).pieces =
      text "*" ++ text (if isMut then "mut " else "const ") ++ t.pieces := rfl
  rw [hasLayout, hpieces]
  simp

theorem hasLayout_reference (lifetime : Option String) (isMut : Bool) :
    (reference lifetime isMut t).hasLayout = t.hasLayout := by
  cases lifetime with
  | none =>
      have hpieces : (reference none isMut t).pieces =
          text "&" ++ [] ++ textIf isMut "mut " ++ t.pieces := rfl
      rw [hasLayout, hpieces]
      simp
  | some name =>
      have hpieces : (reference (some name) isMut t).pieces =
          text "&" ++ (lifetimePieces name ++ nbsp) ++ textIf isMut "mut " ++ t.pieces := rfl
      rw [hasLayout, hpieces]
      simp

end Ty

/-! ### Sums -/

def Bound.hasLayout (b : Bound) : Bool := isComplete b.pieces

theorem boundPieces_eq_map (bounds : List Bound) :
    boundPieces bounds = bounds.map Bound.pieces := by
  induction bounds with
  | nil => rfl
  | cons b bounds ih => exact congrArg (b.pieces :: ·) ih

theorem isComplete_boundPieces (bounds : List Bound) :
    (boundPieces bounds).all isComplete = bounds.all Bound.hasLayout := by
  have hcomp : isComplete ∘ Bound.pieces = Bound.hasLayout := rfl
  rw [boundPieces_eq_map, List.all_map, hcomp]

theorem isComplete_boundListPieces (items : List (List Piece)) :
    isComplete (boundListPieces items) = items.all isComplete := by
  cases items with
  | nil => rfl
  | cons first rest =>
      rw [boundListPieces, isComplete_append, isComplete_flatMap]
      simp

theorem Ty.hasLayout_traitObject (isDyn : Bool) (bounds : List Bound) (trailing : Bool) :
    (traitObject isDyn bounds trailing).hasLayout = bounds.all Bound.hasLayout := by
  have hpieces : (traitObject isDyn bounds trailing).pieces =
      text "dyn " ++ joinedPieces " + " (boundPieces bounds) := rfl
  rw [hasLayout, hpieces]
  simp [isComplete_boundPieces]

theorem Ty.hasLayout_implTrait (bounds : List Bound) (trailing : Bool) :
    (implTrait bounds trailing).hasLayout = bounds.all Bound.hasLayout := by
  have hpieces : (implTrait bounds trailing).pieces =
      text "impl " ++ joinedPieces " + " (boundPieces bounds) := rfl
  rw [hasLayout, hpieces]
  simp [isComplete_boundPieces]

/-! ### Paths -/

def Segment.hasLayout (inExpr : Bool) (s : Segment) : Bool := isComplete (s.pieces inExpr)

def GenericArg.hasLayout (a : GenericArg) : Bool := isComplete a.pieces

theorem segmentPieces_eq_map (inExpr : Bool) (segments : List Segment) :
    segmentPieces inExpr segments = segments.map (Segment.pieces inExpr) := by
  induction segments with
  | nil => rfl
  | cons s segments ih => exact congrArg (s.pieces inExpr :: ·) ih

theorem genericArgPieces_eq_map (args : List GenericArg) :
    genericArgPieces args = args.map GenericArg.pieces := by
  induction args with
  | nil => rfl
  | cons a args ih => exact congrArg (a.pieces :: ·) ih

theorem isComplete_plain (inExpr rooted : Bool) (segments : List Segment) :
    isComplete ((Path.plain rooted segments).pieces inExpr) =
      segments.all (Segment.hasLayout inExpr) := by
  have hpieces : (Path.plain rooted segments).pieces inExpr =
      textIf rooted "::" ++ joinedPieces "::" (segmentPieces inExpr segments) := rfl
  have hcomp : isComplete ∘ Segment.pieces inExpr = Segment.hasLayout inExpr := rfl
  rw [hpieces, segmentPieces_eq_map]
  simp [hcomp]

theorem Ty.hasLayout_plain (rooted : Bool) (segments : List Segment) :
    (Ty.path (.plain rooted segments)).hasLayout = segments.all (Segment.hasLayout false) :=
  isComplete_plain false rooted segments

@[simp]
theorem Segment.hasLayout_bare (inExpr : Bool) (name : String) :
    hasLayout inExpr (.mk name .none) = true := rfl

theorem SegmentArgs.isComplete_angle (inExpr turbofish trailing : Bool) (args : List GenericArg) :
    isComplete ((angle turbofish args trailing).pieces inExpr) = args.all GenericArg.hasLayout := by
  have hpieces : (angle turbofish args trailing).pieces inExpr =
      if args.isEmpty then []
      else textIf inExpr "::" ++ text "<" ++ delimited (lifetimesFirst
        (args.map GenericArg.isLifetime) (genericArgPieces args)) ++ text ">" := rfl
  have hcomp : isComplete ∘ GenericArg.pieces = GenericArg.hasLayout := rfl
  rw [hpieces, genericArgPieces_eq_map]
  cases args with
  | nil => rfl
  | cons a args =>
      rw [if_neg (by simp)]
      simp only [isComplete_append, isComplete_text, isComplete_textIf, isComplete_delimited,
        all_lifetimesFirst, List.length_map, List.all_map, hcomp, Bool.true_and, Bool.and_true]

theorem SegmentArgs.isComplete_paren (inExpr trailing : Bool) (inputs : List Ty)
    (result : Option Ty) :
    isComplete ((paren inputs trailing result).pieces inExpr) =
      (inputs.all Ty.hasLayout && isComplete (outputPieces result)) := by
  have hpieces : (paren inputs trailing result).pieces inExpr =
      consistent indentWidth (text "(" ++ zeroBreak ++ listPieces (tyPieces inputs) ++ outdent
        ++ text ")" ++ outputPieces result) := rfl
  have hcomp : isComplete ∘ Ty.pieces = Ty.hasLayout := rfl
  rw [hpieces, tyPieces_eq_map]
  simp [hcomp]

theorem Segment.hasLayout_mk (inExpr : Bool) (name : String) (args : SegmentArgs) :
    hasLayout inExpr (.mk name args) = isComplete (args.pieces inExpr) := by
  have hpieces : Segment.pieces inExpr (.mk name args) = text name ++ args.pieces inExpr := rfl
  rw [hasLayout, hpieces, isComplete_append, isComplete_text, Bool.true_and]

@[simp]
theorem Segment.hasLayout_angle (inExpr : Bool) (name : String) (turbofish trailing : Bool)
    (args : List GenericArg) :
    hasLayout inExpr (.mk name (.angle turbofish args trailing)) =
      args.all GenericArg.hasLayout := by
  rw [hasLayout_mk, SegmentArgs.isComplete_angle]

theorem Ty.hasLayout_qualified (self : Ty) (rooted : Bool) (trait segments : List Segment) :
    (Ty.path (.qualified self rooted trait segments)).hasLayout =
      (self.hasLayout && trait.all (Segment.hasLayout false) &&
        segments.all (Segment.hasLayout false)) := by
  have hpieces : (Ty.path (.qualified self rooted trait segments)).pieces =
      text "<" ++ self.pieces ++ (if trait.isEmpty then [] else
        text " as " ++ textIf rooted "::" ++ joinedPieces "::" (segmentPieces false trait))
      ++ text ">" ++ text "::" ++ joinedPieces "::" (segmentPieces false segments) := rfl
  have hcomp : isComplete ∘ Segment.pieces false = Segment.hasLayout false := rfl
  rw [hasLayout, hpieces, segmentPieces_eq_map, segmentPieces_eq_map]
  cases trait with
  | nil => simp [hcomp]
  | cons s trait =>
      rw [if_neg (by simp)]
      simp only [isComplete_append, isComplete_text, isComplete_textIf, isComplete_joinedPieces,
        isComplete_pieces, List.all_map, hcomp, Bool.true_and, Bool.and_true]

/-- A trait can be laid out where its binder and its path can. -/
theorem Bound.hasLayout_trait (inParens isMaybe : Bool) (binder : Option Fragment)
    (rooted : Bool) (segments : List Segment) :
    (Bound.trait inParens isMaybe binder (.plain rooted segments)).hasLayout =
      (isComplete (Fragment.optionLayout binder) && segments.all (Segment.hasLayout false)) := by
  have hpieces : (Bound.trait inParens isMaybe binder (.plain rooted segments)).pieces =
      textIf inParens "(" ++ textIf isMaybe "?" ++ Fragment.optionLayout binder ++
        (Path.plain rooted segments).pieces false ++ textIf inParens ")" := rfl
  rw [hasLayout, hpieces]
  simp [isComplete_plain]

theorem GenericArg.hasLayout_assocType (name : String) (args : SegmentArgs) (t : Ty) :
    (assocType name args t).hasLayout = (isComplete (args.pieces false) && t.hasLayout) := by
  have hpieces : (assocType name args t).pieces =
      text name ++ args.pieces false ++ text " = " ++ t.pieces := rfl
  rw [hasLayout, hpieces]
  simp

theorem GenericArg.hasLayout_assocConst (name : String) (args : SegmentArgs) (e : Expr) :
    (assocConst name args e).hasLayout =
      (isComplete (args.pieces false) && isComplete (e.pieces .plain)) := by
  have hpieces : (assocConst name args e).pieces =
      text name ++ args.pieces false ++ text " = " ++ e.pieces .plain := rfl
  rw [hasLayout, hpieces]
  simp

theorem GenericArg.hasLayout_constraint (name : String) (args : SegmentArgs)
    (bounds : List Bound) (trailing : Bool) :
    (constraint name args bounds trailing).hasLayout =
      (isComplete (args.pieces false) && bounds.all Bound.hasLayout) := by
  have hpieces : (constraint name args bounds trailing).pieces =
      text name ++ args.pieces false ++
        filled indentWidth (boundListPieces (boundPieces bounds)) := rfl
  rw [hasLayout, hpieces]
  simp [isComplete_boundListPieces, isComplete_boundPieces]

@[simp]
theorem GenericArg.hasLayout_type (t : Ty) : (type t).hasLayout = t.hasLayout := rfl

/-! ### Functions -/

@[simp]
theorem isComplete_qualifiers (q : FnQualifiers) : isComplete q.pieces = true := by
  obtain ⟨isConst, isAsync, isUnsafe, abi⟩ := q
  rcases abi with _ | _ | l <;> simp [FnQualifiers.pieces, abiPieces]

theorem isComplete_lifetimeBinder (names : List String) (trailing : Bool) :
    isComplete (lifetimeBinder names trailing).layout = true := by
  rw [lifetimeBinder, GenericParams.binder]
  simp only [isComplete_append, isComplete_text, isComplete_joinedPieces, List.map_map,
    List.all_map, Bool.true_and, Bool.and_true, List.all_eq_true]
  exact fun name _ => rfl

theorem isComplete_optionLayout {binder : Option Fragment}
    (h : binder.all Fragment.isLifetimeBinder = true) :
    isComplete (Fragment.optionLayout binder) = true := by
  cases binder with
  | none => rfl
  | some f =>
      rw [Option.all_some, Fragment.isLifetimeBinder, Bool.and_eq_true, beq_iff_eq] at h
      rw [Fragment.optionLayout, h.2, isComplete_lifetimeBinder]

theorem isComplete_fnInputPieces (name : Option String) (t : Ty) (inputs : List FnInput) :
    isComplete (fnInputPieces (.mk [] name t :: inputs) true) =
      (t.hasLayout && isComplete (fnInputPieces inputs true)) := by
  have hinput : isComplete (FnInput.mk [] name t).pieces = t.hasLayout := by
    cases name with
    | none =>
        have hpieces : (FnInput.mk [] none t).pieces = attributePieces [] ++ [] ++ t.pieces := rfl
        rw [hpieces]
        rfl
    | some name =>
        have hpieces : (FnInput.mk [] (some name) t).pieces =
            attributePieces [] ++ (text name ++ text ": ") ++ t.pieces := rfl
        rw [hpieces]
        simp [attributePieces]
  cases inputs with
  | nil =>
      have hpieces : fnInputPieces [.mk [] name t] true =
          (FnInput.mk [] name t).pieces ++ trailingComma true := rfl
      rw [hpieces, isComplete_append, hinput, isComplete_trailingComma]
      rfl
  | cons next inputs =>
      have hpieces : fnInputPieces (.mk [] name t :: next :: inputs) true =
          (FnInput.mk [] name t).pieces ++ trailingComma false ++
            fnInputPieces (next :: inputs) true := rfl
      rw [hpieces, isComplete_append, isComplete_append, hinput, isComplete_trailingComma,
        Bool.and_true]

theorem isComplete_function {binder : Option Fragment}
    (h : binder.all Fragment.isLifetimeBinder = true) (q : FnQualifiers) (trailing : Bool)
    (inputs : List FnInput) (result : Option Ty) :
    (Ty.function ⟨binder, q, trailing, none⟩ inputs result).hasLayout =
      (isComplete (fnInputPieces inputs true) && isComplete (outputPieces result)) := by
  have hpieces : (Ty.function ⟨binder, q, trailing, none⟩ inputs result).pieces =
      Fragment.optionLayout binder ++ q.pieces ++ text "fn("
        ++ consistent indentWidth (zeroBreak ++ fnInputPieces inputs true ++ outdent)
        ++ text ")" ++ outputPieces result := rfl
  rw [Ty.hasLayout, hpieces]
  simp [isComplete_optionLayout h]

/-! ### Types without code -/

theorem isComplete_path (rooted : Bool) (segments : List Segment) :
    isComplete ((Expr.path (.plain rooted segments)).pieces .plain) =
      segments.all (Segment.hasLayout true) := by
  have hpieces : (Expr.path (.plain rooted segments)).pieces .plain =
      Place.plain.around (.path (.plain rooted segments))
        ((Path.plain rooted segments).pieces true) := rfl
  rw [hpieces, isComplete_around, isComplete_plain]

theorem isComplete_lit (l : Literal) : isComplete ((Expr.lit l).pieces .plain) = true :=
  isComplete_around .plain (.lit l) (text l.text)

theorem isComplete_constant {e : Expr} (h : e.isConstant = true) :
    isComplete (e.pieces .plain) = true := by
  fun_cases Expr.isConstant e with
  | case1 l => rfl
  | case2 value => cases value <;> rfl
  | case3 l => rfl
  | case4 => simp_all [Expr.isConstant]

theorem isComplete_length {e : Expr} (h : e.isLength = true) :
    isComplete (e.pieces .plain) = true := by
  cases e with
  | lit l => exact isComplete_lit l
  | path p =>
      obtain ⟨rooted, names, rfl, -, -⟩ := Path.eq_ofNames_of_isWords h
      rw [Path.ofNames, isComplete_path]
      simp
  | _ => cases h

mutual

/-- Types without code can be laid out. -/
theorem Ty.hasLayout_of_isPlain : ∀ (t : Ty) {allowPlus : Bool}, t.isPlain allowPlus = true →
    t.hasLayout = true
  | .infer, _, _ => rfl
  | .never, _, _ => rfl
  | .tuple elems trailing, _, h => by
      rw [Ty.isPlain, Bool.and_eq_true] at h
      rw [Ty.hasLayout_tuple, all_hasLayout_of_typesArePlain elems h.2]
  | .paren t, _, h => by
      rw [Ty.isPlain] at h
      rw [Ty.hasLayout_paren, t.hasLayout_of_isPlain h]
  | .slice t, _, h => by
      rw [Ty.isPlain] at h
      rw [Ty.hasLayout_slice, t.hasLayout_of_isPlain h]
  | .array t size, _, h => by
      rw [Ty.isPlain, Bool.and_eq_true] at h
      rw [Ty.hasLayout_array, t.hasLayout_of_isPlain h.1, isComplete_length h.2]
      rfl
  | .pointer isMut t, _, h => by
      rw [Ty.isPlain] at h
      rw [Ty.hasLayout_pointer, t.hasLayout_of_isPlain h]
  | .reference lifetime isMut t, _, h => by
      rw [Ty.isPlain] at h
      rw [Ty.hasLayout_reference, t.hasLayout_of_isPlain h]
  | .path (.plain rooted segments), _, h => by
      rw [Ty.isPlain, Bool.and_eq_true] at h
      rw [Ty.hasLayout_plain, all_hasLayout_of_segmentsArePlain segments h.2]
  | .path (.qualified self rooted trait segments), _, h => by
      rw [Ty.isPlain] at h
      simp only [Bool.and_eq_true] at h
      rw [Ty.hasLayout_qualified, self.hasLayout_of_isPlain h.1.1.1.1,
        all_hasLayout_of_segmentsArePlain trait h.1.1.2,
        all_hasLayout_of_segmentsArePlain segments h.2]
      rfl
  | .function ⟨binder, qualifiers, trailing, none⟩ inputs result, _, h => by
      rw [Ty.isPlain] at h
      simp only [Bool.and_eq_true] at h
      rw [isComplete_function h.1.1.1.1, isComplete_of_inputsArePlain inputs h.1.2,
        isComplete_of_resultIsPlain result h.2]
      rfl
  | .implTrait bounds false, _, h => by
      rw [Ty.isPlain, Bool.and_eq_true] at h
      rw [Ty.hasLayout_implTrait, all_hasLayout_of_boundsArePlain bounds h.2]
  | .traitObject true bounds false, _, h => by
      rw [Ty.isPlain, Bool.and_eq_true] at h
      rw [Ty.hasLayout_traitObject, all_hasLayout_of_boundsArePlain bounds h.2]

theorem all_hasLayout_of_typesArePlain : ∀ types : List Ty, typesArePlain types = true →
    types.all Ty.hasLayout = true
  | [], _ => rfl
  | t :: types, h => by
      rw [typesArePlain, Bool.and_eq_true] at h
      rw [List.all_cons, t.hasLayout_of_isPlain h.1, all_hasLayout_of_typesArePlain types h.2]
      rfl

theorem isComplete_of_resultIsPlain : ∀ result : Option Ty, resultIsPlain result = true →
    isComplete (outputPieces result) = true
  | none, _ => rfl
  | some t, h => by
      rw [resultIsPlain] at h
      rw [isComplete_outputPieces, t.hasLayout_of_isPlain h]

theorem isComplete_of_inputsArePlain : ∀ (inputs : List FnInput) {isFirst : Bool},
    inputsArePlain isFirst inputs = true → isComplete (fnInputPieces inputs true) = true
  | [], _, _ => rfl
  | .mk attrs name t :: inputs, _, h => by
      simp only [inputsArePlain, Bool.and_eq_true, List.isEmpty_iff] at h
      obtain ⟨⟨⟨rfl, -⟩, ht⟩, hinputs⟩ := h
      rw [isComplete_fnInputPieces, t.hasLayout_of_isPlain ht,
        isComplete_of_inputsArePlain inputs hinputs]
      rfl

theorem all_hasLayout_of_boundsArePlain : ∀ bounds : List Bound, boundsArePlain bounds = true →
    bounds.all Bound.hasLayout = true
  | [], _ => rfl
  | .lifetime name :: bounds, h => by
      rw [boundsArePlain] at h
      rw [List.all_cons, all_hasLayout_of_boundsArePlain bounds h]
      rfl
  | .trait inParens isMaybe binder (.plain rooted segments) :: bounds, h => by
      simp only [boundsArePlain, Bool.and_eq_true] at h
      rw [List.all_cons, Bound.hasLayout_trait, isComplete_optionLayout h.1.1.1.2,
        all_hasLayout_of_segmentsArePlain segments h.1.2, all_hasLayout_of_boundsArePlain bounds h.2]
      rfl

theorem all_hasLayout_of_segmentsArePlain : ∀ (segments : List Segment) {allowParens : Bool},
    segmentsArePlain allowParens segments = true → segments.all (Segment.hasLayout false) = true
  | [], _, _ => rfl
  | .mk name args :: segments, _, h => by
      simp only [segmentsArePlain, Bool.and_eq_true] at h
      rw [List.all_cons, Segment.hasLayout_mk, args.isComplete_of_isPlain h.1.2,
        all_hasLayout_of_segmentsArePlain segments h.2]
      rfl

theorem SegmentArgs.isComplete_of_isPlain : ∀ (args : SegmentArgs) {allowParens : Bool},
    args.isPlain allowParens = true → isComplete (args.pieces false) = true
  | .none, _, _ => rfl
  | .angle turbofish args trailing, _, h => by
      rw [SegmentArgs.isPlain, Bool.and_eq_true] at h
      rw [SegmentArgs.isComplete_angle, all_hasLayout_of_argsArePlain args h.2]
  | .paren inputs trailing result, _, h => by
      simp only [SegmentArgs.isPlain, Bool.and_eq_true] at h
      rw [SegmentArgs.isComplete_paren, all_hasLayout_of_typesArePlain inputs h.1.2,
        isComplete_of_resultIsPlain result h.2]
      rfl

theorem all_hasLayout_of_argsArePlain : ∀ args : List GenericArg, argsArePlain args = true →
    args.all GenericArg.hasLayout = true
  | [], _ => rfl
  | .lifetime name :: args, h => by
      rw [argsArePlain] at h
      rw [List.all_cons, all_hasLayout_of_argsArePlain args h]
      rfl
  | .type t :: args, h => by
      rw [argsArePlain, Bool.and_eq_true] at h
      rw [List.all_cons, GenericArg.hasLayout_type, t.hasLayout_of_isPlain h.1,
        all_hasLayout_of_argsArePlain args h.2]
      rfl
  | .const e :: args, h => by
      rw [argsArePlain, Bool.and_eq_true] at h
      have he : (GenericArg.const e).hasLayout = true := isComplete_constant h.1
      rw [List.all_cons, he, all_hasLayout_of_argsArePlain args h.2]
      rfl
  | .assocType name args' t :: args, h => by
      simp only [argsArePlain, Bool.and_eq_true] at h
      rw [List.all_cons, GenericArg.hasLayout_assocType, args'.isComplete_of_isPlain h.1.1.2,
        t.hasLayout_of_isPlain h.1.2, all_hasLayout_of_argsArePlain args h.2]
      rfl
  | .assocConst name args' e :: args, h => by
      simp only [argsArePlain, Bool.and_eq_true] at h
      rw [List.all_cons, GenericArg.hasLayout_assocConst, args'.isComplete_of_isPlain h.1.1.2,
        isComplete_constant h.1.2, all_hasLayout_of_argsArePlain args h.2]
      rfl
  | .constraint name args' bounds trailing :: args, h => by
      simp only [argsArePlain, Bool.and_eq_true] at h
      rw [List.all_cons, GenericArg.hasLayout_constraint, args'.isComplete_of_isPlain h.1.1.1.2,
        all_hasLayout_of_boundsArePlain bounds h.1.2, all_hasLayout_of_argsArePlain args h.2]
      rfl

end

end Code

end ApiClient
