import ApiClient.Code.Grammar.Basic

/-!
Paths and their generic arguments. In a type the arguments of a segment follow it directly, in an
expression after `::`.
-/

namespace ApiClient.Code.Grammar

open ApiClient.Code.Parser

/-! ### Generic arguments -/

def constArgument (g : Grammar) : Parser Expr := do
  let ts ← get
  if isLiteralToken ts then literalExpr
  else if isIdentToken ts then return .path (.ofName (← ident))
  else return .block none (← block g)

def startsConst (ts : List Token) : Bool := isLiteralToken ts || isBrace ts

/-- A type that may name an associated type or constant: a single segment, its arguments in angle
brackets or none. -/
def assocName? : Ty → Option (String × SegmentArgs)
  | .path (.plain false [.mk name .none]) => some (name, .none)
  | .path (.plain false [.mk name (.angle turbofish args trailing)]) =>
    some (name, .angle turbofish args trailing)
  | _ => none

def genericArg (g : Grammar) : Parser GenericArg := do
  let ts ← get
  if isLifetime ts && !isOp "+" (skip ts) then return .lifetime (← lifetime)
  if startsConst ts then return .const (← constArgument g)
  let t ← g.ty true
  match assocName? t with
  | none => return .type t
  | some (name, args) =>
    if ← opIf "=" then
      if startsConst (← get) then return .assocConst name args (← constArgument g)
      return .assocType name args (← g.ty true)
    if ← opIf ":" then
      let (bounds, trailing) ←
        whileSeparated "+" (fun ts => isOp "," ts || isOp ">" ts) (g.bound false true)
      return .constraint name args bounds trailing
    return .type t

def angleArgs (g : Grammar) : Parser SegmentArgs := do
  let turbofish ← opIf "::"
  op "<"
  let (args, trailing) ← separatedUntil "," (isOp ">") (genericArg g)
  op ">"
  return .angle turbofish args trailing

/-- A return type behind an arrow, a sum of traits only where `allowPlus`. -/
def output (g : Grammar) (allowPlus : Bool) : Parser (Option Ty) := do
  if ← opIf "->" then return some (← g.ty allowPlus)
  return none

def parenArgs (g : Grammar) : Parser SegmentArgs := do
  let (inputs, trailing) ← inside .paren (commaList (g.ty true))
  return .paren inputs trailing (← output g false)

/-! ### Paths -/

/-- Whether a path goes on: `::`, but not the one before a parenthesis. -/
def pathGoesOn (ts : List Token) : Bool := isOp "::" ts && !isParen (ts.drop 2)

def segment (g : Grammar) (inExpr : Bool) : Parser Segment := do
  let ts ← get
  if isOneOf ["super", "self", "crate", "try"] ts then return .mk (← anyIdent) .none
  let name ← identOr ["Self"]
  let ts ← get
  if (!inExpr && isOpeningAngle ts) || (isOp "::" ts && isOp "<" (ts.drop 2)) then
    return .mk name (← angleArgs g)
  return .mk name .none

/-- Further segments after `::`, as long as `more` holds. -/
def moreSegments (g : Grammar) (inExpr : Bool) (more : List Token → Bool) :
    Parser (List Segment) :=
  manyWhile more do
    op "::"
    segment g inExpr

def plain (g : Grammar) (inExpr : Bool) : Parser Path := do
  let rooted ← opIf "::"
  let first ← segment g inExpr
  return .plain rooted (first :: (← moreSegments g inExpr pathGoesOn))

/-- A path, perhaps with a self type in angle brackets. -/
def path (g : Grammar) (inExpr : Bool) : Parser Path := do
  if ← opIf "<" then
    let self ← g.ty true
    let (rooted, trait) ← if ← keywordIf "as" then
        match ← plain g false with
        | .plain rooted trait => pure (rooted, trait)
        | .qualified .. => failure
      else pure (false, [])
    op ">"
    op "::"
    let first ← segment g inExpr
    return .qualified self rooted trait (first :: (← moreSegments g inExpr (isOp "::")))
  plain g inExpr

/-! ### Arguments in parentheses -/

def startsParenArgs (ts : List Token) : Bool :=
  isParen ts || (isOp "::" ts && isParen (ts.drop 2))

def segmentsOf : Path → List Segment
  | .plain _ segments => segments
  | .qualified _ _ _ rest => rest

def withSegments (p : Path) (segments : List Segment) : Path :=
  match p with
  | .plain rooted _ => .plain rooted segments
  | .qualified self rooted trait _ => .qualified self rooted trait segments

/-- The path with arguments for its last segment, which has none. -/
def withLastArgs? (p : Path) (args : SegmentArgs) : Option Path :=
  match (segmentsOf p).reverse with
  | .mk name .none :: before | .mk name (.angle _ [] _) :: before =>
    some (withSegments p (.mk name args :: before).reverse)
  | _ => none

def lastIsBare (p : Path) : Bool := (withLastArgs? p .none).isSome

/-- Parenthesised arguments for a path whose last segment has none yet. -/
def addParenArgs (g : Grammar) (p : Path) : Parser (Path × SegmentArgs) := do
  let _ ← opIf "::"
  let args ← parenArgs g
  match withLastArgs? p args with
  | some p => return (p, args)
  | none => failure

def traitPath (g : Grammar) : Parser Path := do
  let p ← plain g false
  if lastIsBare p && startsParenArgs (← get) then
    return (← addParenArgs g p).1
  return p

/-- Whether segments may follow arguments in parentheses: behind an output that is in parentheses
too, or none. -/
def admitsSegments : SegmentArgs → Bool
  | .paren _ _ none | .paren _ _ (some (.paren _)) => true
  | _ => false

/-- The path of a type, where parenthesised arguments may follow any segment without others. -/
def typePath (g : Grammar) : Parser Path := do
  loop (← path g false) ((← get).length + 1)
where
  loop (p : Path) : Nat → Parser Path
    | 0 => failure
    | n + 1 => do
      if lastIsBare p && startsParenArgs (← get) then
        let (p, args) ← addParenArgs g p
        if admitsSegments args then
          let rest ← moreSegments g false pathGoesOn
          loop (withSegments p (segmentsOf p ++ rest)) n
        else loop p n
      else return p

end ApiClient.Code.Grammar
