import ApiClient.Code.Grammar.Path

/-!
Patterns.
-/

namespace ApiClient.Code.Grammar

open ApiClient.Code.Parser

/-- The two or three dots of a range; whether it includes its end. Three plain dots are an older
spelling of the closed range. -/
def patDots : Parser Bool := do
  if isOp "..=" (← get) then op "..="; return true
  if isOp "..." (← get) then op "..."; return true
  op ".."
  return false

def noRangeBound (ts : List Token) : Bool :=
  ts.isEmpty || isOp "|" ts || isOp "=" ts || isColon ts || isOp "," ts || isOp ";" ts
    || isWordToken "if" ts

def rangeBound (g : Grammar) : Parser (Option Expr) := do
  let ts ← get
  if noRangeBound ts then return none
  else if isLiteralToken ts then return some (← literalExpr)
  else if isWordToken "const" ts then
    keyword "const"
    return some (.constBlock (← block g))
  else if startsPlainPath ts || isOp "<" ts then return some (.path (← path g true))
  else failure

/-- The end of a range pattern after its dots; a closed range needs one. -/
def rangeEnd (g : Grammar) (closed : Bool) : Parser (Option Expr) := do
  let hi ← rangeBound g
  guardThat (!closed || hi.isSome)
  return hi

/-- A variable that names its field; one behind `box` has no layout. -/
def variablePat (start : List Token) (isBox isRef isMut : Bool) (name : String) : Parser Pat := do
  if isBox then return .verbatim (← tokensSince start)
  return .ident isRef isMut name

def fieldPat (g : Grammar) (attrs : List Attribute) : Parser FieldPat := do
  let start ← get
  let isBox ← keywordIf "box"
  let isRef ← keywordIf "ref"
  let isMut ← keywordIf "mut"
  match ← member with
  | .position n =>
    guardThat (!isBox && !isRef && !isMut)
    op ":"
    return .mk attrs (some (.position n)) (← g.pat)
  | .named name =>
    if !isBox && !isRef && !isMut && isOp ":" (← get) then
      op ":"
      return .mk attrs (some (.named name)) (← g.pat)
    return .mk attrs none (← variablePat start isBox isRef isMut name)

/-- Fields up to the end or up to `..`: the fields, whether a comma ends them, and the attributes
of the dots where they are there. -/
def fieldPats (g : Grammar) : Parser (List FieldPat × Bool × Option (List Attribute)) := do
  loop false ((← get).length + 1)
where
  loop (afterComma : Bool) : Nat → Parser (List FieldPat × Bool × Option (List Attribute))
    | 0 => failure
    | n + 1 => do
      if ← atEnd then return ([], afterComma, none)
      let attrs ← attributes g
      if ← opIf ".." then return ([], afterComma, some attrs)
      let field ← fieldPat g attrs
      if ← atEnd then return ([field], false, none)
      op ","
      let (fields, trailing, dots) ← loop true n
      return (field :: fields, trailing, dots)

def pathPat (g : Grammar) : Parser Pat := do
  let p ← path g true
  match p.toPlain?, isBang (← get) with
  | some m, true =>
    op "!"
    return .macroCall (← macroBody m)
  | _, _ =>
    let ts ← get
    if isBrace ts then
      let (fields, trailing, dots) ← inside .brace (fieldPats g)
      return .record p fields trailing dots
    else if isParen ts then
      let (elems, trailing) ← inside .paren (commaList g.pat)
      return .tupleRecord p elems trailing
    else if isOp ".." ts then
      let closed ← patDots
      return .range (some (.path p)) closed (← rangeEnd g closed)
    else return .path p

def identPat (g : Grammar) : Parser Pat := do
  let isRef ← keywordIf "ref"
  let isMut ← keywordIf "mut"
  let name ← identOr ["self"]
  if ← opIf "@" then return .naming isRef isMut name (← g.patSingle)
  return .ident isRef isMut name

def literalPat (g : Grammar) : Parser Pat := do
  match ← rangeBound g with
  | none => failure
  | some lo =>
    if isOp ".." (← get) then
      let closed ← patDots
      return .range (some lo) closed (← rangeEnd g closed)
    match lo with
    | .constBlock body => return .constBlock body
    | .path p => return .path p
    | lo => return .lit lo

def openRangePat (g : Grammar) : Parser Pat := do
  let closed ← patDots
  match ← rangeEnd g closed with
  | some hi => return .range none closed (some hi)
  | none => return .rest

def parenPat (g : Grammar) : Parser Pat := do
  match ← inside .paren (commaList g.pat) with
  | ([.rest], false) => return .tuple [.rest] false
  | ([p], false) => return .paren p
  | (elems, trailing) => return .tuple elems trailing

def isOpenRange : Pat → Bool
  | .range lo _ hi => lo.isNone || hi.isNone
  | _ => false

def slicePat (g : Grammar) : Parser Pat := do
  let (elems, trailing) ← inside .bracket (commaList g.pat)
  guardThat (!elems.any isOpenRange)
  return .slice elems trailing

/-- A name that begins a path, a call or a range rather than a variable. -/
def startsPathPat (ts : List Token) : Bool :=
  let next := skip ts
  (isIdentToken ts && (isOp "::" next || isOp "!" next || isBrace next || isParen next
      || isOp ".." next))
    || (isWordToken "self" ts && isOp "::" next)
    || isOp "::" ts || isOp "<" ts || isOneOf ["Self", "super", "crate"] ts

/-- A pattern behind `box`, which has no layout. -/
def boxPat (g : Grammar) : Parser Pat := do
  let start ← get
  keyword "box"
  let _ ← g.patSingle
  return .verbatim (← tokensSince start)

def patSingleRule (g : Grammar) : Parser Pat := do
  let ts ← get
  if startsPathPat ts then pathPat g
  else if isWordToken "_" ts then keyword "_"; return .wild
  else if isWordToken "box" ts then boxPat g
  else if isOp "-" ts || isLiteralToken ts || isWordToken "const" ts then literalPat g
  else if isOneOf ["ref", "mut", "self"] ts || isIdentToken ts then identPat g
  else if isOp "&" ts then
    op "&"
    let isMut ← keywordIf "mut"
    return .reference isMut (← g.patSingle)
  else if isParen ts then parenPat g
  else if isBracket ts then slicePat g
  else if isOp ".." ts && !isOp "..." ts then openRangePat g
  else failure

def isAlternative (ts : List Token) : Bool := isOp "|" ts && !isOp "||" ts && !isOp "|=" ts

/-- A pattern, perhaps of alternatives, perhaps with a bar in front. -/
def patRule (g : Grammar) : Parser Pat := do
  let leading ← opIf "|"
  let first ← patSingleRule g
  if leading || isAlternative (← get) then
    let rest ← manyWhile isAlternative do
      op "|"
      patSingleRule g
    return .oneOf leading (first :: rest)
  return first

end ApiClient.Code.Grammar
