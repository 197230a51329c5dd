import ApiClient.Code.Grammar.Generics

/-!
Types and the bounds that sums of traits are made of.
-/

namespace ApiClient.Code.Grammar

open ApiClient.Code.Parser

/-! ### Bounds -/

/-- What stands in front of a trait and may be left out: whether it says something of constness.
-/
def constCondition (allowConst : Bool) : Parser Bool := do
  let ts ← get
  if isBracket ts then
    inside .bracket (keyword "const")
    guardThat allowConst
    return true
  if isWordToken "const" ts then
    keyword "const"
    guardThat allowConst
    return true
  return false

/-- A bound that is a trait, without the parentheses that may stand around it; none when it says
something of constness. -/
def traitBound (g : Grammar) (inParens allowConst : Bool) : Parser (Option Bound) := do
  let binder ← binderIf g
  let isConst ← constCondition allowConst
  let isMaybe ← opIf "?"
  let inner ← if binder.isNone && isMaybe then binderIf g else pure none
  let p ← traitPath g
  guardThat (!isMaybe || (binder.isNone && inner.isNone))
  return if isConst then none else some (.trait inParens isMaybe binder p)

def capture : Parser Bound := do
  keyword "use"
  op "<"
  let (names, trailing) ← separatedUntil "," (isOp ">") do
    if isLifetime (← get) then return "'" ++ (← lifetime)
    identOr ["Self"]
  op ">"
  return .capture names trailing

def boundRule (g : Grammar) (allowCapture allowConst : Bool) : Parser Bound := do
  let start ← get
  if isLifetime start then return .lifetime (← lifetime)
  if isWordToken "use" start then
    guardThat allowCapture
    return ← capture
  let bound ← if isParen start then inside .paren (traitBound g true allowConst)
    else traitBound g false allowConst
  match bound with
  | some b => return b
  | none => return .verbatim (← tokensSince start)

def startsBound (allowConst : Bool) (ts : List Token) : Bool :=
  isAnyIdent ts || isOp "::" ts || isOp "?" ts || isLifetime ts || isParen ts
    || (allowConst && isBracket ts)

def moreBounds (g : Grammar) (allowCapture allowConst : Bool) : Parser (List Bound × Bool) := do
  if ← opIf "+" then
    if startsBound allowConst (← get) then
      return ← whileSeparated "+" (fun ts => !startsBound allowConst ts)
        (g.bound allowCapture allowConst)
    return ([], true)
  return ([], false)

def boundSum (g : Grammar) (allowPlus allowCapture allowConst : Bool) :
    Parser (List Bound × Bool) := do
  let first ← g.bound allowCapture allowConst
  if allowPlus then
    let (rest, trailing) ← moreBounds g allowCapture allowConst
    return (first :: rest, trailing)
  return ([first], false)

def boundsAfterPlus (g : Grammar) : Parser (List Bound) :=
  manyWhile (isOp "+") do
    op "+"
    g.bound false false

def hasTrait (bounds : List Bound) : Bool :=
  bounds.any fun
    | .trait .. | .verbatim _ => true
    | _ => false

def bareObject (g : Grammar) : Parser Ty := do
  let (bounds, trailing) ← boundSum g true false false
  guardThat (hasTrait bounds)
  return .traitObject false bounds trailing

def implTrait (g : Grammar) (allowPlus : Bool) : Parser Ty := do
  keyword "impl"
  let (bounds, trailing) ← boundSum g allowPlus true true
  guardThat (hasTrait bounds)
  return .implTrait bounds trailing

/-- A sum of bounds behind `dyn`; one behind `dyn *` has no layout. -/
def dynTrait (g : Grammar) (allowPlus : Bool) : Parser Ty := do
  let start ← get
  keyword "dyn"
  let isStar ← opIf "*"
  let (bounds, trailing) ← boundSum g allowPlus false false
  guardThat (hasTrait bounds)
  if isStar then return .verbatim (← tokensSince start)
  return .traitObject true bounds trailing

/-! ### Function types -/

def inputName : Parser String := do
  let name ← anyIdent
  op ":"
  return name

def startsNamed (words : List String) (ts : List Token) : Bool :=
  (isIdentToken ts || isOneOf words ts) && isColon (skip ts)

/-- A parameter; `mut self` at the beginning is kept without a layout. -/
def fnInput (g : Grammar) (isFirst : Bool) (attrs : List Attribute) : Parser FnInput := do
  let words := if isFirst then ["_", "self"] else ["_"]
  let isMutSelf (ts : List Token) : Bool :=
    isFirst && isWordToken "mut" ts && isWordToken "self" (skip ts)
  let start ← get
  if isMutSelf start then
    keyword "mut"
    if startsNamed words (← get) then
      let _ ← inputName
      let _ ← g.ty true
    else keyword "self"
    return .mk attrs none (.verbatim (← tokensSince start))
  if startsNamed words start then
    let name ← inputName
    if isMutSelf (← get) && name != "self" then
      keyword "mut"
      keyword "self"
      return .mk attrs none (.verbatim (← tokensSince start))
    return .mk attrs (some name) (← g.ty true)
  return .mk attrs none (← g.ty true)

/-- Whether `...` comes next, perhaps behind a name. -/
def startsVariadic (ts : List Token) : Bool :=
  isOp "..." ts || ((isIdentToken ts || isWordToken "_" ts) && isOp ":" (skip ts)
    && isOp "..." (skip (skip ts)))

/-- `...`, perhaps behind a name and in front of a comma. -/
def variadicInput (attrs : List Attribute) : Parser Fragment := do
  let ts ← get
  let name ← if isIdentToken ts || isWordToken "_" ts then some <$> inputName else pure none
  op "..."
  let hasComma ← opIf ","
  return {
    tokens := attributeTokens attrs ++ name.elim [] (fun name => word name ++ sym ":")
      ++ sym "..." ++ if hasComma then comma else []
    layout := attributePieces attrs ++ name.elim [] (fun name => Layout.text (name ++ ": "))
      ++ Layout.text "..." }

def fnInputs (g : Grammar) : Parser (List FnInput × Bool × Option Fragment) := do
  loop true ((← get).length + 1)
where
  loop (isFirst : Bool) : Nat → Parser (List FnInput × Bool × Option Fragment)
    | 0 => failure
    | n + 1 => do
      if ← atEnd then return ([], !isFirst, none)
      let attrs ← attributes g
      if startsVariadic (← get) then return ([], !isFirst, some (← variadicInput attrs))
      let input ← fnInput g isFirst attrs
      if ← atEnd then return ([input], false, none)
      op ","
      let (inputs, trailing, variadic) ← loop false n
      return (input :: inputs, trailing, variadic)

/-- `extern`, perhaps with a string literal. -/
def abiIf : Parser (Option (Option Literal)) := do
  if ← keywordIf "extern" then
    match ← get with
    | .literal l :: rest =>
      if l.kind = .string then
        set rest
        return some (some l)
      return some none
    | _ => return some none
  return none

def fnType (g : Grammar) (binder : Option Fragment) : Parser Ty := do
  let isUnsafe ← keywordIf "unsafe"
  let abi ← abiIf
  keyword "fn"
  let (inputs, trailing, variadic) ← inside .paren (fnInputs g)
  return .function ⟨binder, ⟨false, false, isUnsafe, abi⟩, trailing, variadic⟩ inputs
    (← output g false)

/-! ### Types that begin with a path or a parenthesis -/

def isQualified : Path → Bool
  | .qualified .. => true
  | .plain .. => false

/-- A type that begins with a path: the path itself, a macro call, or a sum of traits. -/
def pathType (g : Grammar) (binder : Option Fragment) (allowPlus : Bool) : Parser Ty := do
  let p ← typePath g
  if isQualified p then return .path p
  match p.toPlain?, isBang (← get) with
  | some m, true =>
    op "!"
    return .macroCall (← macroBody m)
  | _, _ =>
    if binder.isSome || (allowPlus && isOp "+" (← get)) then
      let (rest, trailing) ← if allowPlus then moreBounds g false false else pure ([], false)
      return .traitObject false (.trait false false binder p :: rest) trailing
    return .path p

/-- The bound that a parenthesised type stands for in front of a `+`. -/
def parenBound? : Ty → Option Bound
  | .path (.plain rooted segments) => some (.trait true false none (.plain rooted segments))
  | .traitObject false [.trait _ isMaybe binder p] false => some (.trait true isMaybe binder p)
  | .traitObject false [b] false => some b
  | _ => none

/-- What stands inside parentheses: a unit, a tuple, or a type of its own. -/
inductive ParenContent
  | unit
  | object (t : Ty)
  | maybe (b : Bound)
  | tuple (elems : List Ty) (trailing : Bool)
  | single (t : Ty)

def parenContent (g : Grammar) : Parser ParenContent := do
  let ts ← get
  if ts.isEmpty then return .unit
  if isLifetime ts then return .object (← bareObject g)
  if isOp "?" ts then
    match ← traitBound g true false with
    | some b => return .maybe b
    | none => failure
  let first ← g.ty true
  if ← opIf "," then
    let (rest, trailing) ← commaList (g.ty true)
    return .tuple (first :: rest) (trailing || rest.isEmpty)
  return .single first

def parenType (g : Grammar) (allowPlus : Bool) : Parser Ty := do
  match ← inside .paren (parenContent g) with
  | .unit => return .tuple [] false
  | .object t => return .paren t
  | .maybe b => return .traitObject false (b :: (← boundsAfterPlus g)) false
  | .tuple elems trailing => return .tuple elems trailing
  | .single t =>
    if allowPlus && isOp "+" (← get) then
      match parenBound? t with
      | some b => return .traitObject false (b :: (← boundsAfterPlus g)) false
      | none => return .paren t
    return .paren t

/-! ### All types -/

def startsFn (ts : List Token) : Bool := isOneOf ["fn", "unsafe", "extern"] ts

def bracketType (g : Grammar) : Parser Ty :=
  inside .bracket do
    let elem ← g.ty true
    if ← opIf ";" then return .array elem (← g.expr true)
    return .slice elem

def pointerType (g : Grammar) : Parser Ty := do
  op "*"
  if ← keywordIf "const" then return .pointer false (← g.ty false)
  keyword "mut"
  return .pointer true (← g.ty false)

def referenceType (g : Grammar) : Parser Ty := do
  op "&"
  let lifetime ← lifetimeIf
  let isMut ← keywordIf "mut"
  return .reference lifetime isMut (← g.ty false)

def tyRule (g : Grammar) (allowPlus : Bool) : Parser Ty := do
  match ← binderIf g with
  | some b =>
    let ts ← get
    if startsFn ts then fnType g (some b)
    else
      guardThat (isIdentToken ts || isScopeWord ts)
      pathType g (some b) allowPlus
  | none =>
    let ts ← get
    if isParen ts then parenType g allowPlus
    else if startsFn ts then fnType g none
    else if startsPlainPath ts || isOp "<" ts then pathType g none allowPlus
    else if isWordToken "dyn" ts then dynTrait g allowPlus
    else if isBracket ts then bracketType g
    else if isOp "*" ts then pointerType g
    else if isOp "&" ts then referenceType g
    else if isOp "!" ts then op "!"; return .never
    else if isWordToken "impl" ts then implTrait g allowPlus
    else if isWordToken "_" ts then keyword "_"; return .infer
    else if isLifetime ts then bareObject g
    else failure

end ApiClient.Code.Grammar
