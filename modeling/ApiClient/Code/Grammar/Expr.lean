import ApiClient.Code.Grammar.Pat
import ApiClient.Code.Grammar.Ty

/-!
Expressions. Operators are read by climbing: `climbRule` goes on from a left operand as long as
the next operator binds at least as tightly as it is asked to.
-/

namespace ApiClient.Code

/-! ### How tightly operators bind -/

namespace Precedence

def jump : Nat := 0
def assign : Nat := 1
def range : Nat := 2
def or : Nat := 3
def and : Nat := 4
def compare : Nat := 5
def bitOr : Nat := 6
def bitXor : Nat := 7
def bitAnd : Nat := 8
def shift : Nat := 9
def sum : Nat := 10
def product : Nat := 11
def cast : Nat := 12

end Precedence

def BinaryOp.precedence : BinaryOp → Nat
  | .add | .sub => Precedence.sum
  | .mul | .div | .rem => Precedence.product
  | .and => Precedence.and
  | .or => Precedence.or
  | .bitXor => Precedence.bitXor
  | .bitAnd => Precedence.bitAnd
  | .bitOr => Precedence.bitOr
  | .shl | .shr => Precedence.shift
  | .eq | .lt | .le | .ne | .ge | .gt => Precedence.compare
  | .addAssign | .subAssign | .mulAssign | .divAssign | .remAssign | .xorAssign | .andAssign
  | .orAssign | .shlAssign | .shrAssign => Precedence.assign

namespace Grammar

open ApiClient.Code.Parser

/-! ### Operators -/

def nextBinary? (ts : List Token) : Option BinaryOp :=
  BinaryOp.all.find? fun o => isOp o.symbol ts

def isAssign (ts : List Token) : Bool := isOp "=" ts && !isOp "=>" ts

/-- How tightly the next operator binds; what is no operator binds least. -/
def nextPrecedence (ts : List Token) : Nat :=
  match nextBinary? ts with
  | some o => o.precedence
  | none =>
    if isAssign ts then Precedence.assign
    else if isOp ".." ts then Precedence.range
    else if isWordToken "as" ts then Precedence.cast
    else Precedence.jump

/-- An operand and what binds tighter than the operator in front of it; assignments nest to the
right. -/
def rightOperandRule (g : Grammar) (allowRecord : Bool) (precedence : Nat) : Parser Expr := do
  let first ← g.operand allowRecord
  extend first ((← get).length + 1)
where
  extend (e : Expr) : Nat → Parser Expr
    | 0 => failure
    | n + 1 => do
      let next := nextPrecedence (← get)
      if next > precedence || (next == precedence && precedence == Precedence.assign) then
        let before := (← get).length
        let e ← g.climb e allowRecord next
        if (← get).length == before then return e
        extend e n
      else return e

/-- Whether a half-open range has no end here. -/
def noRangeEnd (allowRecord : Bool) (ts : List Token) : Bool :=
  ts.isEmpty || isOp "," ts || isOp ";" ts || isPlainDot ts || isOp "?" ts
    || isOp "=>" ts || (!allowRecord && isBrace ts)
    || ["=", "+", "/", "%", "^", ">", "<=", "!=", "-=", "*=", "&=", "|=", "<<="].any (isOp · ts)
    || isWordToken "as" ts

/-- The dots of a range and its end. -/
def rangeTail (g : Grammar) (allowRecord : Bool) : Parser (Bool × Option Expr) := do
  let ts ← get
  if isOp "..=" ts then
    op "..="
    return (true, some (← g.rightOperand allowRecord Precedence.range))
  guardThat (!isOp "..." ts)
  op ".."
  if noRangeEnd allowRecord (← get) then return (false, none)
  return (false, some (← g.rightOperand allowRecord Precedence.range))

/-- Whether something follows that cannot be appended to a cast. -/
def afterCast (ts : List Token) : Bool :=
  isPlainDot ts || isOp "?" ts || isBracket ts || isParen ts

def isComparison : Expr → Bool
  | .binary _ op _ => op.precedence == Precedence.compare
  | _ => false

/-- Goes on from a left operand. A range is no left operand, and comparisons do not chain. -/
def climbRule (g : Grammar) (lhs : Expr) (allowRecord : Bool) (base : Nat) : Parser Expr := do
  let ts ← get
  if lhs.isRange then return lhs
  match nextBinary? ts with
  | some o =>
    if o.precedence < base then return lhs
    guardThat (o.precedence != Precedence.compare || !isComparison lhs)
    op o.symbol
    let rhs ← g.rightOperand allowRecord o.precedence
    g.climb (.binary lhs o rhs) allowRecord base
  | none =>
    if base ≤ Precedence.assign && isAssign ts then
      op "="
      let rhs ← g.rightOperand allowRecord Precedence.assign
      g.climb (.assign lhs rhs) allowRecord base
    else if base ≤ Precedence.range && isOp ".." ts then
      let (closed, hi) ← rangeTail g allowRecord
      return .range (some lhs) closed hi
    else if base ≤ Precedence.cast && isWordToken "as" ts then
      keyword "as"
      let t ← g.ty false
      guardThat (!afterCast (← get))
      g.climb (.cast lhs t) allowRecord base
    else return lhs

/-! ### Operands -/

def positions (text : String) : List (List Char) × Bool :=
  let cs := text.toList
  let trailing := cs.getLast? == some '.'
  let cs := if trailing then cs.dropLast else cs
  (cs.splitOn '.', trailing)

def fieldsAt (e : Expr) : List (List Char) → Option Expr
  | [] => some e
  | p :: rest => do fieldsAt (.field e (.position (← position? (String.ofList p)))) rest

def afterDot (g : Grammar) (e : Expr) : Parser Expr := do
  match ← get with
  | .literal ⟨.float, text⟩ :: rest =>
    let (ps, trailing) := positions text
    match fieldsAt e ps with
    | none => failure
    | some e =>
      set rest
      if trailing then plainMember e else return e
  | _ => plainMember e
where
  plainMember (e : Expr) : Parser Expr := do
    if ← keywordIf "await" then return .await e
    match ← member with
    | .named name =>
      let turbofish ← if isOp "::" (← get) then angleArgs g else pure .none
      if isParen (← get) then
        let (args, trailing) ← inside .paren (commaList (g.expr true))
        return .methodCall e name turbofish args trailing
      match turbofish with
      | .none => return .field e (.named name)
      | _ => failure
    | .position n => return .field e (.position n)

def trailers (g : Grammar) (e : Expr) : Parser Expr := do
  loop e ((← get).length + 1)
where
  loop (e : Expr) : Nat → Parser Expr
    | 0 => failure
    | n + 1 => do
      let ts ← get
      if isParen ts then
        let (args, trailing) ← inside .paren (commaList (g.expr true))
        loop (.call e args trailing) n
      else if isPlainDot ts && !e.isRange then
        op "."
        loop (← afterDot g e) n
      else if isBracket ts then
        let i ← inside .bracket (g.expr true)
        loop (.index e i) n
      else if isOp "?" ts && !e.isRange then
        op "?"
        loop (.question e) n
      else return e

/-- Whether an expression can begin here, so that it belongs to the jump before it. -/
def startsExpr (ts : List Token) : Bool :=
  (isAnyIdent ts && !isWordToken "as" ts) || isParen ts || isBracket ts || isBrace ts
    || isLiteralToken ts || isBang ts
    || (isOp "-" ts && !isOp "-=" ts && !isOp "->" ts)
    || (isOp "*" ts && !isOp "*=" ts)
    || (isOp "|" ts && !isOp "|=" ts)
    || (isOp "&" ts && !isOp "&=" ts)
    || isOp ".." ts || isOpeningAngle ts || isOp "::" ts || isLifetime ts || isOp "#" ts

def closureInput (g : Grammar) : Parser Pat := do
  let attrs ← attributes g
  let p ← g.patSingle
  if ← opIf ":" then return (Pat.typed p (← g.ty true)).withAttributes attrs
  match p with
  | .verbatim tokens => return .verbatim tokens
  | p => return p.withAttributes attrs

def closure (g : Grammar) (allowRecord : Bool) : Parser Expr := do
  let binder ← binderIf g
  let isConst ← keywordIf "const"
  let isStatic ← keywordIf "static"
  let isAsync ← keywordIf "async"
  let isMove ← keywordIf "move"
  op "|"
  let (inputs, trailing) ← separatedUntil "," (isOp "|") (closureInput g)
  op "|"
  let header : ClosureHeader := ⟨binder, isConst, isStatic, isAsync, isMove, trailing⟩
  if ← opIf "->" then
    let out ← g.ty true
    return .closure header inputs (some out) (.block none (← bareBlock g))
  return .closure header inputs none (← g.expr allowRecord)

def fieldValue (g : Grammar) : Parser FieldValue := do
  let attrs ← attributes g
  let m ← member
  if isOp ":" (← get) || !isNamed m then
    op ":"
    return .mk attrs m (some (← g.expr true))
  return .mk attrs m none

/-- The fields of a record and the value that the others are taken from. -/
def record (g : Grammar) (p : Path) : Parser Expr := do
  let (fields, trailing) ←
    separatedUntil "," (fun ts => ts.isEmpty || isOp ".." ts) (fieldValue g)
  let dots ← opIf ".."
  guardThat (!dots || trailing || fields.isEmpty)
  let base ← if dots && !(← atEnd) then some <$> g.expr true else pure none
  return .record p fields trailing dots base

def pathExpr (g : Grammar) (allowRecord : Bool) : Parser Expr := do
  let p ← path g true
  match p.toPlain?, isBang (← get) with
  | some m, true =>
    op "!"
    return .macroCall (← macroBody m)
  | _, _ =>
    if allowRecord && isBrace (← get) then inside .brace (record g p) else return .path p

def parenExpr (g : Grammar) : Parser Expr := do
  match ← inside .paren (commaList (g.expr true)) with
  | ([e], false) => return .paren e
  | (elems, trailing) => return .tuple elems trailing

def bracketExpr (g : Grammar) : Parser Expr :=
  inside .bracket do
    if ← atEnd then return .array [] false
    let first ← g.expr true
    if ← opIf ";" then return .repeated first (← g.expr true)
    if ← atEnd then return .array [first] false
    op ","
    let (rest, trailing) ← commaList (g.expr true)
    return .array (first :: rest) (trailing || rest.isEmpty)

/-- A condition and what stands behind its `else`: another condition or a block. -/
def condition : Grammar → Nat → Parser Expr
  | _, 0 => failure
  | g, n + 1 => do
    keyword "if"
    let test ← g.expr false
    let body ← bareBlock g
    if ← keywordIf "else" then
      if isWordToken "if" (← get) then return .cond test body (some (← condition g n))
      return .cond test body (some (.block none (← bareBlock g)))
    return .cond test body none

def arm (g : Grammar) : Parser Arm := do
  let attrs ← attributes g
  let p ← g.pat
  let guard ← if ← keywordIf "if" then some <$> g.expr true else pure none
  op "=>"
  let body ← g.early
  if !body.endsWithBlock && !(← atEnd) then
    op ","
    return .mk attrs p guard body true
  return .mk attrs p guard body (← opIf ",")

def whileLoop (g : Grammar) (label : Option String) : Parser Expr := do
  keyword "while"
  let test ← g.expr false
  return .whileLoop label test (← block g)

def forLoop (g : Grammar) (label : Option String) : Parser Expr := do
  keyword "for"
  let p ← g.pat
  keyword "in"
  let range ← g.expr false
  return .forLoop label p range (← block g)

def endlessLoop (g : Grammar) (label : Option String) : Parser Expr := do
  keyword "loop"
  return .loop label (← block g)

def labeled (g : Grammar) : Parser Expr := do
  let label := some (← lifetime)
  op ":"
  let ts ← get
  if isWordToken "while" ts then whileLoop g label
  else if isWordToken "for" ts then forLoop g label
  else if isWordToken "loop" ts then endlessLoop g label
  else return .block label (← block g)

def matchOn (g : Grammar) : Parser Expr := do
  keyword "match"
  let e ← g.expr false
  let (inner, arms) ← inside .brace do
    return (← innerAttributes g, ← manyWhile (!·.isEmpty) (arm g))
  return .matchOn e inner arms

def startsClosure (ts : List Token) : Bool :=
  let next := skip ts
  isOp "|" ts || isOneOf ["move", "static"] ts
    || (isWordToken "for" ts && startsGenerics next)
    || (isWordToken "const" ts && !isBrace next)
    || (isWordToken "async" ts && (isOp "|" next || isWordToken "move" next))

def jumpValue (g : Grammar) : Parser (Option Expr) := optionally startsExpr (g.expr true)

def breakOut (g : Grammar) (allowRecord : Bool) : Parser Expr := do
  keyword "break"
  let label ← lifetimeIf
  let ts ← get
  guardThat (label.isNone || !isOp ":" ts)
  if !allowRecord && isBrace ts then return .breakOut label none
  return .breakOut label (← jumpValue g)

def letTest (g : Grammar) (allowRecord : Bool) : Parser Expr := do
  keyword "let"
  let p ← g.pat
  op "="
  let lhs ← g.operand allowRecord
  return .isLet p (← g.climb lhs allowRecord Precedence.compare)

/-- A call of something built in, which has no layout. -/
def builtinCall : Parser Expr := do
  let start ← get
  keyword "builtin"
  op "#"
  let _ ← ident
  let _ ← anyInside .paren
  return .verbatim (← tokensSince start)

/-- A tail call, which has no layout. -/
def tailCall (g : Grammar) : Parser Expr := do
  let start ← get
  keyword "become"
  let _ ← g.expr true
  return .verbatim (← tokensSince start)

/-- An operand without prefix operators and without anything appended. -/
def atom (g : Grammar) (allowRecord : Bool) : Parser Expr := do
  let ts ← get
  let next := skip ts
  if isLiteralToken ts then literalExpr
  else if isWordToken "async" ts
      && (isBrace next || (isWordToken "move" next && isBrace (skip next))) then
    keyword "async"
    let isMove ← keywordIf "move"
    return .asyncBlock isMove (← bareBlock g)
  else if isWordToken "try" ts && isBrace next then
    keyword "try"
    return .tryBlock (← bareBlock g)
  else if startsClosure ts then closure g allowRecord
  else if isWordToken "builtin" ts && isOp "#" next then builtinCall
  else if startsPlainPath ts || isOp "<" ts
      || (isWordToken "try" ts && (isOp "!" next || isOp "::" next)) then
    pathExpr g allowRecord
  else if isParen ts then parenExpr g
  else if isWordToken "break" ts then breakOut g allowRecord
  else if isWordToken "continue" ts then
    keyword "continue"
    return .continueOn (← lifetimeIf)
  else if isWordToken "return" ts then
    keyword "return"
    return .returnOut (← jumpValue g)
  else if isWordToken "become" ts then tailCall g
  else if isBracket ts then bracketExpr g
  else if isWordToken "let" ts then letTest g allowRecord
  else if isWordToken "if" ts then condition g (ts.length + 1)
  else if isWordToken "while" ts then whileLoop g none
  else if isWordToken "for" ts then forLoop g none
  else if isWordToken "loop" ts then endlessLoop g none
  else if isWordToken "match" ts then matchOn g
  else if isWordToken "yield" ts then
    keyword "yield"
    return .yieldOut (← jumpValue g)
  else if isWordToken "unsafe" ts then
    keyword "unsafe"
    return .unsafeBlock (← block g)
  else if isWordToken "const" ts then
    keyword "const"
    return .constBlock (← block g)
  else if isBrace ts then return .block none (← block g)
  else if isOp ".." ts then
    let (closed, hi) ← rangeTail g allowRecord
    return .range none closed hi
  else if isWordToken "_" ts then
    keyword "_"
    return .infer
  else if isLifetime ts then labeled g
  else failure

/-- An operand without prefix operators, with its attributes and what is appended to it. A range
has no attributes here; what has no layout keeps them among its tokens. -/
def appended (g : Grammar) (allowRecord : Bool) (start : List Token) (attrs : List Attribute) :
    Parser Expr := do
  match ← trailers g (← atom g allowRecord) with
  | .verbatim _ => return .verbatim (← tokensSince start)
  | e =>
    guardThat (attrs.isEmpty || !e.isRange)
    return e.withAttributes attrs

def unaryOp? (ts : List Token) : Option UnaryOp :=
  [.deref, .not, .neg].find? fun (o : UnaryOp) => isOp o.symbol ts

/-- What stands between `&` and its operand. -/
def referenceTo : Parser (Expr → Expr) := do
  let ts ← get
  if isWordToken "raw" ts && isOneOf ["mut", "const"] (skip ts) then
    keyword "raw"
    let isMut ← keywordIf "mut"
    if !isMut then keyword "const"
    return .rawAddress isMut
  return .reference (← keywordIf "mut")

/-- An operand with its prefix operators and what is appended to it. -/
def operandRule (g : Grammar) (allowRecord : Bool) : Parser Expr := do
  let start ← get
  let attrs ← attributes g
  let ts ← get
  if ← opIf "&" then
    let wrap ← referenceTo
    return (wrap (← g.operand allowRecord)).withAttributes attrs
  match unaryOp? ts with
  | some o =>
    op o.symbol
    return (Expr.unary o (← g.operand allowRecord)).withAttributes attrs
  | none => appended g allowRecord start attrs

/-! ### Expressions as statements and bodies of arms -/

def startsBlockLike (ts : List Token) : Bool :=
  let next := skip ts
  isOneOf ["if", "while", "loop", "match", "unsafe"] ts
    || (isWordToken "for" ts && !startsGenerics next)
    || (isOneOf ["try", "const"] ts && isBrace next) || isBrace ts || isLifetime ts

/-- An expression as a statement or the body of an arm: one that ends with its block ends there,
unless a dot or a question mark follows. -/
def earlyRule (g : Grammar) : Parser Expr := do
  let attrs ← attributes g
  let e ← if startsBlockLike (← get) then atom g true else operandRule g true
  if !e.endsWithBlock then
    g.climb (e.withAttributes attrs) true Precedence.jump
  else
    let ts ← get
    if isPlainDot ts || isOp "?" ts then
      let e ← trailers g e
      g.climb (e.withAttributes attrs) true Precedence.jump
    else return e.withAttributes attrs

end Grammar

end ApiClient.Code
