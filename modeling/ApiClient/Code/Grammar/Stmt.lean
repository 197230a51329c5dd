import ApiClient.Code.Grammar.Expr

/-!
Statements. One that begins like an item is an item; an expression that ends with its block needs
no semicolon.
-/

namespace ApiClient.Code.Grammar

open ApiClient.Code.Parser

def startsItem (ts : List Token) : Bool :=
  let next := skip ts
  let isAfterAsync := isOneOf ["unsafe", "extern", "fn"]
  isOneOf ["pub", "extern", "use", "fn", "mod", "type", "struct", "enum", "trait", "impl", "macro"]
      ts
    || (isWordToken "crate" ts && !isOp "::" next)
    || (isWordToken "static" ts && (isWordToken "mut" next || isIdentToken next))
    || (isWordToken "const" ts && !(isBrace next || isOneOf ["static", "move"] next
      || isOp "|" next || (isWordToken "async" next && !isAfterAsync (skip next))))
    || (isWordToken "unsafe" ts && !isBrace next)
    || (isWordToken "async" ts && isAfterAsync next)
    || (isWordToken "union" ts && isIdentToken next)
    || (isWordToken "auto" ts && isWordToken "trait" next)
    || (isWordToken "default" ts && isOneOf ["unsafe", "impl"] next)

/-- What a statement that begins with a macro call is. -/
inductive MacroStart
  /-- An item, with a name behind the exclamation mark. -/
  | item
  /-- A call in braces that is a statement of its own; the tokens from the braces on. -/
  | braces (path : PlainPath) (rest : List Token)
  | expr

def macroStart (ts : List Token) : MacroStart :=
  match plainPath ts with
  | some (p, rest) =>
    let body := skip rest
    let after := skip body
    if !isOp "!" rest then .expr
    else if isIdentToken body || isWordToken "try" body then .item
    else if isBrace body && !(isPlainDot after || isOp "?" after) then .braces p body
    else .expr
  | none => .expr

def endsWithBraces (ts : List Token) : Bool :=
  match ts.getLast? with
  | some (.group .brace _) => true
  | _ => false

def letStmt (g : Grammar) (attrs : List Attribute) : Parser Stmt := do
  keyword "let"
  let p ← g.patSingle
  let p ← if ← opIf ":" then Pat.typed p <$> g.ty true else pure p
  if ← opIf "=" then
    let start ← get
    let init ← g.expr true
    if !endsWithBraces (← tokensSince start) && isWordToken "else" (← get) then
      keyword "else"
      let orElse ← bareBlock g
      op ";"
      return .letElse attrs p init orElse
    op ";"
    return .letBind attrs p (some init)
  op ";"
  return .letBind attrs p none

/-- A macro call that is all of its statement, with its attributes. -/
def macroStmt? : Expr → Option (List Attribute × MacroCall)
  | .macroCall m => some ([], m)
  | .attributed attrs (.macroCall m) => some (attrs, m)
  | _ => none

def exprStmt (g : Grammar) (attrs : List Attribute) : Parser Stmt := do
  let e ← g.early
  let e := e.attributeLeft attrs
  let semicolon ← opIf ";"
  match macroStmt? e with
  | some (attrs, m) =>
    if semicolon || m.delimiter = .brace then return .macroCall attrs m semicolon
    return .expr e semicolon
  | none => return .expr e semicolon

def stmt (g : Grammar) : Parser Stmt := do
  let start ← get
  let attrs ← attributes g
  let ts ← get
  let asItem : Parser Stmt := do return .item (← g.item start attrs).fragment
  match macroStart ts with
  | .item => asItem
  | .braces p rest =>
    set rest
    let m ← macroBody p
    return .macroCall attrs m (← opIf ";")
  | .expr =>
    if isWordToken "let" ts then letStmt g attrs
    else if startsItem ts then asItem
    else exprStmt g attrs

/-- Whether a statement must be the last of its block. -/
def mustBeLast : Stmt → Bool
  | .expr e false => e.needsSemicolon
  | .macroCall _ m false => m.delimiter != .brace
  | _ => false

def stmtsRule (g : Grammar) : Parser (List Stmt) := do
  loop ((← get).length + 1)
where
  loop : Nat → Parser (List Stmt)
    | 0 => failure
    | n + 1 => do
      if ← opIf ";" then return .empty :: (← loop n)
      if ← atEnd then return []
      let s ← stmt g
      if ← atEnd then return [s]
      guardThat (!mustBeLast s)
      return s :: (← loop n)

end ApiClient.Code.Grammar
