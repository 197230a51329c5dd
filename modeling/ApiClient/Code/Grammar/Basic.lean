import ApiClient.Code.Ident
import ApiClient.Code.Item.Pretty

/-!
Reading trees from tokens. A `Parser` takes tokens from the front of a list or fails. The grammar
is recursive through groups and operands; `Grammar` collects the parsers that stand for a whole
syntactic category, so that the rules of one category can be written with those of the others
given.
-/

namespace ApiClient.Code

abbrev Parser := StateT (List Token) Option

/-- The parsers that the rules of the grammar call back. -/
structure Grammar where
  ty : (allowPlus : Bool) → Parser Ty
  /-- A bound, where captures and conditions on constness are admitted. -/
  bound : (allowCapture allowConst : Bool) → Parser Bound
  /-- A whole expression; `allowRecord` admits `Name { … }`. -/
  expr : (allowRecord : Bool) → Parser Expr
  /-- An operand with its prefix operators and what is appended to it. -/
  operand : (allowRecord : Bool) → Parser Expr
  /-- Goes on from a left operand with operators that bind at least as tightly as `base`. -/
  climb : (lhs : Expr) → (allowRecord : Bool) → (base : Nat) → Parser Expr
  /-- An operand with everything appended to it that binds tighter than an operator. -/
  rightOperand : (allowRecord : Bool) → (precedence : Nat) → Parser Expr
  /-- An expression as a statement or the body of an arm. -/
  early : Parser Expr
  /-- The statements of a whole block. -/
  stmts : Parser (List Stmt)
  pat : Parser Pat
  /-- A pattern without alternatives. -/
  patSingle : Parser Pat
  /-- An item behind its attributes; `start` are the tokens from the attributes on. -/
  item : (start : List Token) → (attrs : List Attribute) → Parser Item
  /-- Named fields in their braces. -/
  recordFields : Parser Fields

namespace Parser

def run? {α : Type} (p : Parser α) (tokens : List Token) : Option α :=
  match p tokens with
  | some (x, []) => some x
  | _ => none

/-! ### Looking ahead -/

/-- The rest after one token, a lifetime taken as one. -/
def skip : List Token → List Token
  | .punct '\'' true :: .ident _ :: rest => rest
  | ts => ts.drop 1

def isGroup (d : Delimiter) : List Token → Bool
  | .group d' _ :: _ => d = d'
  | _ => false

def isParen (ts : List Token) : Bool := isGroup .paren ts
def isBracket (ts : List Token) : Bool := isGroup .bracket ts
def isBrace (ts : List Token) : Bool := isGroup .brace ts

def isWordToken (w : String) : List Token → Bool
  | .ident name :: _ => name == w
  | _ => false

def isOneOf (words : List String) (ts : List Token) : Bool := words.any (isWordToken · ts)

/-- The rest after an operator: its characters in a row, all but the last joined to the next. -/
def afterOp? : List Char → List Token → Option (List Token)
  | [], ts => some ts
  | [c], .punct c' _ :: ts => if c = c' then some ts else none
  | c :: cs, .punct c' true :: ts => if c = c' then afterOp? cs ts else none
  | _, _ => none

def isOp (s : String) (ts : List Token) : Bool := (afterOp? s.toList ts).isSome

/-- A colon that does not begin `::`. -/
def isColon (ts : List Token) : Bool := isOp ":" ts && !isOp "::" ts

/-- A dot that does not begin a range. -/
def isPlainDot (ts : List Token) : Bool := isOp "." ts && !isOp ".." ts

def isBang (ts : List Token) : Bool := isOp "!" ts && !isOp "!=" ts

/-- An angle bracket that opens arguments and is no comparison or shift. -/
def isOpeningAngle (ts : List Token) : Bool := isOp "<" ts && !isOp "<=" ts && !isOp "<<=" ts

def isAnyIdent : List Token → Bool
  | .ident _ :: _ => true
  | _ => false

/-- Whether the tokens begin with an identifier that is no reserved word. -/
def isIdentToken : List Token → Bool
  | .ident name :: _ => !reservedWords.contains name
  | _ => false

def isLifetime : List Token → Bool
  | .punct '\'' true :: .ident _ :: _ => true
  | _ => false

def isLiteralToken : List Token → Bool
  | .literal _ :: _ => true
  | .ident name :: _ => name == "true" || name == "false"
  | .punct '-' _ :: .literal l :: _ => l.kind == .integer || l.kind == .float
  | _ => false

/-- Whether the tokens begin with one of the words that refer to an enclosing scope. -/
def isScopeWord (ts : List Token) : Bool := isOneOf ["super", "self", "Self", "crate"] ts

/-- Whether the tokens begin with a path that has no self type. -/
def startsPlainPath (ts : List Token) : Bool := isIdentToken ts || isScopeWord ts || isOp "::" ts

/-- Whether angle brackets hold generic parameters, rather than the self type of a path. -/
def startsGenerics (ts : List Token) : Bool :=
  let inner := skip ts
  let next := skip inner
  isOp "<" ts && (isOp ">" inner || isOp "#" inner || isWordToken "const" inner
    || ((isLifetime inner || isIdentToken inner)
      && (isOp ">" next || isOp "," next || isColon next || isOp "=" next)))

/-! ### Taking tokens -/

def atEnd : Parser Bool := return (← get).isEmpty

def guardThat (b : Bool) : Parser Unit := if b then pure () else failure

def tokensSince (start : List Token) : Parser (List Token) :=
  return start.take (start.length - (← get).length)

def op (s : String) : Parser Unit := do
  match afterOp? s.toList (← get) with
  | some rest => set rest
  | none => failure

def keyword (w : String) : Parser Unit := do
  guardThat (isWordToken w (← get))
  modify (·.drop 1)

def opIf (s : String) : Parser Bool := do
  if isOp s (← get) then op s; return true
  return false

def keywordIf (w : String) : Parser Bool := do
  if isWordToken w (← get) then keyword w; return true
  return false

def anyIdent : Parser String := do
  match ← get with
  | .ident name :: rest => set rest; return name
  | _ => failure

def ident : Parser String := do
  guardThat (isIdentToken (← get))
  anyIdent

def identOr (words : List String) : Parser String := do
  let ts ← get
  guardThat (isIdentToken ts || isOneOf words ts)
  anyIdent

def lifetime : Parser String := do
  match ← get with
  | .punct '\'' true :: .ident name :: rest => set rest; return name
  | _ => failure

def lifetimeIf : Parser (Option String) := do
  if isLifetime (← get) then return some (← lifetime)
  return none

/-- What a parser reads where the test holds. -/
def optionally {α : Type} (test : List Token → Bool) (p : Parser α) : Parser (Option α) := do
  if test (← get) then return some (← p)
  return none

def inside {α : Type} (d : Delimiter) (p : Parser α) : Parser α := do
  match ← get with
  | .group d' body :: rest =>
    guardThat (d = d')
    let x ← run? p body
    set rest
    return x
  | _ => failure

/-- Takes a group whatever is inside. -/
def anyInside (d : Delimiter) : Parser (List Token) := do
  match ← get with
  | .group d' body :: rest =>
    guardThat (d = d')
    set rest
    return body
  | _ => failure

def literalExpr : Parser Expr := do
  match ← get with
  | .literal l :: rest => set rest; return .lit l
  | .ident "true" :: rest => set rest; return .bool true
  | .ident "false" :: rest => set rest; return .bool false
  | .punct '-' _ :: .literal l :: rest =>
    guardThat (l.kind == .integer || l.kind == .float)
    set rest
    return .unary .neg (.lit l)
  | _ => failure

/-- The position that a numeral without a suffix spells, in any base and with gaps. -/
def position? (numeral : String) : Option Nat :=
  let (base, digits) := match numeral.toList with
    | '0' :: 'x' :: rest => (16, rest)
    | '0' :: 'o' :: rest => (8, rest)
    | '0' :: 'b' :: rest => (2, rest)
    | cs => (10, cs)
  let digits := digits.filter (· != '_')
  let value := digits.foldlM (fun n c =>
    ((Quoted.hexValue? c).filter (· < base)).map (base * n + ·)) 0
  if digits.isEmpty then none else value.filter (· < 4294967296)

def member : Parser Member := do
  match ← get with
  | .literal l :: rest =>
    guardThat (l.kind == .integer)
    match position? l.text with
    | some n => set rest; return .position n
    | none => failure
  | _ => return .named (← ident)

def isNamed : Member → Bool
  | .named _ => true
  | .position _ => false

/-! ### Lists -/

/-- Items with a separator between them up to where `stop` holds; whether the separator follows
the last one too. -/
def separatedUntil {α : Type} (sep : String) (stop : List Token → Bool) (item : Parser α) :
    Parser (List α × Bool) := do
  let (xs, trailing) ← loop ((← get).length + 1)
  return (xs, trailing && !xs.isEmpty)
where
  loop : Nat → Parser (List α × Bool)
    | 0 => failure
    | n + 1 => do
      if stop (← get) then return ([], true)
      let x ← item
      if stop (← get) then return ([x], false)
      op sep
      let (xs, trailing) ← loop n
      return (x :: xs, trailing)

def commaList {α : Type} (item : Parser α) : Parser (List α × Bool) :=
  separatedUntil "," List.isEmpty item

/-- Items that go on as long as `sep` follows and `stop` does not hold behind it; whether `sep`
follows the last one too. -/
def whileSeparated {α : Type} (sep : String) (stop : List Token → Bool) (item : Parser α) :
    Parser (List α × Bool) := do
  let (xs, trailing) ← loop ((← get).length + 1)
  return (xs, trailing && !xs.isEmpty)
where
  loop : Nat → Parser (List α × Bool)
    | 0 => failure
    | n + 1 => do
      if stop (← get) then return ([], true)
      let x ← item
      if ← opIf sep then
        let (xs, trailing) ← loop n
        return (x :: xs, trailing)
      return ([x], false)

def manyWhile {α : Type} (test : List Token → Bool) (item : Parser α) : Parser (List α) := do
  loop ((← get).length + 1)
where
  loop : Nat → Parser (List α)
    | 0 => failure
    | n + 1 => do
      if test (← get) then
        let x ← item
        return x :: (← loop n)
      return []

/-! ### Paths without arguments and macros -/

def plainPath : Parser PlainPath := do
  let rooted ← opIf "::"
  let names ← loop ((← get).length + 1)
  return ⟨rooted, names⟩
where
  loop : Nat → Parser (List String)
    | 0 => failure
    | n + 1 => do
      let ts ← get
      guardThat (isIdentToken ts || isScopeWord ts)
      let name ← anyIdent
      if ← opIf "::" then return name :: (← loop n)
      return [name]

def macroBody (path : PlainPath) : Parser MacroCall := do
  match ← get with
  | .group d body :: rest => set rest; return ⟨path, d, body⟩
  | _ => failure

end Parser

namespace Grammar

open ApiClient.Code.Parser

/-! ### Attributes and blocks -/

/-- The value of an attribute: any expression but one that begins with an attribute. -/
def attributeValue (g : Grammar) : Parser Fragment := do
  let ts ← get
  guardThat (!(isOp "#" ts && isBracket (skip ts)))
  let e ← g.expr true
  return ⟨e.tokens, e.pieces .plain⟩

def attributeBody (g : Grammar) : Parser Attribute := do
  let path ← if ← keywordIf "unsafe" then pure ⟨false, ["unsafe"]⟩ else plainPath
  match ← get with
  | .group d body :: rest => set rest; return ⟨path, .group d body⟩
  | _ =>
    if ← opIf "=" then return ⟨path, .value (← attributeValue g)⟩
    return ⟨path, .none⟩

def attributes (g : Grammar) : Parser (List Attribute) :=
  manyWhile (isOp "#") do
    op "#"
    inside .bracket (attributeBody g)

def innerAttributes (g : Grammar) : Parser (List Attribute) :=
  manyWhile (fun ts => isOp "#" ts && isOp "!" (skip ts)) do
    op "#"
    op "!"
    inside .bracket (attributeBody g)

/-- A block that may begin with attributes of its own. -/
def block (g : Grammar) : Parser Block :=
  inside .brace do return .mk (← innerAttributes g) (← g.stmts)

/-- A block without attributes of its own. -/
def bareBlock (g : Grammar) : Parser Block := inside .brace do return .mk [] (← g.stmts)

end Grammar

end ApiClient.Code
