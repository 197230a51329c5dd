import ApiClient.Code.Fragment

/-!
Trees of types, expressions, patterns and statements. Each keeps what its source text showed and
blanks did not: parentheses, trailing commas, labels and attributes. Items inside blocks, binders
and the rarer notations are fragments.
-/

namespace ApiClient.Code

/-! ### Parts that hold no trees -/

/-- What stands before the `fn` of a function; `abi` is `extern`, perhaps with a string literal. -/
structure FnQualifiers where
  isConst : Bool
  isAsync : Bool
  isUnsafe : Bool
  abi : Option (Option Literal)
  deriving DecidableEq, Repr

/-- Everything before the parameters of a function type, and how they end. -/
structure FnTyHeader where
  /-- `for<…>`. -/
  binder : Option Fragment
  qualifiers : FnQualifiers
  trailing : Bool
  /-- `...` with what may stand around it. -/
  variadic : Option Fragment
  deriving Repr, BEq

/-- Everything before the parameters of a closure, and how they end. -/
structure ClosureHeader where
  binder : Option Fragment
  isConst : Bool
  isStatic : Bool
  isAsync : Bool
  isMove : Bool
  trailing : Bool
  deriving Repr, BEq

inductive UnaryOp
  | deref
  | not
  | neg
  deriving DecidableEq, Repr

def UnaryOp.symbol : UnaryOp → String
  | .deref => "*"
  | .not => "!"
  | .neg => "-"

inductive BinaryOp
  | addAssign | subAssign | mulAssign | divAssign | remAssign
  | xorAssign | andAssign | orAssign | shlAssign | shrAssign
  | and | or | shl | shr
  | eq | le | ne | ge
  | add | sub | mul | div | rem
  | bitXor | bitAnd | bitOr | lt | gt
  deriving DecidableEq, Repr

def BinaryOp.all : List BinaryOp :=
  [.addAssign, .subAssign, .mulAssign, .divAssign, .remAssign, .xorAssign, .andAssign, .orAssign,
    .shlAssign, .shrAssign, .and, .or, .shl, .shr, .eq, .le, .ne, .ge, .add, .sub, .mul, .div, .rem,
    .bitXor, .bitAnd, .bitOr, .lt, .gt]

def BinaryOp.symbol : BinaryOp → String
  | .addAssign => "+="
  | .subAssign => "-="
  | .mulAssign => "*="
  | .divAssign => "/="
  | .remAssign => "%="
  | .xorAssign => "^="
  | .andAssign => "&="
  | .orAssign => "|="
  | .shlAssign => "<<="
  | .shrAssign => ">>="
  | .and => "&&"
  | .or => "||"
  | .shl => "<<"
  | .shr => ">>"
  | .eq => "=="
  | .le => "<="
  | .ne => "!="
  | .ge => ">="
  | .add => "+"
  | .sub => "-"
  | .mul => "*"
  | .div => "/"
  | .rem => "%"
  | .bitXor => "^"
  | .bitAnd => "&"
  | .bitOr => "|"
  | .lt => "<"
  | .gt => ">"

/-- A field of a value: by name, or by position in a tuple. -/
inductive Member
  | named (name : String)
  | position (n : Nat)
  deriving DecidableEq, Repr

/-! ### Trees -/

mutual

inductive Ty
  | array (elem : Ty) (size : Expr)
  | function (header : FnTyHeader) (inputs : List FnInput) (output : Option Ty)
  | implTrait (bounds : List Bound) (trailing : Bool)
  | infer
  | macroCall (m : MacroCall)
  | never
  | paren (t : Ty)
  | path (p : Path)
  | pointer (isMut : Bool) (t : Ty)
  | reference (lifetime : Option String) (isMut : Bool) (t : Ty)
  | slice (t : Ty)
  | traitObject (isDyn : Bool) (bounds : List Bound) (trailing : Bool)
  | tuple (elems : List Ty) (trailing : Bool)
  /-- A type without a layout. -/
  | verbatim (tokens : List Token)

inductive FnInput
  | mk (attrs : List Attribute) (name : Option String) (t : Ty)

inductive Bound
  | lifetime (name : String)
  | trait (inParens isMaybe : Bool) (binder : Option Fragment) (p : Path)
  /-- `use<…>` with lifetimes (kept with their quote) and names. -/
  | capture (names : List String) (trailing : Bool)
  /-- A bound without a layout. -/
  | verbatim (tokens : List Token)

inductive Path
  | plain (rooted : Bool) (segments : List Segment)
  /-- `<self as ::trait>::rest`; without `as` when `trait` is empty. -/
  | qualified (self : Ty) (rooted : Bool) (trait : List Segment) (rest : List Segment)

inductive Segment
  | mk (name : String) (args : SegmentArgs)

inductive SegmentArgs
  | none
  | angle (turbofish : Bool) (args : List GenericArg) (trailing : Bool)
  /-- `(inputs) -> output`, as in `Fn(A) -> B`. -/
  | paren (inputs : List Ty) (trailing : Bool) (output : Option Ty)

inductive GenericArg
  | lifetime (name : String)
  | type (t : Ty)
  | const (e : Expr)
  | assocType (name : String) (args : SegmentArgs) (t : Ty)
  | assocConst (name : String) (args : SegmentArgs) (e : Expr)
  | constraint (name : String) (args : SegmentArgs) (bounds : List Bound) (trailing : Bool)

inductive Expr
  | array (elems : List Expr) (trailing : Bool)
  | assign (l r : Expr)
  | asyncBlock (isMove : Bool) (body : Block)
  | attributed (attrs : List Attribute) (e : Expr)
  | await (e : Expr)
  | binary (l : Expr) (op : BinaryOp) (r : Expr)
  | block (label : Option String) (body : Block)
  | bool (value : Bool)
  | breakOut (label : Option String) (value : Option Expr)
  | call (callee : Expr) (args : List Expr) (trailing : Bool)
  | cast (e : Expr) (t : Ty)
  | closure (header : ClosureHeader) (inputs : List Pat) (output : Option Ty) (body : Expr)
  | cond (test : Expr) (body : Block) (orElse : Option Expr)
  | constBlock (body : Block)
  | continueOn (label : Option String)
  | field (e : Expr) (m : Member)
  | forLoop (label : Option String) (p : Pat) (range : Expr) (body : Block)
  | index (e i : Expr)
  | infer
  | isLet (p : Pat) (e : Expr)
  | lit (l : Literal)
  | loop (label : Option String) (body : Block)
  | macroCall (m : MacroCall)
  /-- A match with the attributes and arms inside its braces. -/
  | matchOn (e : Expr) (inner : List Attribute) (arms : List Arm)
  | methodCall (receiver : Expr) (name : String) (turbofish : SegmentArgs) (args : List Expr)
      (trailing : Bool)
  | paren (e : Expr)
  | path (p : Path)
  | question (e : Expr)
  | range (lo : Option Expr) (closed : Bool) (hi : Option Expr)
  | rawAddress (isMut : Bool) (e : Expr)
  | record (p : Path) (fields : List FieldValue) (trailing dots : Bool) (base : Option Expr)
  | reference (isMut : Bool) (e : Expr)
  | repeated (e size : Expr)
  | returnOut (value : Option Expr)
  | tryBlock (body : Block)
  | tuple (elems : List Expr) (trailing : Bool)
  | unary (op : UnaryOp) (e : Expr)
  | unsafeBlock (body : Block)
  /-- An expression without a layout. -/
  | verbatim (tokens : List Token)
  | whileLoop (label : Option String) (test : Expr) (body : Block)
  | yieldOut (value : Option Expr)

/-- What stands between braces: attributes of the block itself, and statements. -/
inductive Block
  | mk (inner : List Attribute) (stmts : List Stmt)

inductive Stmt
  /-- A semicolon on its own. -/
  | empty
  | letBind (attrs : List Attribute) (p : Pat) (init : Option Expr)
  /-- `let p = init else { … };`. -/
  | letElse (attrs : List Attribute) (p : Pat) (init : Expr) (orElse : Block)
  | expr (e : Expr) (semicolon : Bool)
  | macroCall (attrs : List Attribute) (m : MacroCall) (semicolon : Bool)
  | item (f : Fragment)

inductive Arm
  | mk (attrs : List Attribute) (p : Pat) (guard : Option Expr) (body : Expr) (comma : Bool)

/-- A field of a record expression; without a value it is the variable of that name. -/
inductive FieldValue
  | mk (attrs : List Attribute) (m : Member) (value : Option Expr)

inductive Pat
  | attributed (attrs : List Attribute) (p : Pat)
  | constBlock (body : Block)
  | ident (isRef isMut : Bool) (name : String)
  | lit (e : Expr)
  | macroCall (m : MacroCall)
  /-- `name @ p`. -/
  | naming (isRef isMut : Bool) (name : String) (p : Pat)
  | oneOf (leading : Bool) (cases : List Pat)
  | paren (p : Pat)
  | path (p : Path)
  | range (lo : Option Expr) (closed : Bool) (hi : Option Expr)
  /-- Fields in braces; `dots` is `..` at their end, with its attributes. -/
  | record (p : Path) (fields : List FieldPat) (trailing : Bool) (dots : Option (List Attribute))
  | reference (isMut : Bool) (p : Pat)
  | rest
  | slice (elems : List Pat) (trailing : Bool)
  | tuple (elems : List Pat) (trailing : Bool)
  | tupleRecord (p : Path) (elems : List Pat) (trailing : Bool)
  | typed (p : Pat) (t : Ty)
  /-- A pattern without a layout. -/
  | verbatim (tokens : List Token)
  | wild

/-- A field of a record pattern; without a member the pattern is a variable that names it. -/
inductive FieldPat
  | mk (attrs : List Attribute) (m : Option Member) (p : Pat)

end

/-- Puts attributes in front of a pattern. -/
def Pat.withAttributes (attrs : List Attribute) (p : Pat) : Pat :=
  if attrs.isEmpty then p else .attributed attrs p

def Block.isEmpty : Block → Bool
  | .mk [] [] => true
  | _ => false

def Block.hasAttributes : Block → Bool
  | .mk inner _ => !inner.isEmpty

def Path.ofName (name : String) : Path := .plain false [.mk name .none]

def Segment.bareName? : Segment → Option String
  | .mk name .none => some name
  | .mk _ _ => Option.none

/-- The path as plain words, when it has no arguments and no self type. -/
def Path.toPlain? : Path → Option PlainPath
  | .plain rooted segments => (segments.mapM Segment.bareName?).map (PlainPath.mk rooted)
  | .qualified .. => none

end ApiClient.Code
