import ApiClient.Code.Tree

/-!
Shapes of trees on which more than one of reading, tokens and layout depends: attributes, lists
that are put in order, and whether an expression ends with its block.
-/

namespace ApiClient.Code

/-! ### Lists in order -/

/-- Items with those in front for which `first` holds. -/
def putFirst {α : Type} (first : α → Bool) (items : List α) : List α :=
  items.filter first ++ items.filter fun x => !first x

/-- Whether a captured name is a lifetime. -/
def isCapturedLifetime (name : String) : Bool := name.toList.head? == some '\''

def GenericArg.isLifetime : GenericArg → Bool
  | .lifetime _ => true
  | _ => false

/-! ### Expressions -/

namespace Expr

def withAttributes (attrs : List Attribute) (e : Expr) : Expr :=
  if attrs.isEmpty then e
  else match e with
    | .attributed inner e => .attributed (attrs ++ inner) e
    | .verbatim tokens => .verbatim tokens
    | e => .attributed attrs e

/-- Puts attributes on the operand that an expression begins with. -/
def attributeLeft (attrs : List Attribute) : Expr → Expr
  | .assign l r => .assign (l.attributeLeft attrs) r
  | .binary l op r => .binary (l.attributeLeft attrs) op r
  | .cast e t => .cast (e.attributeLeft attrs) t
  | e => e.withAttributes attrs

def isRange : Expr → Bool
  | .attributed _ e => e.isRange
  | .range .. => true
  | _ => false

/-- Expressions that end with their block, so that nothing has to follow them. -/
def endsWithBlock : Expr → Bool
  | .attributed _ e => e.endsWithBlock
  | .cond .. | .matchOn .. | .block .. | .unsafeBlock _ | .whileLoop .. | .loop .. | .forLoop ..
  | .tryBlock _ | .constBlock _ => true
  | _ => false

/-- Whether an expression needs a semicolon before another statement. -/
def needsSemicolon : Expr → Bool
  | .attributed _ e => e.needsSemicolon
  | .macroCall m => m.delimiter != .brace
  | e => !e.endsWithBlock

end Expr

end ApiClient.Code
