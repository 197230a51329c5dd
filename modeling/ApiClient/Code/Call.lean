import ApiClient.Code.Grammar
import ApiClient.Code.Tree.Tokens

/-!
Calls of functions with type arguments, and statements that return them.
-/

namespace ApiClient.Code

structure Call where
  attrs : List Attribute
  callee : Expr
  args : List Expr
  trailing : Bool

namespace Call

/-- `name::<types>(args)`; without types there is no generic list. -/
def build (name : Ident) (args : List Expr) (types : List Ty) : Call where
  attrs := []
  callee := .path (.plain false [.mk name.name
    (if types.isEmpty then .none else .angle true (types.map .type) false)])
  args := args
  trailing := false

def toExpr (c : Call) : Expr := (Expr.call c.callee c.args c.trailing).withAttributes c.attrs

def ofExpr? : Expr → Option Call
  | .call callee args trailing => some ⟨[], callee, args, trailing⟩
  | .attributed attrs (.call callee args trailing) => some ⟨attrs, callee, args, trailing⟩
  | _ => none

def tokens (c : Call) : List Token := c.toExpr.tokens

def lastSegment? : Path → Option Segment
  | .plain _ segments => segments.getLast?
  | .qualified _ _ _ rest => rest.getLast?

def typesOf (args : List GenericArg) : List Ty :=
  args.filterMap fun
    | .type t => some t
    | _ => none

/-- The type arguments of the callee, in order. -/
def typeArguments (c : Call) : List Ty :=
  match c.callee with
  | .path p =>
    match lastSegment? p with
    | some (.mk _ (.angle _ args _)) => typesOf args
    | _ => []
  | _ => []

end Call

structure Return where
  value : Option Expr

namespace Return

def ofCall (name : Ident) (args : List Expr) (types : List Ty) : Return :=
  ⟨some (Call.build name args types).toExpr⟩

/-- The returned call, when the value is one. -/
def call? (r : Return) : Option Call := r.value.bind Call.ofExpr?

def stmt (r : Return) : Stmt := .expr (.returnOut r.value) true

def tokens (r : Return) : List Token := r.stmt.tokens

end Return

end ApiClient.Code
