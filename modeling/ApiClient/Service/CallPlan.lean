import ApiClient.Code.Call

/-!
Call plans: everything that a statement `return name::<types>(args);` is made of. A plan comes
from texts that are checked, except for the names among its arguments, of which those that are no
identifier are left out of the call.
-/

namespace ApiClient.Service

open Code

/-- An argument as handed over: a bare name, or an expression. -/
inductive Arg
  | identifier (name : String)
  | expression (e : Expr)

def Arg.toExpr? : Arg → Option Expr
  | .expression e => some e
  | .identifier name => (Ident.parse? name).map fun i => .path (.ofName i.name)

def argExprs (args : List Arg) : List Expr := args.filterMap Arg.toExpr?

structure CallPlan where
  name : Ident
  args : List Arg
  types : List Ty

/-- Why a text is no part of a call plan. -/
inductive PlanError
  | invalidName (name : String)
  | invalidTypeArgument (text : String)
  deriving DecidableEq, Repr

/-- The part of the message that does not depend on the parser. -/
def PlanError.message : PlanError → String
  | .invalidName name => s!"call name `{name}` is not a valid identifier"
  | .invalidTypeArgument text => s!"type argument `{text}` is not a valid type"

namespace CallPlan

def parseTypes : List String → Except PlanError (List Ty)
  | [] => .ok []
  | text :: rest =>
    match Ty.parse? text with
    | none => .error (.invalidTypeArgument text)
    | some t => (parseTypes rest).map (t :: ·)

/-- A plan from the text of a name and of types. -/
def parse (name : String) (args : List Arg) (types : List String) : Except PlanError CallPlan :=
  match Ident.parse? name with
  | none => .error (.invalidName name)
  | some ident => (parseTypes types).map fun types => ⟨ident, args, types⟩

/-- `return name::<types>(args);`. -/
def toReturn (plan : CallPlan) : Return :=
  Return.ofCall plan.name (argExprs plan.args) plan.types

end CallPlan

end ApiClient.Service
