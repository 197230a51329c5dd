import ApiClient.Code.Grammar.Item
import ApiClient.Code.Grammar.Stmt
import ApiClient.Code.Lexer

/-!
Whole texts as types, expressions and paths. The rules of the grammar are closed over each other
to a depth of `fuel`: each call between them takes a token or is one of a few that do not, so a
depth of a few calls per token is never used up.
-/

namespace ApiClient.Code

namespace Grammar

/-- The rules with those of one level less. -/
def next (g : Grammar) : Grammar where
  ty := tyRule g
  bound := boundRule g
  expr allowRecord := do
    let lhs ← operandRule g allowRecord
    climbRule g lhs allowRecord Precedence.jump
  operand := operandRule g
  climb := climbRule g
  rightOperand := rightOperandRule g
  early := earlyRule g
  stmts := stmtsRule g
  pat := patRule g
  patSingle := patSingleRule g
  item := itemRule g
  recordFields := recordFieldsRule g

/-- Nothing can be read without a level left. -/
def empty : Grammar where
  ty _ := failure
  bound _ _ := failure
  expr _ := failure
  operand _ := failure
  climb _ _ _ := failure
  rightOperand _ _ := failure
  early := failure
  stmts := failure
  pat := failure
  patSingle := failure
  item _ _ := failure
  recordFields := failure

def ofFuel : Nat → Grammar
  | 0 => empty
  | fuel + 1 => next (ofFuel fuel)

end Grammar

def Grammar.for (tokens : List Token) : Grammar := .ofFuel (4 * Token.countAll tokens + 16)

/-- Reads a whole text as one syntactic category. -/
def parseWith {α : Type} (rule : Grammar → Parser α) (source : String) : Option α := do
  let tokens ← Token.ofText? source
  Parser.run? (rule (.for tokens)) tokens

def Ty.parse? (source : String) : Option Ty := parseWith (·.ty true) source

def Expr.parse? (source : String) : Option Expr := parseWith (·.expr true) source

/-- The path that a text spells, its arguments written as in types. -/
def Path.parse? (source : String) : Option Path := parseWith (Grammar.plain · false) source

end ApiClient.Code
