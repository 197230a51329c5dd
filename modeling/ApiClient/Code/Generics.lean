import ApiClient.Code.Pretty
import ApiClient.Code.Tree.Tokens

/-!
Generic parameters and the conditions on them, with their tokens and their layout. Lifetimes are
written before other parameters.
-/

namespace ApiClient.Code

open Layout

inductive GenericParam
  /-- A lifetime and what outlives it. -/
  | lifetime (attrs : List Attribute) (name : String) (bounds : List String) (trailing : Bool)
  | type (attrs : List Attribute) (name : String) (bounds : List Bound) (trailing : Bool)
      (default : Option Ty)
  | const (attrs : List Attribute) (name : String) (t : Ty) (default : Option Expr)

inductive WherePredicate
  | lifetime (name : String) (bounds : List String) (trailing : Bool)
  | type (binder : Option Fragment) (t : Ty) (bounds : List Bound) (trailing : Bool)

/-- Parameters in angle brackets, with the flag of a comma behind the last. -/
structure GenericParams where
  params : List GenericParam := []
  trailing : Bool := false

/-- The conditions behind `where`, with the flag of a comma behind the last. -/
structure WhereClause where
  predicates : List WherePredicate := []
  trailing : Bool := false

structure Generics where
  params : GenericParams := {}
  conditions : WhereClause := {}

/-! ### Tokens -/

/-- What follows a colon; nothing where there are no bounds. -/
def boundsTokens (trailing : Bool) (bounds : List (List Token)) : List Token :=
  if bounds.isEmpty then [] else sym ":" ++ separated (sym "+") trailing bounds

namespace GenericParam

def isLifetime : GenericParam → Bool
  | .lifetime .. => true
  | _ => false

def tokens : GenericParam → List Token
  | .lifetime attrs name bounds trailing =>
    attributeTokens attrs ++ Token.lifetime name
      ++ boundsTokens trailing (bounds.map Token.lifetime)
  | .type attrs name bounds trailing default =>
    attributeTokens attrs ++ word name ++ boundsTokens trailing (bounds.map Bound.tokens)
      ++ default.elim [] fun t => sym "=" ++ t.tokens
  | .const attrs name t default =>
    attributeTokens attrs ++ word "const" ++ word name ++ sym ":" ++ t.tokens
      ++ default.elim [] fun e => sym "=" ++ e.tokens

end GenericParam

def WherePredicate.tokens : WherePredicate → List Token
  | .lifetime name bounds trailing =>
    Token.lifetime name ++ sym ":" ++ separated (sym "+") trailing (bounds.map Token.lifetime)
  | .type binder t bounds trailing =>
    Fragment.optionTokens binder ++ t.tokens ++ sym ":"
      ++ separated (sym "+") trailing (bounds.map Bound.tokens)

def GenericParams.tokens (g : GenericParams) : List Token :=
  if g.params.isEmpty then []
  else
    let parts := (g.params.map GenericParam.isLifetime).zip
      (withCommas g.trailing (g.params.map GenericParam.tokens))
    sym "<" ++ joinWithCommas true ((putFirst (·.1) parts).map (·.2)) ++ sym ">"

def WhereClause.tokens (w : WhereClause) : List Token :=
  if w.predicates.isEmpty then []
  else word "where" ++ separated comma w.trailing (w.predicates.map WherePredicate.tokens)

/-! ### Layout -/

/-- Bounds behind a colon that stands already, each further one where the line may end. -/
def sumPieces : List (List Piece) → List Piece
  | [] => []
  | first :: rest => nbsp ++ first ++ rest.flatMap fun b => space ++ text "+ " ++ b

def GenericParam.pieces : GenericParam → List Piece
  | .lifetime attrs name bounds _ =>
    attributePieces attrs ++ lifetimePieces name
      ++ if bounds.isEmpty then []
        else text ": " ++ joinedPieces " + " (bounds.map lifetimePieces)
  | .type attrs name bounds _ default =>
    attributePieces attrs ++ text name
      ++ filled indentWidth (boundListPieces (bounds.map Bound.pieces)
        ++ default.elim [] fun t => space ++ text "= " ++ t.pieces)
  | .const attrs name t default =>
    attributePieces attrs ++ text "const " ++ text name ++ text ": " ++ t.pieces
      ++ default.elim [] fun e => text " = " ++ e.pieces .plain

def WherePredicate.pieces : WherePredicate → List Piece
  | .lifetime name bounds _ =>
    lifetimePieces name ++ text ":" ++ filled indentWidth (sumPieces (bounds.map lifetimePieces))
  | .type binder t bounds _ =>
    Fragment.optionLayout binder ++ t.pieces ++ text ":"
      ++ filled (if bounds.length = 1 then 0 else indentWidth)
        (sumPieces (bounds.map Bound.pieces))

def GenericParams.pieces (g : GenericParams) : List Piece :=
  if g.params.isEmpty then []
  else text "<" ++ consistent 0 (zeroBreak ++ listPieces
      (lifetimesFirst (g.params.map GenericParam.isLifetime) (g.params.map GenericParam.pieces))
    ++ outdent) ++ text ">"

/-- How a where clause stands in its item. -/
structure WhereStyle where
  /-- Each condition on a line of its own. -/
  lines : Bool
  /-- A semicolon ends the item. -/
  ends : Bool
  deriving DecidableEq, Repr

/-- A where clause, or what stands in its place. -/
def WhereClause.pieces (style : WhereStyle) (w : WhereClause) : List Piece :=
  let gap := if style.lines then hardBreak else space
  if w.predicates.isEmpty then if style.ends then text ";" else nbsp
  else gap ++ outdent ++ text "where" ++ gap ++ go gap w.predicates
where
  go (gap : List Piece) : List WherePredicate → List Piece
    | [] => []
    | [last] => last.pieces ++ if style.ends then text ";" else text "," ++ gap ++ outdent
    | p :: rest => p.pieces ++ text "," ++ gap ++ go gap rest

/-! ### Binders -/

/-- `for<…>` in front of what its parameters are for. -/
def GenericParams.binder (g : GenericParams) : Fragment where
  tokens := word "for" ++ sym "<"
    ++ separated comma g.trailing (g.params.map GenericParam.tokens) ++ sym ">"
  layout := text "for<" ++ joinedPieces ", " (g.params.map GenericParam.pieces) ++ text "> "

end ApiClient.Code
