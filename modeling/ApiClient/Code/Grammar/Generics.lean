import ApiClient.Code.Grammar.Path

/-!
Generic parameters, the binders made of them, and the conditions on them.
-/

namespace ApiClient.Code.Grammar

open ApiClient.Code.Parser

/-! ### Parameters -/

def endsParamBounds (ts : List Token) : Bool :=
  ts.isEmpty || isOp "," ts || isOp ">" ts || isOp "=" ts

def lifetimeParam (attrs : List Attribute) : Parser GenericParam := do
  let name ← lifetime
  if ← opIf ":" then
    let stop (ts : List Token) := ts.isEmpty || isOp "," ts || isOp ">" ts
    let (bounds, trailing) ← whileSeparated "+" stop lifetime
    return .lifetime attrs name bounds trailing
  return .lifetime attrs name [] false

def typeParam (g : Grammar) (attrs : List Attribute) : Parser GenericParam := do
  let name ← ident
  let (bounds, trailing) ← if ← opIf ":" then
      whileSeparated "+" endsParamBounds (g.bound false true)
    else pure ([], false)
  let default ← if ← opIf "=" then some <$> g.ty true else pure none
  return .type attrs name bounds trailing default

def constParam (g : Grammar) (attrs : List Attribute) : Parser GenericParam := do
  keyword "const"
  let name ← ident
  op ":"
  let t ← g.ty true
  let default ← if ← opIf "=" then some <$> constArgument g else pure none
  return .const attrs name t default

def genericParam (g : Grammar) (attrs : List Attribute) : Parser GenericParam := do
  let ts ← get
  if isLifetime ts then lifetimeParam attrs
  else if isIdentToken ts then typeParam g attrs
  else constParam g attrs

def itemParam (g : Grammar) : Parser GenericParam := do
  let attrs ← attributes g
  if ← keywordIf "_" then return .type attrs "_" [] false none
  genericParam g attrs

/-- The parameters of an item, when there are any; whether there are angle brackets. -/
def genericParams (g : Grammar) : Parser (GenericParams × Bool) := do
  if ← opIf "<" then
    let (params, trailing) ← separatedUntil "," (isOp ">") (itemParam g)
    op ">"
    return (⟨params, trailing⟩, true)
  return ({}, false)

def binderIf (g : Grammar) : Parser (Option Fragment) := do
  if ← keywordIf "for" then
    op "<"
    let (params, trailing) ← separatedUntil "," (isOp ">") do genericParam g (← attributes g)
    op ">"
    return some (GenericParams.binder ⟨params, trailing⟩)
  return none

/-! ### Conditions -/

def endsCondition (ts : List Token) : Bool :=
  ts.isEmpty || isBrace ts || isOp "," ts || isOp ";" ts || isColon ts || isOp "=" ts

def lifetimePredicate : Parser WherePredicate := do
  let name ← lifetime
  op ":"
  let (bounds, trailing) ← whileSeparated "+" (fun ts => endsCondition ts || isOp ":" ts) lifetime
  return .lifetime name bounds trailing

def typePredicate (g : Grammar) : Parser WherePredicate := do
  let binder ← binderIf g
  let t ← g.ty true
  op ":"
  let (bounds, trailing) ← whileSeparated "+" endsCondition (g.bound false true)
  return .type binder t bounds trailing

def wherePredicate (g : Grammar) : Parser WherePredicate := do
  let ts ← get
  if isLifetime ts && isOp ":" (skip ts) then lifetimePredicate else typePredicate g

/-- The conditions behind `where`, when it comes next; whether it does. -/
def whereIf (g : Grammar) : Parser (WhereClause × Bool) := do
  if ← keywordIf "where" then
    let (predicates, trailing) ← whileSeparated "," endsCondition (wherePredicate g)
    return (⟨predicates, trailing⟩, true)
  return ({}, false)

end ApiClient.Code.Grammar
