import ApiClient.Code.Tree.Shape

/-!
The token view of trees: the tokens that a tree was read from, blanks and comments aside. Only
generic arguments and captured names are put in order, lifetimes first.
-/

namespace ApiClient.Code

def word (s : String) : List Token := [.ident s]

def sym (s : String) : List Token := Token.operator s

def comma : List Token := [.punct ',' false]

def inParens (body : List Token) : List Token := [.group .paren body]

def inBrackets (body : List Token) : List Token := [.group .bracket body]

def inBraces (body : List Token) : List Token := [.group .brace body]

def wordIf (present : Bool) (s : String) : List Token := if present then word s else []

/-- Parts with a separator between them, and after the last when `trailing`. -/
def separated (sep : List Token) (trailing : Bool) : List (List Token) → List Token
  | [] => []
  | [last] => if trailing then last ++ sep else last
  | part :: rest => part ++ sep ++ separated sep trailing rest

/-- Elements of a tuple: a single one is followed by a comma in any case. -/
def tupleElems (trailing : Bool) (parts : List (List Token)) : List Token :=
  separated comma (trailing || parts.length == 1) parts

/-- Arguments with the comma that follows each. -/
def withCommas (trailing : Bool) : List (List Token) → List (List Token × Bool)
  | [] => []
  | [last] => [(last, trailing)]
  | part :: rest => (part, true) :: withCommas trailing rest

/-- Arguments in the order given, each with its own comma; one is put in where the argument
before had none. -/
def joinWithCommas : Bool → List (List Token × Bool) → List Token
  | _, [] => []
  | commaBefore, (part, hasComma) :: rest =>
    (if commaBefore then [] else comma) ++ part ++ (if hasComma then comma else [])
      ++ joinWithCommas hasComma rest

def PlainPath.tokens (p : PlainPath) : List Token :=
  (if p.rooted then sym "::" else []) ++ separated (sym "::") false (p.names.map word)

def MacroCall.tokens (m : MacroCall) : List Token :=
  m.path.tokens ++ sym "!" ++ [.group m.delimiter m.body]

def Attribute.tokens (inner : Bool) (a : Attribute) : List Token :=
  sym "#" ++ (if inner then sym "!" else []) ++ inBrackets (a.path.tokens ++ match a.args with
    | .none => []
    | .group d body => [.group d body]
    | .value v => sym "=" ++ v.tokens)

def attributeTokens (attrs : List Attribute) : List Token := attrs.flatMap (Attribute.tokens false)

/-- Attributes inside the braces of what they belong to. -/
def innerAttributeTokens (attrs : List Attribute) : List Token :=
  attrs.flatMap (Attribute.tokens true)

def Fragment.optionTokens : Option Fragment → List Token
  | some f => f.tokens
  | none => []

def labelTokens : Option String → List Token
  | some name => Token.lifetime name ++ sym ":"
  | none => []

def lifetimeTokens : Option String → List Token
  | some name => Token.lifetime name
  | none => []

/-- The tokens from the qualifiers up to `fn`. -/
def FnQualifiers.tokens (q : FnQualifiers) : List Token :=
  wordIf q.isConst "const" ++ wordIf q.isAsync "async" ++ wordIf q.isUnsafe "unsafe" ++
    (match q.abi with
      | some (some l) => word "extern" ++ [.literal l]
      | some none => word "extern"
      | none => []) ++ word "fn"

def ClosureHeader.tokens (h : ClosureHeader) : List Token :=
  Fragment.optionTokens h.binder ++ wordIf h.isConst "const" ++ wordIf h.isStatic "static"
    ++ wordIf h.isAsync "async" ++ wordIf h.isMove "move"

def Member.tokens : Member → List Token
  | .named name => word name
  | .position n => [.literal ⟨.integer, toString n⟩]

/-- A captured name, a lifetime when it starts with a quote. -/
def captureTokens (name : String) : List Token :=
  match name.toList with
  | '\'' :: rest => Token.lifetime (String.ofList rest)
  | _ => word name

def dots (closed : Bool) : List Token := sym (if closed then "..=" else "..")

mutual

def Ty.tokens : Ty → List Token
  | .array elem size => inBrackets (elem.tokens ++ sym ";" ++ size.tokens)
  | .function header inputs output =>
    Fragment.optionTokens header.binder ++ header.qualifiers.tokens
      ++ inParens (separated comma header.trailing (fnInputs inputs)
        ++ Fragment.optionTokens header.variadic) ++ outputTokens output
  | .implTrait bounds trailing => word "impl" ++ separated (sym "+") trailing (boundList bounds)
  | .infer => word "_"
  | .macroCall m => m.tokens
  | .never => sym "!"
  | .paren t => inParens t.tokens
  | .path p => p.tokens
  | .pointer isMut t => sym "*" ++ word (if isMut then "mut" else "const") ++ t.tokens
  | .reference lifetime isMut t =>
    sym "&" ++ lifetimeTokens lifetime ++ wordIf isMut "mut" ++ t.tokens
  | .slice t => inBrackets t.tokens
  | .traitObject isDyn bounds trailing =>
    wordIf isDyn "dyn" ++ separated (sym "+") trailing (boundList bounds)
  | .tuple elems trailing => inParens (tupleElems trailing (tyList elems))
  | .verbatim tokens => tokens

def tyList : List Ty → List (List Token)
  | [] => []
  | t :: rest => t.tokens :: tyList rest

def outputTokens : Option Ty → List Token
  | none => []
  | some t => sym "->" ++ t.tokens

def FnInput.tokens : FnInput → List Token
  | .mk attrs name t => attributeTokens attrs ++ (match name with
    | some name => word name ++ sym ":"
    | none => []) ++ t.tokens

def fnInputs : List FnInput → List (List Token)
  | [] => []
  | i :: rest => i.tokens :: fnInputs rest

def Bound.tokens : Bound → List Token
  | .lifetime name => Token.lifetime name
  | .trait inParens isMaybe binder p =>
    let body := (if isMaybe then sym "?" else []) ++ Fragment.optionTokens binder ++ p.tokens
    if inParens then [.group .paren body] else body
  | .capture names trailing =>
    let parts := (names.map isCapturedLifetime).zip
      (withCommas trailing (names.map captureTokens))
    word "use" ++ sym "<" ++ joinWithCommas true ((putFirst (·.1) parts).map (·.2)) ++ sym ">"
  | .verbatim tokens => tokens

def boundList : List Bound → List (List Token)
  | [] => []
  | b :: rest => b.tokens :: boundList rest

def Path.tokens : Path → List Token
  | .plain rooted segments =>
    (if rooted then sym "::" else []) ++ separated (sym "::") false (segmentList segments)
  | .qualified self rooted trait rest =>
    sym "<" ++ self.tokens ++ (if trait.isEmpty then [] else word "as" ++
      (if rooted then sym "::" else []) ++ separated (sym "::") false (segmentList trait))
      ++ sym ">" ++ sym "::" ++ separated (sym "::") false (segmentList rest)

def Segment.tokens : Segment → List Token
  | .mk name args => word name ++ args.tokens

def segmentList : List Segment → List (List Token)
  | [] => []
  | s :: rest => s.tokens :: segmentList rest

def SegmentArgs.tokens : SegmentArgs → List Token
  | .none => []
  | .angle turbofish args trailing =>
    let parts := (args.map GenericArg.isLifetime).zip (withCommas trailing (genericArgs args))
    (if turbofish then sym "::" else []) ++ sym "<"
      ++ joinWithCommas true ((putFirst (·.1) parts).map (·.2)) ++ sym ">"
  | .paren inputs trailing output =>
    inParens (separated comma trailing (tyList inputs)) ++ outputTokens output

def GenericArg.tokens : GenericArg → List Token
  | .lifetime name => Token.lifetime name
  | .type t => t.tokens
  | .const e => e.tokens
  | .assocType name args t => word name ++ args.tokens ++ sym "=" ++ t.tokens
  | .assocConst name args e => word name ++ args.tokens ++ sym "=" ++ e.tokens
  | .constraint name args bounds trailing =>
    word name ++ args.tokens ++ sym ":" ++ separated (sym "+") trailing (boundList bounds)

def genericArgs : List GenericArg → List (List Token)
  | [] => []
  | a :: rest => a.tokens :: genericArgs rest

def Expr.tokens : Expr → List Token
  | .array elems trailing => inBrackets (separated comma trailing (exprList elems))
  | .assign l r => l.tokens ++ sym "=" ++ r.tokens
  | .asyncBlock isMove body => word "async" ++ wordIf isMove "move" ++ body.tokens
  | .attributed attrs e => attributeTokens attrs ++ e.tokens
  | .await e => e.tokens ++ sym "." ++ word "await"
  | .binary l op r => l.tokens ++ sym op.symbol ++ r.tokens
  | .block label body => labelTokens label ++ body.tokens
  | .bool value => word (if value then "true" else "false")
  | .breakOut label value => word "break" ++ lifetimeTokens label ++ exprOption value
  | .call callee args trailing =>
    callee.tokens ++ inParens (separated comma trailing (exprList args))
  | .cast e t => e.tokens ++ word "as" ++ t.tokens
  | .closure header inputs output body =>
    header.tokens ++ sym "|" ++ separated comma header.trailing (patList inputs) ++ sym "|"
      ++ outputTokens output ++ body.tokens
  | .cond test body orElse =>
    word "if" ++ test.tokens ++ body.tokens ++ match orElse with
      | none => []
      | some e => word "else" ++ e.tokens
  | .constBlock body => word "const" ++ body.tokens
  | .continueOn label => word "continue" ++ lifetimeTokens label
  | .field e m => e.tokens ++ sym "." ++ m.tokens
  | .forLoop label p range body =>
    labelTokens label ++ word "for" ++ p.tokens ++ word "in" ++ range.tokens
      ++ body.tokens
  | .index e i => e.tokens ++ inBrackets i.tokens
  | .infer => word "_"
  | .isLet p e => word "let" ++ p.tokens ++ sym "=" ++ e.tokens
  | .lit l => [.literal l]
  | .loop label body => labelTokens label ++ word "loop" ++ body.tokens
  | .macroCall m => m.tokens
  | .matchOn e inner arms =>
    word "match" ++ e.tokens ++ inBraces (innerAttributeTokens inner ++ armList arms)
  | .methodCall receiver name turbofish args trailing =>
    receiver.tokens ++ sym "." ++ word name ++ turbofish.tokens
      ++ inParens (separated comma trailing (exprList args))
  | .paren e => inParens e.tokens
  | .path p => p.tokens
  | .question e => e.tokens ++ sym "?"
  | .range lo closed hi => exprOption lo ++ dots closed ++ exprOption hi
  | .rawAddress isMut e =>
    sym "&" ++ word "raw" ++ word (if isMut then "mut" else "const") ++ e.tokens
  | .record p fields trailing hasDots base =>
    p.tokens ++ inBraces (separated comma trailing (fieldValues fields)
      ++ (if hasDots then sym ".." else []) ++ exprOption base)
  | .reference isMut e => sym "&" ++ wordIf isMut "mut" ++ e.tokens
  | .repeated e size => inBrackets (e.tokens ++ sym ";" ++ size.tokens)
  | .returnOut value => word "return" ++ exprOption value
  | .tryBlock body => word "try" ++ body.tokens
  | .tuple elems trailing => inParens (tupleElems trailing (exprList elems))
  | .unary op e => sym op.symbol ++ e.tokens
  | .unsafeBlock body => word "unsafe" ++ body.tokens
  | .verbatim tokens => tokens
  | .whileLoop label test body =>
    labelTokens label ++ word "while" ++ test.tokens ++ body.tokens
  | .yieldOut value => word "yield" ++ exprOption value

def exprList : List Expr → List (List Token)
  | [] => []
  | e :: rest => e.tokens :: exprList rest

def exprOption : Option Expr → List Token
  | none => []
  | some e => e.tokens

def Block.tokens : Block → List Token
  | .mk inner stmts => [.group .brace (innerAttributeTokens inner ++ stmtList stmts)]

def Stmt.tokens : Stmt → List Token
  | .empty => sym ";"
  | .letBind attrs p init =>
    attributeTokens attrs ++ word "let" ++ p.tokens ++ (match init with
      | none => []
      | some e => sym "=" ++ e.tokens) ++ sym ";"
  | .letElse attrs p init orElse =>
    attributeTokens attrs ++ word "let" ++ p.tokens ++ sym "=" ++ init.tokens ++ word "else"
      ++ orElse.tokens ++ sym ";"
  | .expr e semicolon => e.tokens ++ (if semicolon then sym ";" else [])
  | .macroCall attrs m semicolon =>
    attributeTokens attrs ++ m.tokens ++ (if semicolon then sym ";" else [])
  | .item f => f.tokens

def stmtList : List Stmt → List Token
  | [] => []
  | s :: rest => s.tokens ++ stmtList rest

def Arm.tokens : Arm → List Token
  | .mk attrs p guard body hasComma =>
    attributeTokens attrs ++ p.tokens ++ (match guard with
      | none => []
      | some e => word "if" ++ e.tokens) ++ sym "=>" ++ body.tokens
      ++ (if hasComma then comma else [])

def armList : List Arm → List Token
  | [] => []
  | a :: rest => a.tokens ++ armList rest

def FieldValue.tokens : FieldValue → List Token
  | .mk attrs m value => attributeTokens attrs ++ m.tokens ++ match value with
    | none => []
    | some e => sym ":" ++ e.tokens

def fieldValues : List FieldValue → List (List Token)
  | [] => []
  | f :: rest => f.tokens :: fieldValues rest

def Pat.tokens : Pat → List Token
  | .attributed attrs p => attributeTokens attrs ++ p.tokens
  | .constBlock body => word "const" ++ body.tokens
  | .ident isRef isMut name => wordIf isRef "ref" ++ wordIf isMut "mut" ++ word name
  | .lit e => e.tokens
  | .macroCall m => m.tokens
  | .naming isRef isMut name p =>
    wordIf isRef "ref" ++ wordIf isMut "mut" ++ word name ++ sym "@" ++ p.tokens
  | .oneOf leading cases =>
    (if leading then sym "|" else []) ++ separated (sym "|") false (patList cases)
  | .paren p => inParens p.tokens
  | .path p => p.tokens
  | .range lo closed hi => exprOption lo ++ dots closed ++ exprOption hi
  | .record p fields trailing dots =>
    p.tokens ++ inBraces (separated comma trailing (fieldPats fields) ++ match dots with
      | none => []
      | some attrs => attributeTokens attrs ++ sym "..")
  | .reference isMut p => sym "&" ++ wordIf isMut "mut" ++ p.tokens
  | .rest => sym ".."
  | .slice elems trailing => inBrackets (separated comma trailing (patList elems))
  | .tuple elems trailing =>
    inParens (match elems with
      | [.rest] => separated comma trailing (patList elems)
      | _ => tupleElems trailing (patList elems))
  | .tupleRecord p elems trailing =>
    p.tokens ++ inParens (separated comma trailing (patList elems))
  | .typed p t => p.tokens ++ sym ":" ++ t.tokens
  | .verbatim tokens => tokens
  | .wild => word "_"

def patList : List Pat → List (List Token)
  | [] => []
  | p :: rest => p.tokens :: patList rest

def FieldPat.tokens : FieldPat → List Token
  | .mk attrs m p => attributeTokens attrs ++ (match m with
    | none => []
    | some m => m.tokens ++ sym ":") ++ p.tokens

def fieldPats : List FieldPat → List (List Token)
  | [] => []
  | f :: rest => f.tokens :: fieldPats rest

end

end ApiClient.Code
