import ApiClient.Code.Pretty.Tokens
import ApiClient.Code.Tree.Shape

/-!
Layout of trees. Lists in delimiters stay on one line or have one item a line; blocks with one
short expression may stay on a line; chains of calls and fields break before every dot or at none.
-/

namespace ApiClient.Code

open Layout

/-! ### Parts -/

/-- Items on one line, or one a line with a comma after each, the last one included. -/
def listPieces : List (List Piece) → List Piece
  | [] => []
  | [last] => last ++ trailingComma true
  | item :: rest => item ++ trailingComma false ++ listPieces rest

/-- The inside of delimiters around a list. -/
def delimited (items : List (List Piece)) : List Piece :=
  consistent indentWidth (zeroBreak ++ listPieces items ++ outdent)

/-- The inside of a tuple's parentheses; a single element has its comma in any case. -/
def tuplePieces : List (List Piece) → List Piece
  | [only] => consistent indentWidth (zeroBreak ++ only ++ text "," ++ zeroBreak ++ outdent)
  | items => delimited items

/-- Items with a text between them. -/
def joinedPieces (sep : String) : List (List Piece) → List Piece
  | [] => []
  | [last] => last
  | item :: rest => item ++ text sep ++ joinedPieces sep rest

/-- Fields inside braces, followed by `..` when `dots` is there. -/
def fieldListPieces (dots : Option (List Piece)) : List (List Piece) → List Piece
  | [] => match dots with
    | some d => d ++ space
    | none => []
  | [last] => match dots with
    | some d => last ++ trailingCommaOrSpace false ++ d ++ space
    | none => last ++ trailingCommaOrSpace true
  | item :: rest => item ++ trailingCommaOrSpace false ++ fieldListPieces dots rest

def lifetimePieces (name : String) : List Piece := text ("'" ++ name)

def Fragment.optionLayout : Option Fragment → List Piece
  | some f => f.layout
  | none => []

def labelPieces : Option String → List Piece
  | none => []
  | some name => lifetimePieces name ++ text ": "

/-- The lifetime behind `break` or `continue`. -/
def jumpLabelPieces : Option String → List Piece
  | none => []
  | some name => nbsp ++ lifetimePieces name

def textIf (present : Bool) (s : String) : List Piece := if present then text s else []

def Member.pieces : Member → List Piece
  | .named name => text name
  | .position n => text (toString n)

def abiPieces : Option (Option Literal) → List Piece
  | some (some l) => text "extern " ++ text l.text ++ nbsp
  | some none => text "extern "
  | none => []

/-- The qualifiers of a function, each followed by a space. -/
def FnQualifiers.pieces (q : FnQualifiers) : List Piece :=
  textIf q.isConst "const " ++ textIf q.isAsync "async " ++ textIf q.isUnsafe "unsafe "
    ++ abiPieces q.abi

def ClosureHeader.pieces (h : ClosureHeader) : List Piece :=
  Fragment.optionLayout h.binder ++ textIf h.isConst "const " ++ textIf h.isStatic "static "
    ++ textIf h.isAsync "async " ++ textIf h.isMove "move "

/-- Braces around statements, arms or items that stand on lines of their own. -/
def openBlock (lines : List Piece) : List Piece :=
  text "\x7b" ++ neverBreak ++ consistent indentWidth (hardBreakIfNonempty ++ lines ++ outdent)
    ++ text "\x7d"

/-- Bounds behind a colon, each further one where the line may end. -/
def boundListPieces : List (List Piece) → List Piece
  | [] => []
  | first :: rest => text ": " ++ first ++ rest.flatMap fun b => space ++ text "+ " ++ b

/-- Items that fill lines, with commas between them. -/
def filledPieces : List (List Piece) → List Piece
  | [] => []
  | [last] => last
  | item :: rest => item ++ text "," ++ space ++ filledPieces rest

/-- The parameters of a closure. -/
def closureInputPieces (inputs : List (List Piece)) : List Piece :=
  if inputs.isEmpty then [] else zeroBreak ++ filledPieces inputs

/-- Alternatives with bars between them. -/
def alternativePieces : List (List Piece) → List Piece
  | [] => []
  | [last] => last
  | item :: rest => item ++ space ++ text "| " ++ alternativePieces rest

/-- The body of a closure in braces where it does not fit on its line, or in parentheses where
braces would change what it means. -/
def closureBodyPieces (braced semicolon : Bool) (body : List Piece) : List Piece :=
  consistent indentWidth
    ([.brk { before := [if braced then '\x7b' else '('] }] ++ body ++
      [.brk {
        offset := -indentWidth
        before := if braced && semicolon then [';'] else []
        after := [if braced then '\x7d' else ')'] }])

/-! ### Shapes that decide the layout -/

/-- Names that are no longer than an indentation. -/
def Expr.isShortName : Expr → Bool
  | .path (.plain false [.mk name .none]) => name.utf8ByteSize ≤ 4
  | _ => false

/-- Numbers whose spelling ends with a dot. -/
def Expr.endsWithDot : Expr → Bool
  | .lit l => l.text.toList.getLast? == some '.'
  | _ => false

/-- Ranges that begin with their dots. -/
def Expr.startsWithDots : Expr → Bool
  | .range none _ _ => true
  | _ => false

/-- Literals that take little room, so that an array of them fills lines. -/
def Expr.isSmallLiteral : Expr → Bool
  | .bool _ => true
  | .lit l => l.kind == .byte || l.kind == .character || l.kind == .integer
  | .attributed _ e => e.isSmallLiteral
  | _ => false

/-- Expressions without attributes that end with a delimiter of their own, so that a single
argument of this kind needs no lines of its own. -/
def Expr.isDelimited : Expr → Bool
  | .array .. | .closure .. | .record .. | .tuple .. => true
  | .asyncBlock _ body | .block _ body | .constBlock body | .tryBlock body | .unsafeBlock body =>
    !body.hasAttributes
  | _ => false

/-- Calls and matches, which a closure keeps on its own line although they end with no delimiter. -/
def Expr.isLoose : Expr → Bool
  | .matchOn .. | .call .. => true
  | _ => false

/-- Whether the brace behind a condition goes to a new line when the condition breaks. -/
def Expr.breaksBeforeBrace : Expr → Bool
  | .assign .. | .await _ | .binary .. | .cast .. | .field .. | .index .. | .methodCall .. => true
  | .attributed _ e | .breakOut _ (some e) | .call e _ _ | .isLet _ e | .paren e
  | .range _ _ (some e) | .rawAddress _ e | .reference _ e | .returnOut (some e) | .question e
  | .unary _ e | .yieldOut (some e) => e.breaksBeforeBrace
  | _ => false

/-- Whether the expression would be read as one statement: none that ends with its block stands at
its beginning, except in front of a dot or a question mark. -/
def Expr.readsAsStmt : Expr → Bool
  | .assign e _ | .attributed _ e | .await e | .field e _ | .methodCall e .. | .question e =>
    e.readsAsStmt
  | .binary e _ _ | .call e _ _ | .cast e _ | .index e _ | .range (some e) _ _ =>
    e.needsSemicolon && e.readsAsStmt
  | _ => true

/-- Jumps and assignments, which have a semicolon also at the end of a block. -/
def Expr.takesSemicolon : Expr → Bool
  | .assign .. | .breakOut .. | .continueOn _ | .returnOut _ | .yieldOut _ => true
  | .attributed _ e => e.takesSemicolon
  | .binary _ op _ => match op with
    | .addAssign | .subAssign | .mulAssign | .divAssign | .remAssign | .xorAssign | .andAssign
    | .orAssign | .shlAssign | .shrAssign => true
    | _ => false
  | _ => false

/-- Loops and conditions whose semicolon says nothing. -/
def Expr.dropsSemicolon : Expr → Bool
  | .attributed _ e => e.dropsSemicolon
  | .forLoop .. | .whileLoop .. => true
  | .cond _ _ none => true
  | .cond _ _ (some e) => e.dropsSemicolon
  | _ => false

/-- Expressions that chain with a dot. -/
def Expr.isDotted : Expr → Bool
  | .await _ | .field .. | .methodCall .. => true
  | _ => false

/-- Expressions that chain with a dot, an index, a question mark or arguments. -/
def Expr.isLink (e : Expr) : Bool :=
  match e with
  | .call .. | .index .. | .question _ => true
  | e => e.isDotted

/-- Where an expression stands. -/
inductive Place
  | plain
  /-- At the beginning of a line. -/
  | lineStart
  /-- As the operand of a chain. -/
  | link (atLineStart : Bool)
  /-- As the body of an arm. -/
  | arm
  /-- Behind `else`. -/
  | orElse
  deriving DecidableEq, Repr

namespace Place

def isLineStart : Place → Bool
  | .lineStart | .arm | .link true => true
  | _ => false

/-- The place of what stands at the beginning of an expression, outside of a chain. -/
def leading (place : Place) : Place := if place.isLineStart then .lineStart else .plain

/-- The place of the operand of an index or a question mark. -/
def operand : Place → Place
  | .link atLineStart => .link atLineStart
  | place => place.leading

/-- The place of a callee. -/
def callee : Place → Place
  | .link _ => .link false
  | place => place.leading

end Place

/-- The expression of an arm, in braces where it does not fit on its line, else with a comma. -/
def armPieces (e : Expr) (core : List Piece) : List Piece :=
  let braced := e.readsAsStmt
  neverBreak ++ consistent indentWidth
    ([.brk { before := [if braced then '\x7b' else '('] }] ++ core ++
      [.brk {
        offset := -indentWidth
        before := if braced && e.takesSemicolon then [';'] else []
        after := if braced then ['\x7d'] else [')', ',']
        inline := if e.endsWithBlock then [] else [','] }])

/-- Puts the pieces of an expression into the group that its place asks for. -/
def Place.around (place : Place) (e : Expr) (core : List Piece) : List Piece :=
  let chained := if e.isDotted then consistent indentWidth core else core
  match place with
  | .plain | .lineStart | .orElse => chained
  | .link _ => if e.isLink then core else consistent (-indentWidth) core
  | .arm => match e with
    | .block .. | .attributed _ (.block ..) | .tuple [] _ => core
    | e => armPieces e chained

/-- The break before a dot; none after a short name at the beginning of a line, and a space in its
stead behind another dot. -/
def dotBreak (atLineStart : Bool) (e : Expr) : List Piece :=
  if atLineStart && e.isShortName then []
  else [.brk { inline := if e.endsWithDot then [' '] else [] }]

/-- Parts of a generic list, lifetimes first. -/
def lifetimesFirst (isLifetime : List Bool) (parts : List (List Piece)) : List (List Piece) :=
  (putFirst (·.1) (isLifetime.zip parts)).map (·.2)

/-- Alternatives that are literals or wild fill lines, others have a line each. -/
def Pat.isSmall : Pat → Bool
  | .lit _ | .wild => true
  | _ => false

mutual

def Ty.pieces : Ty → List Piece
  | .array elem size => text "[" ++ elem.pieces ++ text "; " ++ size.pieces .plain ++ text "]"
  | .function header inputs output =>
    Fragment.optionLayout header.binder ++ header.qualifiers.pieces ++ text "fn("
      ++ consistent indentWidth (zeroBreak ++ (match header.variadic with
          | some v => fnInputPieces inputs false ++ v.layout ++ zeroBreak
          | none => fnInputPieces inputs true) ++ outdent)
      ++ text ")" ++ outputPieces output
  | .implTrait bounds _ => text "impl " ++ joinedPieces " + " (boundPieces bounds)
  | .infer => text "_"
  | .macroCall m => m.pieces
  | .never => text "!"
  | .paren t => text "(" ++ t.pieces ++ text ")"
  | .path p => p.pieces false
  | .pointer isMut t => text "*" ++ text (if isMut then "mut " else "const ") ++ t.pieces
  | .reference lifetime isMut t =>
    text "&" ++ (match lifetime with
      | some name => lifetimePieces name ++ nbsp
      | none => []) ++ textIf isMut "mut " ++ t.pieces
  | .slice t => text "[" ++ t.pieces ++ text "]"
  | .traitObject _ bounds _ => text "dyn " ++ joinedPieces " + " (boundPieces bounds)
  | .tuple elems _ => text "(" ++ tuplePieces (tyPieces elems) ++ text ")"
  | .verbatim _ => missing

def tyPieces : List Ty → List (List Piece)
  | [] => []
  | t :: rest => t.pieces :: tyPieces rest

/-- The return type of a signature. -/
def outputPieces : Option Ty → List Piece
  | none => []
  | some t => text " -> " ++ t.pieces

def FnInput.pieces : FnInput → List Piece
  | .mk attrs name t => attributePieces attrs ++ (match name with
    | some name => text name ++ text ": "
    | none => []) ++ t.pieces

/-- Parameters with commas; `ends` when nothing follows the last. -/
def fnInputPieces (inputs : List FnInput) (ends : Bool) : List Piece :=
  match inputs with
  | [] => []
  | [last] => last.pieces ++ trailingComma ends
  | i :: rest => i.pieces ++ trailingComma false ++ fnInputPieces rest ends

def Bound.pieces : Bound → List Piece
  | .lifetime name => lifetimePieces name
  | .trait inParens isMaybe binder p =>
    textIf inParens "(" ++ textIf isMaybe "?" ++ Fragment.optionLayout binder ++ p.pieces false
      ++ textIf inParens ")"
  | .capture names _ =>
    text "use<" ++ joinedPieces ", " ((putFirst isCapturedLifetime names).map text) ++ text ">"
  | .verbatim _ => missing

def boundPieces : List Bound → List (List Piece)
  | [] => []
  | b :: rest => b.pieces :: boundPieces rest

/-- A path; its arguments follow `::` where it stands in an expression. -/
def Path.pieces (inExpr : Bool) : Path → List Piece
  | .plain rooted segments =>
    textIf rooted "::" ++ joinedPieces "::" (segmentPieces inExpr segments)
  | .qualified self rooted trait rest =>
    text "<" ++ self.pieces ++ (if trait.isEmpty then [] else
        text " as " ++ textIf rooted "::" ++ joinedPieces "::" (segmentPieces false trait))
      ++ text ">" ++ text "::" ++ joinedPieces "::" (segmentPieces inExpr rest)

/-- A path in front of the fields of a pattern, which is written without its self type. -/
def Path.fieldsOwnerPieces : Path → List Piece
  | .plain rooted segments => textIf rooted "::" ++ joinedPieces "::" (segmentPieces true segments)
  | .qualified _ rooted trait rest =>
    textIf (rooted || trait.isEmpty) "::"
      ++ joinedPieces "::" (segmentPieces true trait ++ segmentPieces true rest)

def Segment.pieces (inExpr : Bool) : Segment → List Piece
  | .mk name args => text name ++ args.pieces inExpr

def segmentPieces (inExpr : Bool) : List Segment → List (List Piece)
  | [] => []
  | s :: rest => s.pieces inExpr :: segmentPieces inExpr rest

def SegmentArgs.pieces (inExpr : Bool) : SegmentArgs → List Piece
  | .none => []
  | .angle _ args _ =>
    if args.isEmpty then []
    else textIf inExpr "::" ++ text "<"
      ++ delimited (lifetimesFirst (args.map GenericArg.isLifetime) (genericArgPieces args))
      ++ text ">"
  | .paren inputs _ output =>
    consistent indentWidth (text "(" ++ zeroBreak ++ listPieces (tyPieces inputs) ++ outdent
      ++ text ")" ++ outputPieces output)

def GenericArg.pieces : GenericArg → List Piece
  | .lifetime name => lifetimePieces name
  | .type t => t.pieces
  | .const e => e.pieces .plain
  | .assocType name args t => text name ++ args.pieces false ++ text " = " ++ t.pieces
  | .assocConst name args e => text name ++ args.pieces false ++ text " = " ++ e.pieces .plain
  | .constraint name args bounds _ =>
    text name ++ args.pieces false ++ filled indentWidth (boundListPieces (boundPieces bounds))

def genericArgPieces : List GenericArg → List (List Piece)
  | [] => []
  | a :: rest => a.pieces :: genericArgPieces rest

def Expr.pieces (place : Place) (e : Expr) : List Piece :=
  place.around e <| match e with
    | .array elems _ =>
      if elems.isEmpty then text "[]"
      else if elems.all Expr.isSmallLiteral then
        text "[" ++ consistent indentWidth (zeroBreak ++ filled 0 (filledPieces (exprPieces elems))
          ++ trailingComma true ++ outdent) ++ text "]"
      else text "[" ++ delimited (exprPieces elems) ++ text "]"
    | .assign l r => filled 0 (l.pieces .plain ++ text " = " ++ neverBreak ++ r.pieces .plain)
    | .asyncBlock isMove body =>
      text "async " ++ textIf isMove "move " ++ consistent indentWidth body.smallPieces
    | .attributed attrs e => match place, e with
      | .arm, .block label body => labelPieces label ++ openBlock body.linePieces
      | place, e => attributePieces attrs ++ e.pieces place.leading
    | .await e =>
      e.pieces (.link place.isLineStart) ++ dotBreak place.isLineStart e ++ text ".await"
    | .binary l op r =>
      filled indentWidth (filled (-indentWidth) (l.pieces .plain) ++ space ++ text op.symbol ++ nbsp
        ++ r.pieces .plain)
    | .block label body => match place, label, body with
      | .arm, none, .mk [] [.expr e false] => e.pieces .arm
      | .arm, label, body => labelPieces label ++ openBlock body.linePieces
      | .orElse, _, body => body.smallPieces
      | _, label, body => labelPieces label ++ consistent indentWidth body.smallPieces
    | .bool value => text (if value then "true" else "false")
    | .breakOut label value => text "break" ++ jumpLabelPieces label ++ valuePieces value
    | .call callee args _ =>
      callee.pieces place.callee ++ text "(" ++ argPieces args ++ text ")"
    | .cast e t =>
      filled indentWidth
        (filled (-indentWidth) (e.pieces .plain) ++ space ++ text "as " ++ t.pieces)
    | .closure header inputs output body =>
      filled 0 (header.pieces ++ match output with
        | none =>
          consistent indentWidth
            (text "|" ++ closureInputPieces (patPieces inputs) ++ text "|" ++ space ++ outdent)
          ++ neverBreak ++ (if body.isDelimited || body.isLoose then body.pieces .plain
            else closureBodyPieces body.readsAsStmt body.takesSemicolon (body.pieces .plain))
        | some t =>
          consistent indentWidth
            (text "|" ++ closureInputPieces (patPieces inputs)
              ++ (if inputs.isEmpty then [] else trailingComma true ++ outdent) ++ text "|")
          ++ text " -> " ++ t.pieces ++ nbsp ++ neverBreak ++ body.pieces .plain)
    | .cond test body orElse =>
      let head := text "if " ++ consistent (-indentWidth) (consistent 0
        (test.pieces .plain ++ if test.breaksBeforeBrace then space else nbsp))
      match place, orElse with
      | .orElse, some e => head ++ body.smallPieces ++ text " else " ++ e.pieces .orElse
      | .orElse, none => head ++ body.smallPieces
      | _, some e =>
        consistent indentWidth (head ++ body.smallPieces ++ text " else " ++ e.pieces .orElse)
      | _, none =>
        consistent indentWidth (head ++ if body.isEmpty then text "\x7b\x7d"
          else text "\x7b" ++ hardBreak ++ body.linePieces ++ outdent ++ text "\x7d")
    | .constBlock body => text "const " ++ consistent indentWidth body.smallPieces
    | .continueOn label => text "continue" ++ jumpLabelPieces label
    | .field e m =>
      e.pieces (.link place.isLineStart) ++ dotBreak place.isLineStart e ++ text "." ++ m.pieces
    | .forLoop label p range body =>
      filled 0 (labelPieces label ++ text "for " ++ p.pieces ++ text " in " ++ neverBreak
        ++ consistent 0 (range.pieces .plain ++ if range.breaksBeforeBrace then space else nbsp)
        ++ openBlock body.linePieces)
    | .index e i => e.pieces place.operand ++ text "[" ++ i.pieces .plain ++ text "]"
    | .infer => text "_"
    | .isLet p e =>
      filled 0 (text "let " ++ p.pieces ++ text " = " ++ neverBreak ++ e.pieces .plain)
    | .lit l => text l.text
    | .loop label body =>
      labelPieces label ++ text "loop \x7b" ++ consistent indentWidth
        (hardBreakIfNonempty ++ body.linePieces ++ outdent) ++ text "\x7d"
    | .macroCall m => m.pieces
    | .matchOn e inner arms =>
      filled 0 (text "match "
        ++ consistent 0 (e.pieces .plain ++ if e.breaksBeforeBrace then space else nbsp)
        ++ openBlock (innerAttributePieces inner ++ matchPieces arms))
    | .methodCall receiver name turbofish args _ =>
      let outdents := receiver.isShortName && (place == .lineStart || place == .arm)
      receiver.pieces (.link place.isLineStart) ++ dotBreak place.isLineStart receiver ++ text "."
        ++ text name ++ turbofish.pieces true
        ++ consistent (if outdents then -indentWidth else 0)
          (text "(" ++ argPieces args ++ text ")")
    | .paren e => text "(" ++ e.pieces .plain ++ text ")"
    | .path p => p.pieces true
    | .question e => e.pieces place.operand ++ text "?"
    | .range lo closed hi =>
      optionPieces lo ++ text (if closed then "..=" else "..") ++ afterDotsPieces hi
    | .rawAddress isMut e => text (if isMut then "&raw mut " else "&raw const ") ++ e.pieces .plain
    | .record p fields _ _ base =>
      [.opening indentWidth true] ++ filled (-indentWidth) (p.pieces true) ++ text " \x7b"
        ++ spaceIfNonempty ++ fieldListPieces (match base with
          | some e => some (text ".." ++ afterDotsPieces (some e))
          | none => none) (fieldValuePieces fields)
        ++ outdent ++ [.closingMax 34] ++ text "\x7d"
    | .reference isMut e => text "&" ++ textIf isMut "mut " ++ e.pieces .plain
    | .repeated e size =>
      text "[" ++ e.pieces .plain ++ text "; " ++ size.pieces .plain ++ text "]"
    | .returnOut value => text "return" ++ valuePieces value
    | .tryBlock body => text "try " ++ consistent indentWidth body.smallPieces
    | .tuple elems _ =>
      if elems.isEmpty && place == .arm then openBlock []
      else text "(" ++ tuplePieces (exprPieces elems) ++ text ")"
    | .unary op e => text op.symbol ++ e.pieces .plain
    | .unsafeBlock body => text "unsafe " ++ consistent indentWidth body.smallPieces
    | .verbatim _ => missing
    | .whileLoop label test body =>
      labelPieces label ++ text "while "
        ++ consistent 0 (test.pieces .plain ++ if test.breaksBeforeBrace then space else nbsp)
        ++ openBlock body.linePieces
    | .yieldOut value => text "yield" ++ valuePieces value

def exprPieces : List Expr → List (List Piece)
  | [] => []
  | e :: rest => e.pieces .plain :: exprPieces rest

/-- Arguments of a call; a single one with delimiters of its own stays on the line. -/
def argPieces : List Expr → List Piece
  | [e] => if e.isDelimited then e.pieces .plain else delimited [e.pieces .plain]
  | [] => []
  | e :: rest => delimited (e.pieces .plain :: exprPieces rest)

def optionPieces : Option Expr → List Piece
  | none => []
  | some e => e.pieces .plain

/-- What follows two dots, set apart from them when it begins with dots. -/
def afterDotsPieces : Option Expr → List Piece
  | none => []
  | some e => (if e.startsWithDots then nbsp else []) ++ e.pieces .plain

/-- The value behind a jump. -/
def valuePieces : Option Expr → List Piece
  | none => []
  | some e => nbsp ++ e.pieces .plain

/-- A block that may stay on one line when it holds a single expression. -/
def Block.smallPieces : Block → List Piece
  | .mk inner stmts =>
    text "\x7b" ++ (if inner.isEmpty && stmts.isEmpty then []
      else space ++ innerAttributePieces inner ++ (match stmts with
        | [.expr e false] => filled 0 (e.pieces .lineStart) ++ space
        | stmts => stmtPieces stmts) ++ outdent) ++ text "\x7d"

/-- What stands in a block, one statement a line. -/
def Block.linePieces : Block → List Piece
  | .mk inner stmts => innerAttributePieces inner ++ stmtPieces stmts

def Stmt.pieces : Stmt → List Piece
  | .empty => []
  | .letBind attrs p init =>
    attributePieces attrs ++ filled 0 (text "let " ++ p.pieces ++ (match init with
      | none => []
      | some e => text " = " ++ neverBreak ++ e.pieces .plain)) ++ text ";" ++ hardBreak
  | .letElse attrs p init orElse =>
    attributePieces attrs
      ++ filled 0 (text "let " ++ p.pieces ++ text " = " ++ neverBreak ++ init.pieces .plain
        ++ space ++ text "else ")
      ++ neverBreak ++ consistent indentWidth orElse.smallPieces ++ text ";" ++ hardBreak
  | .expr e true =>
    filled 0 (e.pieces .lineStart ++ if e.dropsSemicolon then [] else text ";") ++ hardBreak
  | .expr e false =>
    filled 0 (e.pieces .lineStart ++ if e.takesSemicolon then text ";" else []) ++ hardBreak
  | .macroCall attrs m semicolon =>
    attributePieces attrs ++ m.pieces ++ textIf semicolon ";" ++ hardBreak
  | .item f => f.layout

def stmtPieces : List Stmt → List Piece
  | [] => []
  | s :: rest => s.pieces ++ stmtPieces rest

def Arm.pieces : Arm → List Piece
  | .mk attrs p guard body _ =>
    attributePieces attrs ++ filled 0 (p.pieces ++ (match guard with
      | none => []
      | some e => text " if " ++ e.pieces .plain) ++ text " => " ++ body.pieces .arm)

def matchPieces : List Arm → List Piece
  | [] => []
  | a :: rest => a.pieces ++ hardBreak ++ matchPieces rest

def FieldValue.pieces : FieldValue → List Piece
  | .mk attrs m value => attributePieces attrs ++ m.pieces ++ match value with
    | none => []
    | some e => text ": " ++ filled 0 (e.pieces .plain)

def fieldValuePieces : List FieldValue → List (List Piece)
  | [] => []
  | f :: rest => f.pieces :: fieldValuePieces rest

def Pat.pieces : Pat → List Piece
  | .attributed attrs p => attributePieces attrs ++ p.pieces
  | .constBlock body => text "const " ++ consistent indentWidth body.smallPieces
  | .ident isRef isMut name => textIf isRef "ref " ++ textIf isMut "mut " ++ text name
  | .lit e => e.pieces .plain
  | .macroCall m => m.pieces
  | .naming isRef isMut name p =>
    textIf isRef "ref " ++ textIf isMut "mut " ++ text name ++ text " @ " ++ p.pieces
  | .oneOf _ cases =>
    let body := alternativePieces (patPieces cases)
    if cases.all Pat.isSmall then filled 0 body else consistent 0 body
  | .paren p => text "(" ++ p.pieces ++ text ")"
  | .path p => p.pieces true
  | .range lo closed hi =>
    optionPieces lo ++ text (if closed then "..=" else "..") ++ optionPieces hi
  | .record p fields _ dots =>
    consistent indentWidth (p.fieldsOwnerPieces ++ text " \x7b" ++ spaceIfNonempty
      ++ fieldListPieces (dots.map fun attrs => attributePieces attrs ++ text "..")
        (fieldPatPieces fields) ++ outdent)
      ++ text "\x7d"
  | .reference isMut p => text "&" ++ textIf isMut "mut " ++ p.pieces
  | .rest => text ".."
  | .slice elems _ => text "[" ++ listPieces (patPieces elems) ++ text "]"
  | .tuple [p] trailing =>
    text "(" ++ consistent indentWidth
      (zeroBreak ++ p.pieces ++ textIf trailing "," ++ zeroBreak ++ outdent) ++ text ")"
  | .tuple elems _ => text "(" ++ delimited (patPieces elems) ++ text ")"
  | .tupleRecord p elems _ =>
    p.fieldsOwnerPieces ++ text "(" ++ delimited (patPieces elems) ++ text ")"
  | .typed p t => p.pieces ++ text ": " ++ t.pieces
  | .verbatim _ => missing
  | .wild => text "_"

def patPieces : List Pat → List (List Piece)
  | [] => []
  | p :: rest => p.pieces :: patPieces rest

def FieldPat.pieces : FieldPat → List Piece
  | .mk attrs m p => attributePieces attrs ++ (match m with
    | none => []
    | some m => m.pieces ++ text ": ") ++ p.pieces

def fieldPatPieces : List FieldPat → List (List Piece)
  | [] => []
  | f :: rest => f.pieces :: fieldPatPieces rest

end

end ApiClient.Code
