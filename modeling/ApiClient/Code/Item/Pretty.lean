import ApiClient.Code.Item.Tokens

/-!
Layout of items. Each ends its line; what stands in braces is indented, one part a line.
-/

namespace ApiClient.Code

open Layout

def Access.pieces : Access → List Piece
  | .inherited => []
  | .everyone => text "pub "
  | .within _ p =>
    let isWord := !p.rooted && [["self"], ["super"], ["crate"]].contains p.names
    text "pub(" ++ textIf (!isWord) "in " ++ p.pieces ++ text ") "

/-! ### Imports -/

def UseTree.endsWithGroup : UseTree → Bool
  | .path _ rest => rest.endsWithGroup
  | .group .. => true
  | _ => false

mutual

def UseTree.pieces : UseTree → List Piece
  | .name name => text name
  | .rename name new => text name ++ text " as " ++ text new
  | .glob => text "*"
  | .path first rest => text first ++ text "::" ++ rest.pieces
  | .group trees _ =>
    text "\x7b" ++ consistent indentWidth
      (zeroBreak ++ filled 0 (useTreePieces trees) ++ trailingComma true ++ outdent) ++ text "\x7d"

/-- Names that fill lines; a group with more after it ends its line. -/
def useTreePieces : List UseTree → List Piece
  | [] => []
  | [last] => last.pieces
  | t :: rest =>
    t.pieces ++ text "," ++ (if t.endsWithGroup then hardBreak else space) ++ useTreePieces rest

end

/-! ### Functions -/

def Parameter.pieces : Parameter → List Piece
  | .receiver attrs reference isMut t =>
    attributePieces attrs ++ (match reference with
      | some (some name) => text "&" ++ lifetimePieces name ++ nbsp
      | some none => text "&"
      | none => []) ++ textIf isMut "mut " ++ text "self"
      ++ t.elim [] fun t => text ": " ++ t.pieces
  | .typed attrs p t => attributePieces attrs ++ p.pieces ++ text ": " ++ t.pieces

/-- Parameters with commas; with something behind the last one its comma stays. -/
def parameterPieces (variadic : Option Fragment) (parameters : List (List Piece)) : List Piece :=
  match variadic with
  | none => listPieces parameters
  | some v => parameters.flatMap (· ++ trailingComma false) ++ v.layout ++ zeroBreak

def Signature.pieces (s : Signature) : List Piece :=
  s.qualifiers.pieces ++ text "fn " ++ text s.name ++ s.generics.params.pieces ++ text "("
    ++ neverBreak ++ consistent 0 (zeroBreak
      ++ parameterPieces s.variadic (s.parameters.map Parameter.pieces) ++ outdent)
    ++ text ")" ++ consistent (-indentWidth) (outputPieces s.output)

/-! ### Fields -/

def Field.pieces (f : Field) : List Piece :=
  attributePieces f.attrs ++ f.access.pieces
    ++ f.name.elim [] (fun name => text name ++ text ": ") ++ f.type.pieces

def tupleFieldPieces (fields : List Field) : List Piece :=
  text "(" ++ zeroBreak ++ listPieces (fields.map Field.pieces) ++ outdent ++ text ")"

/-- Parts on lines of their own, each with a comma. -/
def linesPieces (parts : List (List Piece)) : List Piece :=
  parts.flatMap (· ++ text "," ++ hardBreak)

def Variant.pieces (v : Variant) : List Piece :=
  attributePieces v.attrs ++ text v.name ++ (match v.fields with
    | .unit => []
    | .tuple fields _ => consistent indentWidth (tupleFieldPieces fields)
    | .record fields _ =>
      nbsp ++ text "\x7b" ++ consistent indentWidth
        (space ++ fieldListPieces none (fields.map Field.pieces) ++ outdent) ++ text "\x7d")
    ++ v.value.elim [] fun e => text " = " ++ e.pieces .plain

/-! ### Macros that define macros -/

/-- The rules of a macro: each a pattern, an arrow and what it stands for, in braces. -/
def rulePieces : List Token → List Piece
  | .group d pattern :: .punct '=' true :: .punct '>' false :: .group _ body :: rest =>
    text d.opening ++ enclosedPieces true zeroBreak pattern ++ text d.closing ++ text " =>"
      ++ text " \x7b" ++ neverBreak ++ enclosedPieces false hardBreak body ++ text "\x7d"
      ++ text ";" ++ hardBreak ++ (match rest with
        | .punct ';' false :: rest => rulePieces rest
        | _ => [])
  | _ => []

/-- The definition of a macro by rules. -/
def macroRulesPieces (name : String) (rules : List Token) : List Piece :=
  text "macro_rules! " ++ text name ++ text " \x7b"
    ++ consistent indentWidth (hardBreakIfNonempty ++ rulePieces rules ++ outdent) ++ text "\x7d"

def itemMacroPieces (name : Option String) (m : MacroCall) : List Piece :=
  match name, decide (m.path = ⟨false, ["macro_rules"]⟩) with
  | some name, true => macroRulesPieces name m.body
  | name, _ =>
    m.path.pieces ++ text "!" ++ name.elim [] (nbsp ++ text ·) ++ m.bodyPieces
      ++ textIf (m.delimiter != .brace) ";"

/-! ### Items -/

/-- Braces around lines, in a group that the item has opened. -/
def bodyPieces (lines : List Piece) : List Piece :=
  text "\x7b" ++ hardBreakIfNonempty ++ lines ++ outdent

def namedPieces (name : String) (generics : Generics) : List Piece :=
  text name ++ generics.params.pieces

def valueOfPieces (value : Option (List Piece)) : List Piece :=
  value.elim [] (text " = " ++ neverBreak ++ ·)

def aliasBoundPieces : List (List Piece) → List Piece
  | [] => []
  | first :: rest => first ++ rest.flatMap fun b => space ++ text "+ " ++ b

namespace WhereClause

def beforeBody : WhereClause → List Piece := pieces ⟨true, false⟩

def beforeSemicolon : WhereClause → List Piece := pieces ⟨true, true⟩

end WhereClause

mutual

def Item.pieces : Item → List Piece
  | .mk attrs access isDefault kind =>
    attributePieces attrs ++ kind.pieces (access.pieces ++ textIf isDefault "default ")
      ++ hardBreak
  | .verbatim _ => missing

def ItemKind.pieces (front : List Piece) : ItemKind → List Piece
  | .assocType name generics bounds _ value =>
    consistent indentWidth (front ++ text "type " ++ namedPieces name generics
      ++ boundListPieces (bounds.map Bound.pieces)
      ++ valueOfPieces (value.map fun t => filled (-indentWidth) t.pieces)
      ++ generics.conditions.pieces ⟨false, true⟩)
  | .const name t value =>
    consistent 0 (front ++ text "const " ++ text name ++ text ": " ++ t.pieces
      ++ valueOfPieces (value.map (Expr.pieces .plain)) ++ text ";")
  | .enumeration name generics variants _ =>
    consistent indentWidth (front ++ text "enum " ++ namedPieces name generics
      ++ generics.conditions.beforeBody ++ bodyPieces (linesPieces (variants.map Variant.pieces)))
      ++ text "\x7d"
  | .externCrate name rename =>
    front ++ text "extern crate " ++ text name
      ++ rename.elim [] (fun new => text " as " ++ text new) ++ text ";"
  | .foreign isUnsafe abi inner items =>
    consistent indentWidth (front ++ textIf isUnsafe "unsafe " ++ abiPieces (some abi)
      ++ bodyPieces (innerAttributePieces inner ++ itemPieces items)) ++ text "\x7d"
  | .function signature (some body) =>
    consistent indentWidth (front ++ signature.pieces ++ signature.generics.conditions.beforeBody
      ++ bodyPieces body.linePieces) ++ text "\x7d"
  | .function signature none =>
    consistent indentWidth
      (front ++ signature.pieces ++ signature.generics.conditions.beforeSemicolon)
  | .implementation isUnsafe generics isNegative trait self inner items =>
    consistent indentWidth (filled (-indentWidth) (consistent indentWidth (front
        ++ textIf isUnsafe "unsafe " ++ text "impl" ++ generics.params.pieces)
        ++ nbsp ++ (match trait with
          | some p => textIf isNegative "!" ++ p.pieces false ++ space ++ text "for "
          | none => []) ++ self.pieces)
      ++ generics.conditions.beforeBody
      ++ bodyPieces (innerAttributePieces inner ++ itemPieces items)) ++ text "\x7d"
  | .macroCall name m => itemMacroPieces name m
  | .moduleName isUnsafe name =>
    consistent indentWidth (front ++ textIf isUnsafe "unsafe " ++ text "mod " ++ text name
      ++ text ";")
  | .moduleBody isUnsafe name inner items =>
    consistent indentWidth (front ++ textIf isUnsafe "unsafe " ++ text "mod " ++ text name ++ nbsp
      ++ bodyPieces (innerAttributePieces inner ++ itemPieces items)) ++ text "\x7d"
  | .static isMut name t value =>
    consistent 0 (front ++ text "static " ++ textIf isMut "mut " ++ text name ++ text ": "
      ++ t.pieces ++ valueOfPieces (value.map (Expr.pieces .plain)) ++ text ";")
  | .struct kind name generics fields =>
    let head := front ++ text (kind.keyword ++ " ") ++ namedPieces name generics
    match fields with
    | .record fields _ =>
      consistent indentWidth (head ++ generics.conditions.beforeBody
        ++ bodyPieces (linesPieces (fields.map Field.pieces))) ++ text "\x7d"
    | .tuple fields _ =>
      consistent indentWidth
        (head ++ tupleFieldPieces fields ++ generics.conditions.beforeSemicolon)
    | .unit => consistent indentWidth (head ++ generics.conditions.beforeSemicolon)
  | .trait isUnsafe isAuto name generics bounds _ inner items =>
    consistent indentWidth (front ++ textIf isUnsafe "unsafe " ++ textIf isAuto "auto "
      ++ text "trait " ++ namedPieces name generics
      ++ (if bounds.isEmpty then []
        else text ": " ++ joinedPieces " + " (bounds.map Bound.pieces))
      ++ generics.conditions.beforeBody
      ++ bodyPieces (innerAttributePieces inner ++ itemPieces items)) ++ text "\x7d"
  | .traitAlias name generics bounds _ =>
    consistent indentWidth (front ++ text "trait " ++ namedPieces name generics ++ text " = "
      ++ neverBreak ++ aliasBoundPieces (bounds.map Bound.pieces)
      ++ generics.conditions.beforeSemicolon)
  | .typeAlias name generics (some t) =>
    consistent indentWidth (front ++ text "type " ++ namedPieces name generics
      ++ generics.conditions.pieces ⟨false, false⟩ ++ text "= " ++ neverBreak
      ++ filled (-indentWidth) t.pieces ++ text ";")
  | .typeAlias name generics none =>
    consistent 0 (front ++ text "type " ++ namedPieces name generics ++ text ";")
  | .use rooted tree => front ++ text "use " ++ textIf rooted "::" ++ tree.pieces ++ text ";"

def itemPieces : List Item → List Piece
  | [] => []
  | i :: rest => i.pieces ++ itemPieces rest

end

def Item.fragment (i : Item) : Fragment := ⟨i.tokens, i.pieces⟩

end ApiClient.Code
