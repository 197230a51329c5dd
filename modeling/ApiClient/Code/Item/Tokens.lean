import ApiClient.Code.Item

/-!
The token view of items.
-/

namespace ApiClient.Code

def Access.tokens : Access → List Token
  | .inherited => []
  | .everyone => word "pub"
  | .within isIn p => word "pub" ++ inParens (wordIf isIn "in" ++ p.tokens)

mutual

def UseTree.tokens : UseTree → List Token
  | .name name => word name
  | .rename name new => word name ++ word "as" ++ word new
  | .glob => sym "*"
  | .path first rest => word first ++ sym "::" ++ rest.tokens
  | .group trees trailing => inBraces (separated comma trailing (useTreeList trees))

def useTreeList : List UseTree → List (List Token)
  | [] => []
  | t :: rest => t.tokens :: useTreeList rest

end

def Parameter.tokens : Parameter → List Token
  | .receiver attrs reference isMut t =>
    attributeTokens attrs ++ (match reference with
      | some lifetime => sym "&" ++ lifetimeTokens lifetime
      | none => []) ++ wordIf isMut "mut" ++ word "self"
      ++ t.elim [] fun t => sym ":" ++ t.tokens
  | .typed attrs p t => attributeTokens attrs ++ p.tokens ++ sym ":" ++ t.tokens

def Signature.tokens (s : Signature) : List Token :=
  s.qualifiers.tokens ++ word s.name ++ s.generics.params.tokens
    ++ inParens (separated comma s.trailing (s.parameters.map Parameter.tokens)
      ++ Fragment.optionTokens s.variadic)
    ++ outputTokens s.output ++ s.generics.conditions.tokens

def Field.tokens (f : Field) : List Token :=
  attributeTokens f.attrs ++ f.access.tokens
    ++ f.name.elim [] (fun name => word name ++ sym ":") ++ f.type.tokens

def Fields.tokens : Fields → List Token
  | .unit => []
  | .tuple fields trailing => inParens (separated comma trailing (fields.map Field.tokens))
  | .record fields trailing => inBraces (separated comma trailing (fields.map Field.tokens))

def Variant.tokens (v : Variant) : List Token :=
  attributeTokens v.attrs ++ word v.name ++ v.fields.tokens
    ++ v.value.elim [] fun e => sym "=" ++ e.tokens

def StructKind.keyword : StructKind → String
  | .struct => "struct"
  | .union => "union"

/-- The fields of a structure with the conditions on its parameters. -/
def Fields.bodyTokens (conditions : List Token) : Fields → List Token
  | .record fields trailing => conditions ++ (Fields.record fields trailing).tokens
  | .tuple fields trailing => (Fields.tuple fields trailing).tokens ++ conditions ++ sym ";"
  | .unit => conditions ++ sym ";"

def namedTokens (name : String) (generics : Generics) : List Token :=
  word name ++ generics.params.tokens

/-- The value behind `=`, when there is one. -/
def valueTokens (value : Option (List Token)) : List Token := value.elim [] (sym "=" ++ ·)

mutual

def Item.tokens : Item → List Token
  | .mk attrs access isDefault kind =>
    attributeTokens attrs ++ access.tokens ++ wordIf isDefault "default" ++ kind.tokens
  | .verbatim tokens => tokens

def ItemKind.tokens : ItemKind → List Token
  | .assocType name generics bounds trailing value =>
    word "type" ++ namedTokens name generics ++ boundsTokens trailing (bounds.map Bound.tokens)
      ++ valueTokens (value.map Ty.tokens) ++ generics.conditions.tokens ++ sym ";"
  | .const name t value =>
    word "const" ++ word name ++ sym ":" ++ t.tokens ++ valueTokens (value.map Expr.tokens)
      ++ sym ";"
  | .enumeration name generics variants trailing =>
    word "enum" ++ namedTokens name generics ++ generics.conditions.tokens
      ++ inBraces (separated comma trailing (variants.map Variant.tokens))
  | .externCrate name rename =>
    word "extern" ++ word "crate" ++ word name
      ++ rename.elim [] (fun new => word "as" ++ word new) ++ sym ";"
  | .foreign isUnsafe abi inner items =>
    wordIf isUnsafe "unsafe" ++ word "extern" ++ abi.elim [] (fun l => [.literal l])
      ++ inBraces (innerAttributeTokens inner ++ itemList items)
  | .function signature body => signature.tokens ++ body.elim (sym ";") Block.tokens
  | .implementation isUnsafe generics isNegative trait self inner items =>
    wordIf isUnsafe "unsafe" ++ word "impl" ++ generics.params.tokens ++ (match trait with
      | some p => (if isNegative then sym "!" else []) ++ p.tokens ++ word "for"
      | none => []) ++ self.tokens ++ generics.conditions.tokens
      ++ inBraces (innerAttributeTokens inner ++ itemList items)
  | .macroCall name m =>
    m.path.tokens ++ sym "!" ++ name.elim [] word ++ [.group m.delimiter m.body]
      ++ if m.delimiter = .brace then [] else sym ";"
  | .moduleName isUnsafe name => wordIf isUnsafe "unsafe" ++ word "mod" ++ word name ++ sym ";"
  | .moduleBody isUnsafe name inner items =>
    wordIf isUnsafe "unsafe" ++ word "mod" ++ word name
      ++ inBraces (innerAttributeTokens inner ++ itemList items)
  | .static isMut name t value =>
    word "static" ++ wordIf isMut "mut" ++ word name ++ sym ":" ++ t.tokens
      ++ valueTokens (value.map Expr.tokens) ++ sym ";"
  | .struct kind name generics fields =>
    word kind.keyword ++ namedTokens name generics ++ fields.bodyTokens generics.conditions.tokens
  | .trait isUnsafe isAuto name generics bounds trailing inner items =>
    wordIf isUnsafe "unsafe" ++ wordIf isAuto "auto" ++ word "trait" ++ namedTokens name generics
      ++ boundsTokens trailing (bounds.map Bound.tokens) ++ generics.conditions.tokens
      ++ inBraces (innerAttributeTokens inner ++ itemList items)
  | .traitAlias name generics bounds trailing =>
    word "trait" ++ namedTokens name generics ++ sym "="
      ++ separated (sym "+") trailing (bounds.map Bound.tokens) ++ generics.conditions.tokens
      ++ sym ";"
  | .typeAlias name generics value =>
    word "type" ++ namedTokens name generics ++ generics.conditions.tokens
      ++ valueTokens (value.map Ty.tokens) ++ sym ";"
  | .use rooted tree => word "use" ++ (if rooted then sym "::" else []) ++ tree.tokens ++ sym ";"

def itemList : List Item → List Token
  | [] => []
  | i :: rest => i.tokens ++ itemList rest

end

end ApiClient.Code
