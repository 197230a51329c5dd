import ApiClient.Code.Grammar.Ty

/-!
Items. Notations that are read but stand for nothing that can be laid out, such as a constant
without a value, are kept as their tokens.
-/

namespace ApiClient.Code.Grammar

open ApiClient.Code.Parser

/-! ### Parts of items -/

def access : Parser Access := do
  if ← keywordIf "pub" then
    match ← get with
    | .group .paren [.ident name] :: rest =>
      if ["crate", "self", "super"].contains name then
        set rest
        return .within false ⟨false, [name]⟩
      return .everyone
    | .group .paren (.ident "in" :: _) :: _ =>
      let p ← inside .paren do
        keyword "in"
        plainPath
      return .within true p
    | _ => return .everyone
  return .inherited

def constName : Parser String := identOr ["_"]

def valueIf (g : Grammar) : Parser (Option Expr) := do
  if ← opIf "=" then return some (← g.expr true)
  return none

def boundsIf (g : Grammar) (stop : List Token → Bool) : Parser (List Bound × Bool) := do
  if ← opIf ":" then separatedUntil "+" stop (g.bound false true) else return ([], false)

def bracedItems (g : Grammar) (item : Parser Item) : Parser (List Attribute × List Item) :=
  inside .brace do return (← innerAttributes g, ← manyWhile (!·.isEmpty) item)

/-- What was read, where it has a layout, else its tokens. -/
def ofParts (start : List Token) (attrs : List Attribute) (access : Access) (isDefault : Bool)
    (kind : Option ItemKind) : Parser Item := do
  match kind with
  | some kind => return .mk attrs access isDefault kind
  | none => return .verbatim (← tokensSince start)

/-! ### Functions -/

/-- Whether a signature begins here; `allowSafe` admits `safe` in the place of `unsafe`. -/
def startsSignature (allowSafe : Bool) (ts : List Token) : Bool :=
  let drop (test : List Token → Bool) (ts : List Token) := if test ts then skip ts else ts
  let ts := drop (isWordToken "async") (drop (isWordToken "const") ts)
  let ts := drop (fun ts => isWordToken "unsafe" ts || (allowSafe && isWordToken "safe" ts)) ts
  match ts with
  | .ident "extern" :: .literal l :: rest =>
    if l.kind = .string then isWordToken "fn" rest else false
  | .ident "extern" :: rest => isWordToken "fn" rest
  | ts => isWordToken "fn" ts

def receiver (g : Grammar) (attrs : List Attribute) : Parser Parameter := do
  let reference ← if ← opIf "&" then some <$> lifetimeIf else pure none
  let isMut ← keywordIf "mut"
  keyword "self"
  if reference.isNone then
    if ← opIf ":" then return .receiver attrs none isMut (some (← g.ty true))
  return .receiver attrs reference isMut none

/-- A parameter or, behind a pattern, `...`. -/
inductive ParameterOrDots
  | parameter (p : Parameter)
  | dots (p : Pat)

def typedParameter (g : Grammar) (attrs : List Attribute) : Parser ParameterOrDots := do
  let ts ← get
  if isIdentToken ts && isOp "<" (skip ts) then
    return .parameter (.typed attrs .wild (← g.ty true))
  let p ← g.patSingle
  op ":"
  if ← opIf "..." then return .dots p
  return .parameter (.typed attrs p (← g.ty true))

def parameter (g : Grammar) (isFirst : Bool) (attrs : List Attribute) :
    Parser ParameterOrDots := do
  if let some (r, rest) := receiver g attrs (← get) then
    guardThat isFirst
    set rest
    return .parameter r
  typedParameter g attrs

/-- `...` in place of further parameters, perhaps behind a pattern and in front of a comma. -/
def variadicParameter (attrs : List Attribute) (p : Option Pat) : Parser Fragment := do
  let hasComma ← opIf ","
  return {
    tokens := attributeTokens attrs ++ p.elim [] (fun p => p.tokens ++ sym ":") ++ sym "..."
      ++ if hasComma then comma else []
    layout := attributePieces attrs ++ p.elim [] (fun p => p.pieces ++ Layout.text ": ")
      ++ Layout.text "..." }

def parameters (g : Grammar) : Parser (List Parameter × Bool × Option Fragment) := do
  loop true ((← get).length + 1)
where
  loop (isFirst : Bool) : Nat → Parser (List Parameter × Bool × Option Fragment)
    | 0 => failure
    | n + 1 => do
      if ← atEnd then return ([], !isFirst, none)
      let attrs ← attributes g
      if ← opIf "..." then return ([], !isFirst, some (← variadicParameter attrs none))
      match ← parameter g isFirst attrs with
      | .dots p => return ([], !isFirst, some (← variadicParameter attrs (some p)))
      | .parameter p =>
        if ← atEnd then return ([p], false, none)
        op ","
        let (ps, trailing, variadic) ← loop false n
        return (p :: ps, trailing, variadic)

/-- A signature; whether it has `safe` in front, which is not part of it. -/
def signature (g : Grammar) (allowSafe : Bool) : Parser (Signature × Bool) := do
  let isConst ← keywordIf "const"
  let isAsync ← keywordIf "async"
  let isSafe ← if allowSafe then keywordIf "safe" else pure false
  let isUnsafe ← if isSafe then pure false else keywordIf "unsafe"
  let abi ← abiIf
  keyword "fn"
  let name ← ident
  let (params, _) ← genericParams g
  let (parameters, trailing, variadic) ← inside .paren (parameters g)
  let out ← output g true
  let (conditions, _) ← whereIf g
  return ({
    qualifiers := ⟨isConst, isAsync, isUnsafe, abi⟩
    name := name
    generics := ⟨params, conditions⟩
    parameters := parameters
    trailing := trailing
    variadic := variadic
    output := out }, isSafe)

def functionItem (g : Grammar) : Parser (Option ItemKind) := do
  let (s, _) ← signature g false
  if ← opIf ";" then return none
  return some (.function s (some (← block g)))

def declaredFunction (g : Grammar) : Parser ItemKind := do
  let (s, _) ← signature g false
  if ← opIf ";" then return .function s none
  return .function s (some (← block g))

/-! ### Constants, types and imports -/

/-- A constant. It has no layout with generic parameters or conditions, nor without a value where
`needsValue`. -/
def constItem (g : Grammar) (needsValue : Bool) : Parser (Option ItemKind) := do
  keyword "const"
  let name ← constName
  let (_, hasParams) ← genericParams g
  op ":"
  let t ← g.ty true
  let value ← valueIf g
  let (_, hasConditions) ← whereIf g
  op ";"
  if hasParams || hasConditions || (needsValue && value.isNone) then return none
  return some (.const name t value)

/-- A static variable; without a type or without a value it has no layout. -/
def staticItem (g : Grammar) : Parser (Option ItemKind) := do
  keyword "static"
  let isMut ← keywordIf "mut"
  let name ← ident
  if ← opIf "=" then
    let _ ← g.expr true
    op ";"
    return none
  op ":"
  let t ← g.ty true
  if ← opIf ";" then return none
  op "="
  let value ← g.expr true
  op ";"
  return some (.static isMut name t (some value))

inductive ConditionsPlace
  | beforeValue
  | afterValue
  | either

structure TypeDeclaration where
  name : String
  generics : Generics
  hasColon : Bool
  bounds : List Bound
  trailing : Bool
  value : Option Ty

def typeDeclaration (g : Grammar) (place : ConditionsPlace) : Parser TypeDeclaration := do
  keyword "type"
  let name ← ident
  let (params, _) ← genericParams g
  let hasColon := isOp ":" (← get)
  let (bounds, trailing) ←
    boundsIf g fun ts => isWordToken "where" ts || isOp "=" ts || isOp ";" ts
  let (before, hasBefore) ← match place with
    | .afterValue => pure ({}, false)
    | _ => whereIf g
  let value ← if ← opIf "=" then some <$> g.ty true else pure none
  let (conditions, _) ← match place, hasBefore with
    | .beforeValue, _ | _, true => pure (before, true)
    | _, false => whereIf g
  op ";"
  return ⟨name, ⟨params, conditions⟩, hasColon, bounds, trailing, value⟩

def typeAlias (g : Grammar) : Parser (Option ItemKind) := do
  let d ← typeDeclaration g .beforeValue
  if d.hasColon || d.value.isNone then return none
  return some (.typeAlias d.name d.generics d.value)

/-- What an import brings into scope; the flag says that a name in a group begins with `::`, where
`allowRooted` admits that. -/
def useTree (allowRooted : Bool) : Nat → Parser (UseTree × Bool)
  | 0 => failure
  | n + 1 => do
    if ← opIf "*" then return (.glob, false)
    if isBrace (← get) then
      let (trees, trailing) ← inside .brace <| commaList do
        let isRooted ← if allowRooted then opIf "::" else pure false
        let (tree, hasRooted) ← useTree (allowRooted && !isRooted) n
        return (tree, isRooted || hasRooted)
      return (.group (trees.map (·.1)) trailing, trees.any (·.2))
    let name ← identOr ["self", "super", "crate", "try"]
    if ← opIf "::" then
      let (rest, _) ← useTree false n
      return (.path name rest, false)
    if ← keywordIf "as" then return (.rename name (← identOr ["_"]), false)
    return (.name name, false)

def useItem : Parser (Option ItemKind) := do
  keyword "use"
  let isRooted ← opIf "::"
  let (tree, hasRooted) ← useTree (!isRooted) (Token.countAll (← get) + 1)
  op ";"
  return if hasRooted then none else some (.use isRooted tree)

def externCrate : Parser ItemKind := do
  keyword "extern"
  keyword "crate"
  let name ← identOr ["self"]
  let rename ← if ← keywordIf "as" then some <$> identOr ["_"] else pure none
  op ";"
  return .externCrate name rename

/-! ### Structures and enumerations -/

/-- A structure without a name, as the type of a field without a name. -/
def namelessStruct (g : Grammar) : Parser Ty := do
  let start ← get
  let _ ← anyIdent
  let _ ← g.recordFields
  return .verbatim (← tokensSince start)

def namedField (g : Grammar) : Parser Field := do
  let attrs ← attributes g
  let access ← access
  let name ← identOr ["_"]
  op ":"
  let ts ← get
  let isNameless := name == "_"
    && (isWordToken "struct" ts || (isWordToken "union" ts && isBrace (skip ts)))
  return ⟨attrs, access, some name, ← if isNameless then namelessStruct g else g.ty true⟩

def recordFieldsRule (g : Grammar) : Parser Fields := do
  let (fields, trailing) ← inside .brace (commaList (namedField g))
  return .record fields trailing

def tupleFields (g : Grammar) : Parser Fields := do
  let (fields, trailing) ← inside .paren <| commaList do
    return ⟨← attributes g, ← access, none, ← g.ty true⟩
  return .tuple fields trailing

def structItem (g : Grammar) : Parser ItemKind := do
  keyword "struct"
  let name ← ident
  let (params, _) ← genericParams g
  let (before, hasBefore) ← whereIf g
  let ts ← get
  if !hasBefore && isParen ts then
    let fields ← tupleFields g
    let (after, _) ← whereIf g
    op ";"
    return .struct .struct name ⟨params, after⟩ fields
  if isBrace ts then return .struct .struct name ⟨params, before⟩ (← g.recordFields)
  op ";"
  return .struct .struct name ⟨params, before⟩ .unit

def unionItem (g : Grammar) : Parser ItemKind := do
  keyword "union"
  let name ← ident
  let (params, _) ← genericParams g
  let (conditions, _) ← whereIf g
  return .struct .union name ⟨params, conditions⟩ (← g.recordFields)

/-- A variant; who may see it is read and not kept. -/
def variant (g : Grammar) : Parser Variant := do
  let attrs ← attributes g
  let _ ← access
  let name ← ident
  let ts ← get
  let fields ← if isBrace ts then g.recordFields
    else if isParen ts then tupleFields g
    else pure .unit
  return ⟨attrs, name, fields, ← valueIf g⟩

def enumItem (g : Grammar) : Parser ItemKind := do
  keyword "enum"
  let name ← ident
  let (params, _) ← genericParams g
  let (conditions, _) ← whereIf g
  let (variants, trailing) ← inside .brace (commaList (variant g))
  return .enumeration name ⟨params, conditions⟩ variants trailing

/-! ### Macros -/

def startsMacro (ts : List Token) : Bool :=
  isIdentToken ts || isOneOf ["self", "super", "crate"] ts || isOp "::" ts

/-- A macro call as an item; `admitsName` admits a name in front of the delimiters. -/
def macroItem (admitsName : Bool) : Parser ItemKind := do
  let path ← plainPath
  op "!"
  let ts ← get
  let hasName := admitsName && (isIdentToken ts || isWordToken "try" ts)
  let name ← if hasName then some <$> anyIdent else pure none
  let m ← macroBody path
  if m.delimiter != .brace then op ";"
  return .macroCall name m

/-- `macro name(…) { … }`, which has no layout. -/
def macroDefinition : Parser Unit := do
  keyword "macro"
  let _ ← ident
  let _ ← optionally isParen (anyInside .paren)
  let _ ← anyInside .brace

/-! ### Items of traits, implementations and foreign blocks -/

/-- An item of a trait; one with an access or a default of its own has no layout. -/
def traitItem (g : Grammar) : Parser Item := do
  let start ← get
  let attrs ← attributes g
  let access ← access
  let isDefault ← keywordIf "default"
  let isPlain := access = .inherited && !isDefault
  let ts ← get
  let next := skip ts
  let kind : Option ItemKind ←
    if startsSignature false ts then some <$> declaredFunction g
    else if isWordToken "const" ts then
      if isIdentToken next || isWordToken "_" next then constItem g false
      else some <$> declaredFunction g
    else if isWordToken "type" ts then do
      let d ← typeDeclaration g .afterValue
      pure (some (.assocType d.name d.generics d.bounds d.trailing d.value))
    else do
      guardThat (isPlain && startsMacro ts)
      some <$> macroItem false
  ofParts start attrs .inherited false (if isPlain then kind else none)

def implItem (g : Grammar) : Parser Item := do
  let start ← get
  let attrs ← attributes g
  let access ← access
  let ts ← get
  let isDefault ← if isOp "!" (skip ts) then pure false else keywordIf "default"
  let ts ← get
  let kind ←
    if startsSignature false ts then functionItem g
    else if isWordToken "const" ts then constItem g true
    else if isWordToken "type" ts then do
      let d ← typeDeclaration g .afterValue
      pure (if d.hasColon || d.value.isNone then none
        else some (.assocType d.name d.generics [] false d.value))
    else do
      guardThat (access = .inherited && !isDefault && startsMacro ts)
      some <$> macroItem false
  ofParts start attrs access isDefault kind

/-- A function of a foreign block; with a body or behind `safe` it has no layout. -/
def foreignFunction (g : Grammar) : Parser (Option ItemKind) := do
  let (s, isSafe) ← signature g true
  if isBrace (← get) then
    let _ ← block g
    return none
  op ";"
  return if isSafe then none else some (.function s none)

/-- A static variable of a foreign block; with a value, `safe` or `unsafe` it has no layout. -/
def foreignStatic (g : Grammar) : Parser (Option ItemKind) := do
  let isUnsafe ← keywordIf "unsafe"
  let isSafe ← if isUnsafe then pure false else keywordIf "safe"
  keyword "static"
  let isMut ← keywordIf "mut"
  let name ← ident
  op ":"
  let t ← g.ty true
  let value ← valueIf g
  op ";"
  if isUnsafe || isSafe || value.isSome then return none
  return some (.static isMut name t none)

def foreignItem (g : Grammar) : Parser Item := do
  let start ← get
  let attrs ← attributes g
  let access ← access
  let ts ← get
  let kind ←
    if startsSignature true ts then foreignFunction g
    else if isWordToken "static" ts
        || (isOneOf ["unsafe", "safe"] ts && isWordToken "static" (skip ts)) then
      foreignStatic g
    else if isWordToken "type" ts then do
      let d ← typeDeclaration g .either
      pure (if d.hasColon || d.value.isSome then none
        else some (.typeAlias d.name d.generics none))
    else do
      guardThat (access = .inherited && startsMacro ts)
      some <$> macroItem false
  ofParts start attrs access false kind

/-! ### Items with items inside -/

def foreignMod (g : Grammar) : Parser ItemKind := do
  let isUnsafe ← keywordIf "unsafe"
  match ← abiIf with
  | none => failure
  | some abi =>
    let (inner, items) ← bracedItems g (foreignItem g)
    return .foreign isUnsafe abi inner items

def anyItem (g : Grammar) : Parser Item := do
  let start ← get
  g.item start (← attributes g)

def moduleItem (g : Grammar) : Parser ItemKind := do
  let isUnsafe ← keywordIf "unsafe"
  keyword "mod"
  let name ← identOr ["try"]
  if ← opIf ";" then return .moduleName isUnsafe name
  let (inner, items) ← bracedItems g (anyItem g)
  return .moduleBody isUnsafe name inner items

/-- What follows the name and parameters of a trait that is no alias. -/
def traitRest (g : Grammar) (isUnsafe isAuto : Bool) (name : String) (params : GenericParams) :
    Parser ItemKind := do
  let (bounds, trailing) ← boundsIf g fun ts => isWordToken "where" ts || isBrace ts
  let (conditions, _) ← whereIf g
  let (inner, items) ← bracedItems g (traitItem g)
  return .trait isUnsafe isAuto name ⟨params, conditions⟩ bounds trailing inner items

def traitDeclaration (g : Grammar) : Parser ItemKind := do
  let isUnsafe ← keywordIf "unsafe"
  let isAuto ← keywordIf "auto"
  keyword "trait"
  let name ← ident
  let (params, _) ← genericParams g
  if !isUnsafe && !isAuto then
    if ← opIf "=" then
      let (bounds, trailing) ← separatedUntil "+"
        (fun ts => isWordToken "where" ts || isOp ";" ts) (g.bound false false)
      let (conditions, _) ← whereIf g
      op ";"
      return .traitAlias name ⟨params, conditions⟩ bounds trailing
  traitRest g isUnsafe isAuto name params

def constImplIf : Parser Bool := do
  let ts ← get
  if isWordToken "const" ts || (isOp "?" ts && isWordToken "const" (skip ts)) then
    let _ ← opIf "?"
    keyword "const"
    return true
  return false

def implHead (g : Grammar) (isNegative : Bool) : Parser (Option Path × Ty × Bool) := do
  let first ← g.ty true
  if ← keywordIf "for" then
    let self ← g.ty true
    match first with
    | .path (.plain rooted segments) => return (some (.plain rooted segments), self, true)
    | _ => return (none, self, false)
  guardThat (!isNegative)
  return (none, first, true)

/-- An implementation and whether it is a default one; it has no layout behind an access, with
`const`, or where the trait is no path. -/
def implementation (g : Grammar) (access : Access) : Parser (Bool × Option ItemKind) := do
  let isDefault ← keywordIf "default"
  let isUnsafe ← keywordIf "unsafe"
  keyword "impl"
  let params ← if startsGenerics (← get) then (·.1) <$> genericParams g else pure {}
  let isConst ← constImplIf
  let ts ← get
  let isNegative := isOp "!" ts && !isBrace (skip ts)
  if isNegative then op "!"
  let (trait, self, hasLayout) ← implHead g isNegative
  let (conditions, _) ← whereIf g
  let (inner, items) ← bracedItems g (implItem g)
  if access ≠ .inherited || isConst || !hasLayout then return (isDefault, none)
  return (isDefault,
    some (.implementation isUnsafe ⟨params, conditions⟩ isNegative trait self inner items))

/-! ### All items -/

def externItem (g : Grammar) (access : Access) : Parser ItemKind := do
  if isWordToken "crate" (skip (← get)) then externCrate
  else
    guardThat (access = .inherited)
    foreignMod g

/-- An item behind `unsafe` that is no function. -/
def unsafeItem (g : Grammar) (access : Access) : Parser (Bool × Option ItemKind) := do
  let next := skip (← get)
  let kind (p : Parser ItemKind) : Parser (Bool × Option ItemKind) := do return (false, some (← p))
  if isWordToken "impl" next then implementation g access
  else if isWordToken "extern" next then
    guardThat (access = .inherited)
    kind (foreignMod g)
  else if isWordToken "mod" next then kind (moduleItem g)
  else kind (traitDeclaration g)

/-- What an item is; whether it is a default one, and none where it has no layout. -/
def itemKind (g : Grammar) (access : Access) : Parser (Bool × Option ItemKind) := do
  let ts ← get
  let next := skip ts
  let perhaps (p : Parser (Option ItemKind)) : Parser (Bool × Option ItemKind) := do
    return (false, ← p)
  let kind (p : Parser ItemKind) := perhaps (some <$> p)
  if startsSignature false ts then perhaps (functionItem g)
  else if isWordToken "extern" ts then kind (externItem g access)
  else if isWordToken "use" ts then perhaps useItem
  else if isWordToken "static" ts then perhaps (staticItem g)
  else if isWordToken "const" ts then perhaps (constItem g true)
  else if isWordToken "unsafe" ts then unsafeItem g access
  else if isWordToken "mod" ts then kind (moduleItem g)
  else if isWordToken "type" ts then perhaps (typeAlias g)
  else if isWordToken "struct" ts then kind (structItem g)
  else if isWordToken "enum" ts then kind (enumItem g)
  else if isWordToken "union" ts && isIdentToken next then kind (unionItem g)
  else if isWordToken "trait" ts || (isWordToken "auto" ts && isWordToken "trait" next) then
    kind (traitDeclaration g)
  else if isWordToken "impl" ts || (isWordToken "default" ts && !isOp "!" next) then
    implementation g access
  else if isWordToken "macro" ts then
    macroDefinition
    return (false, none)
  else
    guardThat (access = .inherited && startsMacro ts)
    kind (macroItem true)

/-- An item behind its attributes; `start` are the tokens from the attributes on. -/
def itemRule (g : Grammar) (start : List Token) (attrs : List Attribute) : Parser Item := do
  let access ← access
  let (isDefault, kind) ← itemKind g access
  ofParts start attrs access isDefault kind

def fileItems (g : Grammar) : Parser (List Attribute × List Item) := do
  return (← innerAttributes g, ← manyWhile (!·.isEmpty) (anyItem g))

end ApiClient.Code.Grammar
