import ApiClient.Code.Generics

/-!
Items: what a module, a trait, an implementation or a foreign block is made of.
-/

namespace ApiClient.Code

/-- Who sees an item or a field. -/
inductive Access
  | inherited
  | everyone
  /-- `pub(path)`, or `pub(in path)` when `isIn`. -/
  | within (isIn : Bool) (p : PlainPath)
  deriving DecidableEq, Repr

/-- The names that an import brings into scope. -/
inductive UseTree
  | name (name : String)
  | rename (name new : String)
  | glob
  | path (first : String) (rest : UseTree)
  | group (trees : List UseTree) (trailing : Bool)

inductive Parameter
  /-- `self`, perhaps behind `&` with a lifetime, perhaps with a type. -/
  | receiver (attrs : List Attribute) (reference : Option (Option String)) (isMut : Bool)
      (t : Option Ty)
  | typed (attrs : List Attribute) (p : Pat) (t : Ty)

structure Signature where
  qualifiers : FnQualifiers := ⟨false, false, false, none⟩
  name : String
  generics : Generics := {}
  parameters : List Parameter
  trailing : Bool := false
  /-- `...` with what may stand around it. -/
  variadic : Option Fragment := none
  output : Option Ty

structure Field where
  attrs : List Attribute
  access : Access
  name : Option String
  type : Ty

inductive Fields
  | unit
  | tuple (fields : List Field) (trailing : Bool)
  | record (fields : List Field) (trailing : Bool)

structure Variant where
  attrs : List Attribute
  name : String
  fields : Fields
  value : Option Expr

inductive StructKind
  | struct
  | union
  deriving DecidableEq, Repr

mutual

inductive Item
  | mk (attrs : List Attribute) (access : Access) (isDefault : Bool) (kind : ItemKind)
  /-- An item without a layout. -/
  | verbatim (tokens : List Token)

inductive ItemKind
  /-- A type of a trait or of an implementation. -/
  | assocType (name : String) (generics : Generics) (bounds : List Bound) (trailing : Bool)
      (value : Option Ty)
  | const (name : String) (t : Ty) (value : Option Expr)
  | enumeration (name : String) (generics : Generics) (variants : List Variant) (trailing : Bool)
  | externCrate (name : String) (rename : Option String)
  | foreign (isUnsafe : Bool) (abi : Option Literal) (inner : List Attribute) (items : List Item)
  | function (signature : Signature) (body : Option Block)
  | implementation (isUnsafe : Bool) (generics : Generics) (isNegative : Bool)
      (trait : Option Path) (self : Ty) (inner : List Attribute) (items : List Item)
  /-- A macro call, perhaps with the name that it defines. -/
  | macroCall (name : Option String) (m : MacroCall)
  /-- A module whose items stand elsewhere. -/
  | moduleName (isUnsafe : Bool) (name : String)
  | moduleBody (isUnsafe : Bool) (name : String) (inner : List Attribute) (items : List Item)
  | static (isMut : Bool) (name : String) (t : Ty) (value : Option Expr)
  | struct (kind : StructKind) (name : String) (generics : Generics) (fields : Fields)
  | trait (isUnsafe isAuto : Bool) (name : String) (generics : Generics) (bounds : List Bound)
      (trailing : Bool) (inner : List Attribute) (items : List Item)
  | traitAlias (name : String) (generics : Generics) (bounds : List Bound) (trailing : Bool)
  /-- A name for a type; without a type in a foreign block. -/
  | typeAlias (name : String) (generics : Generics) (value : Option Ty)
  | use (rooted : Bool) (tree : UseTree)

end

end ApiClient.Code
