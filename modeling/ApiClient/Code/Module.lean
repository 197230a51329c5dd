import ApiClient.Code.Call
import ApiClient.Code.Grammar
import ApiClient.Code.Item.Pretty

/-!
Modules of functions: a `use` item for the names that the functions refer to, and functions of one
statement. `Module.text` lays a module out, `Module.tokens` gives its tokens.
-/

namespace ApiClient.Code

open Layout

/-- Who sees a function. -/
inductive Visibility
  | everyone
  | crate
  | file
  deriving DecidableEq, Repr

namespace Visibility

/-- The visibility that a configuration names. -/
def parse? : String → Option Visibility
  | "public" => some .everyone
  | "crate" => some .crate
  | "file" => some .file
  | _ => none

/-- How an item says so. -/
def access : Visibility → Access
  | .everyone => .everyone
  | .crate => .within false ⟨false, ["crate"]⟩
  | .file => .inherited

end Visibility

/-- A parameter that is one name. -/
def Parameter.ofName (name : String) (t : Ty) : Parameter := .typed [] (.ident false false name) t

/-- A function whose body is one `return`. -/
structure Function where
  attrs : List Attribute := []
  visibility : Visibility
  name : String
  parameters : List Parameter := []
  output : Option Ty := none
  body : Return

namespace Function

def item (f : Function) : Item :=
  .mk f.attrs f.visibility.access false
    (.function { name := f.name, parameters := f.parameters, output := f.output }
      (some (.mk [] [f.body.stmt])))

def tokens (f : Function) : List Token := f.item.tokens

def hasLayout (f : Function) : Bool := isComplete f.item.pieces

/-- The text of a function on its own, which has a layout. -/
def text (f : Function) : String := render (consistent 0 f.item.pieces)

end Function

/-- Names imported from a path. -/
structure Import where
  attrs : List Attribute
  path : Path
  names : List String

namespace Import

/-- The names in their braces. -/
def group (i : Import) : UseTree := .group (i.names.map .name) false

def tokens (i : Import) : List Token :=
  attributeTokens i.attrs ++ word "use" ++ i.path.tokens ++ sym "::" ++ i.group.tokens ++ sym ";"

def pieces (i : Import) : List Piece :=
  attributePieces i.attrs ++ Layout.text "use " ++ i.path.pieces false ++ Layout.text "::"
    ++ i.group.pieces ++ Layout.text ";" ++ hardBreak

end Import

/-- An import and the functions that need it. -/
structure Module where
  imported : Import
  functions : List Function

namespace Module

def tokens (m : Module) : List Token := m.imported.tokens ++ m.functions.flatMap Function.tokens

/-- Whether the tokens of a module can be read as those of a file. -/
def isValid (m : Module) : Bool :=
  (Parser.run? (Grammar.fileItems (.for m.tokens)) m.tokens).isSome

def pieces (m : Module) : List Piece :=
  m.imported.pieces ++ m.functions.flatMap (·.item.pieces)

def hasLayout (m : Module) : Bool := isComplete m.pieces

/-- The text of a module, which has a layout. -/
def text (m : Module) : String := render (consistent 0 m.pieces)

end Module

end ApiClient.Code
