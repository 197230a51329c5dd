import ApiClient.Code.Token
import ApiClient.Layout.Basic

/-!
Parts of trees that hold no trees: paths of plain words, macro calls and attributes. A `Fragment`
stands where anything could stand and nothing depends on what it is, such as an item inside a
block.
-/

namespace ApiClient.Code

/-- A part that is only ever written out: its tokens and its layout. -/
structure Fragment where
  tokens : List Token
  layout : List Layout.Piece
  deriving Repr, BEq

namespace Fragment

def ofLiteral (l : Literal) : Fragment := ⟨[.literal l], Layout.text l.text⟩

def literal? (f : Fragment) : Option Literal :=
  match f.tokens with
  | [.literal l] => some l
  | _ => none

end Fragment

structure PlainPath where
  rooted : Bool
  names : List String
  deriving DecidableEq, Repr

/-- `path!(…)`: the tokens between the delimiters stay as they are. -/
structure MacroCall where
  path : PlainPath
  delimiter : Delimiter
  body : List Token
  deriving Repr, BEq

inductive AttributeArgs
  | none
  | group (d : Delimiter) (body : List Token)
  | value (v : Fragment)
  deriving Repr, BEq

/-- `#[path]`, `#[path(…)]` or `#[path = …]`. -/
structure Attribute where
  path : PlainPath
  args : AttributeArgs
  deriving Repr, BEq

def Attribute.isNamed (a : Attribute) (name : String) : Bool :=
  !a.path.rooted && a.path.names == [name]

end ApiClient.Code
