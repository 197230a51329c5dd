import ApiClient.Json.Printer
import ApiClient.Text.Percent

/-!
How arrays and objects become the text of a parameter. The styles are those of API descriptions:
a style says what joins the elements and what stands before them, and exploding gives each element
its name again. Elements are scalars; an element that holds others is an error.
-/

namespace ApiClient

/-- A parameter whose array or object holds arrays or objects. -/
structure NestedParameter where
  name : String
  deriving DecidableEq, Repr

def NestedParameter.message (e : NestedParameter) : String :=
  s!"parameter `{e.name}` nests arrays or objects, which cannot be serialized"

namespace Parameter

inductive Style
  | form
  | spaceDelimited
  | pipeDelimited
  | deepObject
  | label
  | matrix
  | simple
  deriving DecidableEq, Repr

def Style.collapsedSeparator : Style → List Char
  | .spaceDelimited => ['%', '2', '0']
  | .pipeDelimited => ['|']
  | _ => [',']

def Style.explodedSeparator : Style → List Char
  | .label => ['.']
  | .matrix => [';']
  | .simple => [',']
  | _ => ['&']

/-- A value as it stands in a URL, percent-encoded unless reserved characters are allowed. -/
def encode (allowReserved : Bool) (text : List Char) : List Char :=
  if allowReserved then text else Percent.encode text

def pair (allowReserved : Bool) (name text : List Char) : List Char :=
  name ++ '=' :: encode allowReserved text

def elementText (name : String) (v : Json) : Except NestedParameter (List Char) :=
  match v.scalarText? with
  | some s => .ok s.toList
  | none => .error ⟨name⟩

/-- What stands before the elements under one name. -/
def Style.arrayHead (style : Style) (name : List Char) : List Char :=
  match style with
  | .label => ['.']
  | .matrix => ';' :: name ++ ['=']
  | .simple => []
  | _ => name ++ ['=']

def Style.explodedElement (style : Style) (allowReserved : Bool) (name text : List Char) :
    List Char :=
  match style with
  | .label | .simple => encode allowReserved text
  | _ => pair allowReserved name text

def Style.explodedHead : Style → List Char
  | .label => ['.']
  | .matrix => [';']
  | _ => []

def Style.array (style : Style) (explode allowReserved : Bool) (name : String)
    (items : List Json) : Except NestedParameter (List Char) := do
  let texts ← items.mapM (elementText name)
  if explode then
    let elements := texts.map (style.explodedElement allowReserved name.toList)
    return style.explodedHead ++ List.intercalate style.explodedSeparator elements
  else
    let elements := texts.map (encode allowReserved)
    return style.arrayHead name.toList ++ List.intercalate style.collapsedSeparator elements

/-- What stands before the keys and values under one name. -/
def Style.objectHead (style : Style) (name : List Char) : List Char :=
  match style with
  | .form => name ++ ['=']
  | .label => ['.']
  | .matrix => ';' :: name ++ ['=']
  | _ => []

def Style.entryName (style : Style) (name key : List Char) : List Char :=
  match style with
  | .deepObject => name ++ '[' :: key ++ [']']
  | _ => key

def entryTexts (name : String) (entries : Entries Json) :
    Except NestedParameter (List (List Char × List Char)) :=
  entries.mapM fun (key, v) => do return (key.toList, ← elementText name v)

/-- Objects in deep style are always exploded. -/
def Style.object (style : Style) (explode allowReserved : Bool) (name : String)
    (entries : Entries Json) : Except NestedParameter (List Char) := do
  let entries ← entryTexts name entries
  if explode || style = .deepObject then
    let pairs := entries.map fun (key, text) =>
      pair allowReserved (style.entryName name.toList key) text
    return style.explodedHead ++ List.intercalate style.explodedSeparator pairs
  else
    let parts := entries.flatMap fun (key, text) => [key, encode allowReserved text]
    return style.objectHead name.toList ++ List.intercalate [','] parts

end Parameter

end ApiClient
