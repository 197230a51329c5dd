import ApiClient.Parameter.Style

/-!
Query strings. A query serializer is any function from the query's entries to the search part of a
URL; `QueryOptions` gives the usual ones.
-/

namespace ApiClient

abbrev QuerySerializer := Entries Json → Except NestedParameter String

inductive ArrayStyle
  | form
  | spaceDelimited
  | pipeDelimited
  deriving DecidableEq, Repr

inductive ObjectStyle
  | form
  | deepObject
  deriving DecidableEq, Repr

def ArrayStyle.style : ArrayStyle → Parameter.Style
  | .form => .form
  | .spaceDelimited => .spaceDelimited
  | .pipeDelimited => .pipeDelimited

def ObjectStyle.style : ObjectStyle → Parameter.Style
  | .form => .form
  | .deepObject => .deepObject

structure QueryOptions where
  allowReserved : Bool := false
  arrayStyle : ArrayStyle := .form
  explodeArrays : Bool := true
  objectStyle : ObjectStyle := .deepObject
  explodeObjects : Bool := true
  deriving DecidableEq, Repr

namespace QueryOptions

/-- The text of one entry. It is empty for null, and for arrays and objects that are empty and
exploded. -/
def entryText (options : QueryOptions) (name : String) :
    Json → Except NestedParameter (List Char)
  | .null => .ok []
  | .array items =>
    options.arrayStyle.style.array options.explodeArrays options.allowReserved name items
  | .object entries =>
    options.objectStyle.style.object options.explodeObjects options.allowReserved name entries
  | scalar => do
    return Parameter.pair options.allowReserved name.toList (← Parameter.elementText name scalar)

def serialize (options : QueryOptions) : QuerySerializer := fun query => do
  let texts ← query.mapM fun (name, v) => options.entryText name v
  return String.ofList (List.intercalate ['&'] (texts.filter (!·.isEmpty)))

end QueryOptions

end ApiClient
