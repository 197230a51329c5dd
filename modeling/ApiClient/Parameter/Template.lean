import ApiClient.Parameter.Style

/-!
Path templates. A template is a name in braces; a dot or a semicolon before the name asks for label
or matrix style, an asterisk behind it explodes arrays and objects. `substitute` puts the values of
a path's entries in the place of their templates.
-/

namespace ApiClient.Parameter

/-- What stands between the braces of a template. -/
structure Template where
  name : String
  style : Style
  explode : Bool
  deriving DecidableEq, Repr

def Template.parse (inner : List Char) : Template :=
  let explode := inner.getLast? = some '*'
  let inner := if explode then inner.dropLast else inner
  match inner with
  | '.' :: name => ⟨String.ofList name, .label, explode⟩
  | ';' :: name => ⟨String.ofList name, .matrix, explode⟩
  | name => ⟨String.ofList name, .simple, explode⟩

def Style.scalar (style : Style) (name : String) (text : List Char) : List Char :=
  match style with
  | .matrix => ';' :: pair false name.toList text
  | .label => encode false ('.' :: text)
  | _ => encode false text

/-- The text for a template, `none` when its name has no value. -/
def Template.expand (t : Template) (path : Entries Json) :
    Except NestedParameter (Option (List Char)) :=
  match Entries.find? t.name path with
  | none | some .null => .ok none
  | some (.array items) => some <$> t.style.array t.explode false t.name items
  | some (.object entries) => some <$> t.style.object t.explode false t.name entries
  | some scalar => do return some (t.style.scalar t.name (← elementText t.name scalar))

def isBrace (c : Char) : Bool := c = '\x7b' || c = '\x7d'

theorem length_dropWhile_le {α : Type} (p : α → Bool) (l : List α) :
    (l.dropWhile p).length ≤ l.length := by
  simpa using (List.dropWhile_suffix p : l.dropWhile p <:+ l).length_le

/-- Replaces the templates that have a value. Text that was put in is not read again. A brace that
opens no template stands for itself: one without a closing brace, one before another opening brace,
and an empty pair. -/
def substituteChars (path : Entries Json) (url : List Char) :
    Except NestedParameter (List Char) :=
  let before := url.takeWhile (· ≠ '\x7b')
  match _h : url.dropWhile (· ≠ '\x7b') with
  | [] => .ok before
  | brace :: rest =>
    let inner := rest.takeWhile (!isBrace ·)
    match _h' : rest.dropWhile (!isBrace ·) with
    | [] => .ok url
    | close :: after =>
      if close = '\x7b' || inner.isEmpty then do
        return before ++ brace :: inner ++ (← substituteChars path (close :: after))
      else do
        let text ← (Template.parse inner).expand path
        return before ++ text.getD (brace :: inner ++ [close]) ++ (← substituteChars path after)
termination_by url.length
decreasing_by
  all_goals
    have h1 := length_dropWhile_le (· ≠ '\x7b') url
    have h2 := length_dropWhile_le (!isBrace ·) rest
    simp_all only [List.length_cons]
    omega

def substitute (path : Entries Json) (url : String) : Except NestedParameter String :=
  String.ofList <$> substituteChars path url.toList

end ApiClient.Parameter
