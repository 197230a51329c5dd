import ApiClient.Text.Transliteration

/-!
Names of generated functions. An operation id is brought to ASCII words joined by underscores,
put into snake case, and kept apart from reserved words and from the names used before. How a text
is brought to ASCII is left to the caller.
-/

namespace ApiClient.Service

/-! ### Sanitizing -/

/-- Letters and digits stay; each run of anything else between them becomes one underscore. The
flag says that an underscore is due before the next letter or digit. -/
def joinWords : (due : Bool) → List Char → List Char
  | _, [] => []
  | due, c :: rest =>
    if c.isAlphanum then (if due then ['_', c] else [c]) ++ joinWords false rest
    else joinWords true rest

/-- The words of a text in ASCII letters and digits, joined by single underscores, after `toAscii`
has brought the text to ASCII. -/
def sanitizeWith (toAscii : List Char → List Char) (cs : List Char) : List Char :=
  joinWords false ((toAscii cs).dropWhile (!·.isAlphanum))

def sanitizeChars (cs : List Char) : List Char := sanitizeWith Transliteration.toAscii cs

def sanitize (text : String) : String := String.ofList (sanitizeChars text.toList)

/-! ### Case -/

def snakeCase : List Char → List Char
  | [] => []
  | [c] => [c.toLower]
  | c :: d :: rest =>
    if c.isLower && d.isUpper then c :: '_' :: snakeCase (d :: rest)
    else c.toLower :: snakeCase (d :: rest)

/-! ### Reserved words -/

def keywords : List String :=
  ["as", "break", "const", "continue", "else", "enum", "extern", "false", "fn", "for", "if", "impl",
    "in", "let", "loop", "match", "mod", "move", "mut", "pub", "ref", "return", "static", "struct",
    "trait", "true", "type", "unsafe", "use", "where", "while", "async", "await", "dyn", "try",
    "abstract", "become", "box", "do", "final", "macro", "override", "priv", "typeof", "unsized",
    "virtual", "yield", "gen"]

/-- Words that cannot be written raw. -/
def pathKeywords : List String := ["crate", "self", "super"]

def fnName (operationId : String)
    (toAscii : List Char → List Char := Transliteration.toAscii) : String :=
  let name := String.ofList (snakeCase (sanitizeWith toAscii operationId.toList))
  if name.isEmpty then "operation"
  else if pathKeywords.contains name then name ++ "_"
  else if keywords.contains name then "r#" ++ name
  else if name.toList.head?.any (·.isDigit) then "op_" ++ name
  else name

/-! ### Unique names -/

def numbered (base : String) (k : Nat) : String := base ++ toString k

/-- The name itself when it is not used, else the name with the least number from 2 on that makes
it unused. One more number than there are used names is enough. -/
def ensureUnique (base : String) (used : List String) : String :=
  if used.contains base then
    (((List.range (used.length + 1)).map fun i => numbered base (i + 2)).find?
      fun name => !used.contains name).getD base
  else base

end ApiClient.Service
