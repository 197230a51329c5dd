import ApiClient.Text.IdentifierChars

/-!
Identifiers. A text is an identifier when it is a plain word that is no reserved word, or `r#`
and a word that may be written raw.
-/

namespace ApiClient.Code

/-- Words that are no identifiers. -/
def reservedWords : List String :=
  ["_", "abstract", "as", "async", "await", "become", "box", "break", "const", "continue", "crate",
    "do", "dyn", "else", "enum", "extern", "false", "final", "fn", "for", "if", "impl", "in", "let",
    "loop", "macro", "match", "mod", "move", "mut", "override", "priv", "pub", "ref", "return",
    "Self", "self", "static", "struct", "super", "trait", "true", "try", "type", "typeof", "unsafe",
    "unsized", "use", "virtual", "where", "while", "yield"]

/-- Words that keep their meaning and so cannot be written raw. -/
def notRaw : List String := ["_", "super", "self", "Self", "crate"]

def isWordStart (c : Char) : Bool := c == '_' || IdentifierChars.isStart c

/-- A letter or an underscore, then letters, digits and underscores. -/
def isWord : List Char → Bool
  | [] => false
  | c :: rest => isWordStart c && rest.all IdentifierChars.isContinue

/-- Whether the text is exactly one identifier. -/
def isIdent (s : String) : Bool :=
  match s.toList with
  | 'r' :: '#' :: word => isWord word && !notRaw.contains (String.ofList word)
  | word => isWord word && !reservedWords.contains s

/-- An identifier with its spelling; a raw one keeps its `r#`. -/
structure Ident where
  name : String
  valid : isIdent name = true
  deriving DecidableEq

namespace Ident

/-- Reads a text that is exactly one identifier, without blanks around it. -/
def parse? (s : String) : Option Ident :=
  if h : isIdent s = true then some ⟨s, h⟩ else none

theorem parse?_isSome {s : String} : (parse? s).isSome = isIdent s := by
  unfold parse?
  split <;> simp_all

theorem name_of_parse? {s : String} {i : Ident} (h : parse? s = some i) : i.name = s := by
  unfold parse? at h
  split at h <;> simp_all
  rw [← h]

end Ident

end ApiClient.Code
