import ApiClient.Code.Tree.Tokens
import ApiClient.Text.Quoted

/-!
Documentation of generated functions, line by line. Paragraphs are set apart by an empty line.
-/

namespace ApiClient.Service

def isWhiteSpace (c : Char) : Bool :=
  c = ' ' || (0x09 ≤ c.toNat && c.toNat ≤ 0x0D) || c.toNat = 0x85 || c.toNat = 0xA0
    || c.toNat = 0x1680 || (0x2000 ≤ c.toNat && c.toNat ≤ 0x200A)
    || [0x2028, 0x2029, 0x202F, 0x205F, 0x3000].contains c.toNat

structure Documentation where
  lines : List String
  deriving DecidableEq, Repr

namespace Documentation

def empty : Documentation := ⟨[]⟩

def isEmpty (d : Documentation) : Bool := d.lines.isEmpty

/-- A backslash before an `n` stands for a line feed. -/
def unescapeLineFeeds : List Char → List Char
  | '\\' :: 'n' :: rest => '\n' :: unescapeLineFeeds rest
  | c :: rest => c :: unescapeLineFeeds rest
  | [] => []

/-- The lines of a text; a line feed at its end begins no further line. -/
def splitLines (cs : List Char) : List (List Char) :=
  let parts := cs.splitOn '\n'
  if parts.getLast? == some [] then parts.dropLast else parts

def trimEnd (cs : List Char) : List Char := (cs.reverse.dropWhile isWhiteSpace).reverse

def ofText (text : String) : Documentation :=
  ⟨(splitLines (unescapeLineFeeds text.toList)).map fun l => String.ofList (trimEnd l)⟩

/-- Nothing documents nothing. -/
def ofOption (text : Option String) : Documentation := text.elim empty ofText

def push (d : Documentation) (line : String) : Documentation := ⟨d.lines ++ [line]⟩

/-- Adds a paragraph behind an empty line; an empty paragraph adds nothing. -/
def pushParagraph (d paragraph : Documentation) : Documentation :=
  if paragraph.isEmpty then d
  else if d.isEmpty then paragraph
  else ⟨d.lines ++ [""] ++ paragraph.lines⟩

def lineText (line : String) : String := if line.isEmpty then "" else " " ++ line

def textLiteral (s : String) : Code.Literal := ⟨.string, Quoted.literal s⟩

def attributes (d : Documentation) : List Code.Attribute :=
  d.lines.map fun line => ⟨⟨false, ["doc"]⟩, .value (.ofLiteral (textLiteral (lineText line)))⟩

def tokens (d : Documentation) : List Code.Token := Code.attributeTokens d.attributes

end Documentation

end ApiClient.Service
