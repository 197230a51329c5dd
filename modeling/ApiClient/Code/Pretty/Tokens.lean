import ApiClient.Code.Tree
import ApiClient.Layout.Basic
import ApiClient.Text.Quoted

/-!
Layout of what is no tree: the tokens of macro calls, attributes and documentation. Where tokens
are set apart depends on the tokens before.
-/

namespace ApiClient.Code

open Layout

/-! ### Tokens of macro calls -/

/-- Words of the language before which a space always stands. -/
def spacedWords : List String :=
  ["as", "async", "await", "box", "break", "const", "continue", "dyn", "else", "enum", "extern",
    "fn", "for", "if", "impl", "in", "let", "loop", "macro", "match", "mod", "move", "mut", "pub",
    "ref", "return", "static", "struct", "trait", "type", "unsafe", "use", "where", "while",
    "yield"]

inductive Preceding
  | start
  | dollar
  | dollarIdent
  | dollarIdentColon
  | dollarParen
  | dollarSeparator
  | pound
  | poundBang
  | dot
  | colon
  | colons
  | ident
  | identBang
  | delimited
  | other
  deriving DecidableEq, Repr

/-- Whether a space stands before a token, and what the tokens end with then. In the pattern of a
macro's rule a `$name` may have a kind behind a colon, and dots are like other punctuation. -/
def spacing (inPattern : Bool) (before : Preceding) (t : Token) : Bool × Preceding :=
  match before, t with
  | .dollar, .ident _ => (false, if inPattern then .dollarIdent else .ident)
  | .dollarIdent, .punct ':' false => (false, .dollarIdentColon)
  | .dollarIdentColon, .ident _ => (false, .other)
  | .dollarParen, .punct '+' false => (false, .other)
  | .dollarParen, .punct '*' false => (false, .other)
  | .dollarParen, .punct '?' false => (false, .other)
  | .dollarParen, .ident _ => (false, .dollarSeparator)
  | .dollarParen, .literal _ => (false, .dollarSeparator)
  | .dollarParen, .punct _ true => (false, .dollarParen)
  | .dollarParen, .punct _ false => (false, .dollarSeparator)
  | .dollarSeparator, .punct '+' _ => (false, .other)
  | .dollarSeparator, .punct '*' _ => (false, .other)
  | .pound, .punct '!' _ => (false, .poundBang)
  | .dollar, .group .paren _ => (false, .dollarParen)
  | .pound, .group .bracket _ => (false, .other)
  | .poundBang, .group .bracket _ => (false, .other)
  | .ident, .group .paren _ => (false, .delimited)
  | .ident, .group .bracket _ => (false, .delimited)
  | .ident, .punct '!' false => (false, .identBang)
  | .identBang, .group .paren _ => (false, .other)
  | .identBang, .group .bracket _ => (false, .other)
  | .colon, .punct ':' _ => (false, .colons)
  | _, .group .brace _ => (true, .other)
  | _, .group _ _ => (true, .delimited)
  | _, .ident name =>
    if spacedWords.contains name then (true, .other)
    else (before != .dot && before != .colons, .ident)
  | _, .literal l =>
    (before != .dot, if l.text.toList.getLast? == some '.' then .other else .ident)
  | _, .punct ',' _ => (false, .other)
  | _, .punct ';' _ => (false, .other)
  | _, .punct '.' _ =>
    if inPattern then (true, .other) else (before != .ident && before != .delimited, .dot)
  | _, .punct ':' true => (before != .ident, .colon)
  | _, .punct '$' _ => (true, .dollar)
  | _, .punct '#' _ => (true, .pound)
  | _, _ => (true, .other)

def bindsNext : Token → Bool
  | .punct '$' _ => true
  | .punct _ joint => joint
  | _ => false

def isDot : Token → Bool
  | .punct '.' _ => true
  | _ => false

def Delimiter.opening : Delimiter → String
  | .paren => "("
  | .bracket => "["
  | .brace => "\x7b"

def Delimiter.closing : Delimiter → String
  | .paren => ")"
  | .bracket => "]"
  | .brace => "\x7d"

mutual

def Token.pieces (inPattern : Bool) : Token → List Piece
  | .ident name => text name
  | .punct c _ => text c.toString
  | .literal l => text l.text
  | .group d [] => text d.opening ++ text d.closing
  | .group d body =>
    let edge := if d = .brace then space else []
    text d.opening ++ edge ++ tokenPieces inPattern .start true body ++ edge ++ text d.closing

/-- Tokens with the spaces between them; `bound` when none may stand before the first. -/
def tokenPieces (inPattern : Bool) (before : Preceding) (bound : Bool) : List Token → List Piece
  | [] => []
  | t :: rest =>
    let (spaced, after) := spacing inPattern before t
    (if bound then [] else if spaced then space else if isDot t then zeroBreak else [])
      ++ t.pieces inPattern ++ tokenPieces inPattern after (bindsNext t) rest

end

/-- Tokens as a group of their own between two breaks, or nothing where there are none. -/
def enclosedPieces (inPattern : Bool) (edge : List Piece) (body : List Token) : List Piece :=
  if body.isEmpty then []
  else consistent indentWidth
    (edge ++ filled 0 (tokenPieces inPattern .start true body) ++ edge ++ outdent)

def PlainPath.pieces (p : PlainPath) : List Piece :=
  text ((if p.rooted then "::" else "") ++ String.intercalate "::" p.names)

/-- The delimited tokens of a macro call; in braces they stand on lines of their own. -/
def MacroCall.bodyPieces (m : MacroCall) : List Piece :=
  text ((if m.delimiter = .brace then " " else "") ++ m.delimiter.opening)
    ++ enclosedPieces false (if m.delimiter = .brace then hardBreak else zeroBreak) m.body
    ++ text m.delimiter.closing

def MacroCall.pieces (m : MacroCall) : List Piece := m.path.pieces ++ text "!" ++ m.bodyPieces

/-! ### Attributes -/

mutual

def Token.attributePieces : Token → List Piece
  | .ident name => text name
  | .punct c _ => text c.toString
  | .literal l => text l.text
  | .group .paren body =>
    let endsWithComma := match body.getLast? with
      | some (.punct ',' _) => true
      | _ => false
    text "(" ++ consistent indentWidth
      (zeroBreak ++ attributeTokenPieces false body ++ (if endsWithComma then [] else zeroBreak)
        ++ outdent) ++ text ")"
  | .group d body => text d.opening ++ attributeTokenPieces false body ++ text d.closing

/-- The tokens of an attribute's arguments; `word` when a word or literal stands before them. -/
def attributeTokenPieces (word : Bool) : List Token → List Piece
  | [] => []
  | [.punct ',' _] => trailingComma true
  | .punct c joint :: rest =>
    (if word && c == '=' then nbsp else []) ++ (Token.punct c joint).attributePieces
      ++ (if c == '=' then nbsp else if c == ',' then space else [])
      ++ attributeTokenPieces false rest
  | .group d body :: rest => (Token.group d body).attributePieces ++ attributeTokenPieces false rest
  | t :: rest =>
    (if word then space else []) ++ t.attributePieces ++ attributeTokenPieces true rest

end

/-! ### Documentation -/

def dropTrailingSpaces (cs : List Char) : List Char :=
  (cs.reverse.dropWhile (· == ' ')).reverse

def dropInnerSpaces (cs : List Char) : List Char :=
  let lines := cs.splitOn '\n'
  ['\n'].intercalate (lines.dropLast.map dropTrailingSpaces ++ lines.getLast?.toList)

/-- Whether the comments inside a text are closed, so that it can stand in a block comment. -/
def isBalanced : Nat → List Char → Bool
  | depth, '/' :: '*' :: rest => isBalanced (depth + 1) rest
  | 0, '*' :: '/' :: _ => false
  | depth + 1, '*' :: '/' :: rest => isBalanced depth rest
  | depth, _ :: rest => isBalanced depth rest
  | depth, [] => depth == 0

/-- Whether a text with several lines can stand in a block comment. -/
def fitsBlockComment (cs : List Char) : Bool := isBalanced 0 cs && cs.getLast? != some '/'

/-- Documentation as a line comment or, when it has several lines, as a block comment; `none` when
it would not read back as either. -/
def docPieces? (inner : Bool) (doc : String) : Option (List Piece) :=
  let cs := doc.toList
  let startsWith (c : Char) := cs.head? == some c
  let mark := if inner then "!" else "/"
  if !cs.contains '\n' && (inner || !startsWith '/') then
    some (text ("//" ++ mark) ++ text (String.ofList (dropTrailingSpaces cs)) ++ hardBreak)
  else if fitsBlockComment cs && (inner || (!startsWith '*' && !startsWith '/')) then
    some (text ("/*" ++ if inner then "!" else "*") ++ text (String.ofList (dropInnerSpaces cs))
      ++ text "*/" ++ hardBreak)
  else none

def commentPieces? (comment : String) : Option (List Piece) :=
  let cs := comment.toList
  let startsWith (c : Char) := cs.head? == some c
  if !cs.contains '\n' then
    some (text "//" ++ text (String.ofList (dropTrailingSpaces cs)) ++ hardBreak)
  else if fitsBlockComment cs && !startsWith '*' && !startsWith '!' then
    some (text "/*" ++ text (String.ofList (dropInnerSpaces cs)) ++ text "*/" ++ hardBreak)
  else none

def Literal.stringValue? (l : Literal) : Option String :=
  match l.kind, l.text.toList with
  | .string, '"' :: rest =>
    (Quoted.read .text rest).map fun (value, _) => String.ofList value
  | .string, 'r' :: rest =>
    let hashes := (rest.takeWhile (· == '#')).length
    let ending := '"' :: List.replicate hashes '#'
    let body := rest.drop (hashes + 1)
    some (String.ofList (takeUntil ending body))
  | _, _ => none
where
  /-- The characters before the first place where the ending stands. -/
  takeUntil (ending : List Char) : List Char → List Char
    | [] => []
    | c :: rest => if ending.isPrefixOf (c :: rest) then [] else c :: takeUntil ending rest

def Attribute.comment? (inner : Bool) (a : Attribute) : Option (List Piece) :=
  match a.args with
  | .value v => do
    let value ← (← v.literal?).stringValue?
    if a.isNamed "doc" then docPieces? inner value
    else if a.isNamed "comment" then commentPieces? value
    else none
  | _ => none

def Attribute.pieces (inner : Bool) (a : Attribute) : List Piece :=
  match a.comment? inner with
  | some comment => comment
  | none =>
    text (if inner then "#!" else "#") ++ text "[" ++ a.path.pieces ++ (match a.args with
      | .none => []
      | .group d body => (Token.group d body).attributePieces
      | .value v => text " = " ++ v.layout) ++ text "]" ++ space

def attributePieces (attrs : List Attribute) : List Piece := attrs.flatMap (Attribute.pieces false)

def innerAttributePieces (attrs : List Attribute) : List Piece :=
  attrs.flatMap (Attribute.pieces true)

end ApiClient.Code
