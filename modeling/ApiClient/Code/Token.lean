/-!
Token trees: what source text is made of once blanks and comments are gone. `Token.text` writes
a list of tokens with one space between neighbours, except after a punctuation character that is
marked as joined to the next one.
-/

namespace ApiClient.Code

inductive Delimiter
  | paren
  | bracket
  | brace
  deriving DecidableEq, Repr

inductive LiteralKind
  | string
  | byteString
  | cString
  | byte
  | character
  | integer
  | float
  /-- What stands for a literal that could not be spelled. -/
  | unknown
  deriving DecidableEq, Repr

structure Literal where
  kind : LiteralKind
  text : String
  deriving DecidableEq, Repr

inductive Token
  | ident (name : String)
  /-- A punctuation character; `joint` when the next token belongs to the same operator. -/
  | punct (c : Char) (joint : Bool)
  | literal (l : Literal)
  | group (d : Delimiter) (body : List Token)
  deriving Repr, BEq

namespace Token

/-- The tokens of an operator: every character but the last is joined to the next. -/
def operator (s : String) : List Token := go s.toList
where
  go : List Char → List Token
    | [] => []
    | [c] => [.punct c false]
    | c :: rest => .punct c true :: go rest

/-- A lifetime is a joined quote before an identifier. -/
def lifetime (name : String) : List Token := [.punct '\'' true, .ident name]

def isJoint : Token → Bool
  | .punct _ joint => joint
  | _ => false

mutual

def text : Token → String
  | .ident name => name
  | .punct c _ => c.toString
  | .literal l => l.text
  | .group .paren body => "(" ++ textAll body ++ ")"
  | .group .bracket body => "[" ++ textAll body ++ "]"
  | .group .brace body =>
    if body.isEmpty then "\x7b \x7d" else "\x7b " ++ textAll body ++ " \x7d"

def textAll : List Token → String
  | [] => ""
  | [t] => t.text
  | t :: rest => (if t.isJoint then t.text else t.text ++ " ") ++ textAll rest

end

mutual

def count : Token → Nat
  | .group _ body => countAll body + 1
  | _ => 1

def countAll : List Token → Nat
  | [] => 0
  | t :: rest => t.count + countAll rest

end

end Token

end ApiClient.Code
