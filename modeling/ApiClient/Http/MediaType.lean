/-!
Media types: `type/subtype`, a suffix behind the last plus sign of the subtype, and parameters.
Names are told apart without regard to case.
-/

namespace ApiClient

/-- A media type without its parameters, names in lower case. -/
structure MediaType where
  type : String
  subtype : String
  suffix : Option String
  deriving DecidableEq, Repr

namespace MediaType

/-- Characters of names and of values without quotes. -/
def isNameChar (c : Char) : Bool := c.isAlphanum || "!#$&-^_.+%*'".toList.contains c

/-- A name begins with a letter, a digit or an asterisk. -/
def isName (name : List Char) : Bool :=
  name.head?.any (fun c => c.isAlphanum || c = '*') && name.all isNameChar

def isBlank (c : Char) : Bool := c = ' ' || c = '\t'

/-- What follows the closing quote of a value. -/
def skipQuoted : List Char → Option (List Char)
  | [] => none
  | '"' :: rest => some rest
  | '\\' :: _ :: rest => skipQuoted rest
  | _ :: rest => skipQuoted rest

def skipValue : List Char → Option (List Char)
  | '"' :: rest => skipQuoted rest
  | text =>
    let value := text.takeWhile fun c => !isBlank c && c != ';'
    if value.all isNameChar then some (text.drop value.length) else none

def skipParameter (text : List Char) : Option (List Char) :=
  let name := text.takeWhile (· ≠ '=')
  match text.dropWhile (· ≠ '=') with
  | [] => none
  | _ :: value => if isName name then skipValue value else none

/-- Whether a text is a list of parameters, each behind a semicolon, with blanks around it. -/
def areParameters : Nat → List Char → Bool
  | 0, _ => false
  | fuel + 1, text =>
    match text.dropWhile isBlank with
    | [] => true
    | c :: rest =>
      if c = ';' then
        match skipParameter (rest.dropWhile isBlank) with
        | some rest => areParameters fuel rest
        | none => false
      else false

/-- The parts of a subtype around its last plus sign. -/
def splitSuffix (text : List Char) : List Char × Option (List Char) :=
  if text.contains '+' then
    let suffix := (text.reverse.takeWhile (· ≠ '+')).reverse
    (text.take (text.length - suffix.length - 1), some suffix)
  else (text, none)

def lower (text : List Char) : String := String.ofList (text.map Char.toLower)

def parse? (s : String) : Option MediaType :=
  let type := s.toList.takeWhile (· ≠ '/')
  match s.toList.dropWhile (· ≠ '/') with
  | [] => none
  | _ :: rest =>
    let (subtype, suffix) := splitSuffix (rest.takeWhile isNameChar)
    let parameters := rest.dropWhile isNameChar
    if isName type && isName subtype && suffix.all isName
        && areParameters (parameters.length + 1) parameters then
      some ⟨lower type, lower subtype, suffix.map lower⟩
    else none

end MediaType

end ApiClient
