import ApiClient.Text.Printable

/-!
Text between double quotes. `escape` writes the text so that quotes, backslashes, line ends and
characters without a glyph are spelled out; `read` reads up to the closing quote and gives the text
back.
-/

namespace ApiClient.Quoted

def escapeCodePoint (c : Char) : List Char :=
  ['\\', 'u', '\x7b'] ++ Nat.toDigits 16 c.toNat ++ ['\x7d']

def escapeChar (c : Char) : List Char :=
  if c = '\t' then ['\\', 't']
  else if c = '\r' then ['\\', 'r']
  else if c = '\n' then ['\\', 'n']
  else if c = '\\' then ['\\', '\\']
  else if c = '"' then ['\\', '"']
  else if Printable.isPrintable c then [c]
  else escapeCodePoint c

def startsOctal : List Char → Bool
  | c :: _ => '0' ≤ c && c ≤ '7'
  | [] => false

/-- The body of a string literal that stands for the text. U+0000 is `\0`, or `\x00` where a
digit follows that could be read as part of it. -/
def escape : List Char → List Char
  | [] => []
  | c :: rest =>
    (if c = '\x00' then
      if startsOctal rest then ['\\', 'x', '0', '0'] else ['\\', '0']
    else escapeChar c) ++ escape rest

def literal (s : String) : String :=
  String.ofList ('"' :: escape s.toList ++ ['"'])

/-- A text quoted inside a message, where U+0000 is always `\0`. -/
def shown (s : String) : String :=
  String.ofList ('"' :: s.toList.flatMap (fun c => if c = '\x00' then ['\\', '0'] else escapeChar c)
    ++ ['"'])

/-! ### Reading -/

inductive Flavour
  /-- Text: `\u` and `\x` up to 7F. -/
  | text
  /-- ASCII bytes: every `\x`, no `\u`. -/
  | bytes
  /-- Text without U+0000: every `\x` but 00. -/
  | nonzero
  deriving DecidableEq

def hexValue? (c : Char) : Option Nat :=
  if '0' ≤ c ∧ c ≤ '9' then some (c.toNat - '0'.toNat)
  else if 'a' ≤ c ∧ c ≤ 'f' then some (c.toNat - 'a'.toNat + 10)
  else if 'A' ≤ c ∧ c ≤ 'F' then some (c.toNat - 'A'.toNat + 10)
  else none

def charOfNat? (n : Nat) : Option Char :=
  if n.isValidChar then some (Char.ofNat n) else none

/-- The digits of `\u{…}`: one to six, with `_` anywhere after the first. -/
def readCodePoint : Nat → Nat → List Char → Option (Char × List Char)
  | _, _, [] => none
  | value, count, c :: rest =>
    match hexValue? c with
    | some d => if count = 6 then none else readCodePoint (value * 16 + d) (count + 1) rest
    | none =>
      if count = 0 then none
      else if c = '_' then readCodePoint value count rest
      else if c = '\x7d' then (charOfNat? value).map (·, rest)
      else none

/-- Skips the blanks after a backslash at a line end; a carriage return must be followed by a
line feed. -/
def skipContinuation : List Char → Option (List Char)
  | [] => none
  | '\r' :: '\n' :: rest => skipContinuation rest
  | c :: rest =>
    if c = '\r' then none
    else if c = ' ' ∨ c = '\t' ∨ c = '\n' then skipContinuation rest
    else some (c :: rest)

/-- Reads what follows a backslash: the characters that the escape stands for and the rest. -/
def readEscape (flavour : Flavour) : List Char → Option (List Char × List Char)
  | 'x' :: a :: b :: rest => do
    let value := (← hexValue? a) * 16 + (← hexValue? b)
    match flavour with
    | .text => if value < 0x80 then some ([Char.ofNat value], rest) else none
    | .bytes => some ([Char.ofNat value], rest)
    | .nonzero => if value = 0 then none else some ([Char.ofNat value], rest)
  | 'n' :: rest => some (['\n'], rest)
  | 'r' :: rest => some (['\r'], rest)
  | 't' :: rest => some (['\t'], rest)
  | '\\' :: rest => some (['\\'], rest)
  | '\'' :: rest => some (['\''], rest)
  | '"' :: rest => some (['"'], rest)
  | '0' :: rest => if flavour = .nonzero then none else some (['\x00'], rest)
  | 'u' :: '\x7b' :: rest =>
    if flavour = .bytes then none
    else do
      let (c, rest) ← readCodePoint 0 0 rest
      if flavour = .nonzero ∧ c = '\x00' then none else some ([c], rest)
  | _ => none

/-- Reads a quoted text up to its closing quote, at most `fuel` characters and escapes long. -/
def readBody (flavour : Flavour) : Nat → List Char → Option (List Char × List Char)
  | 0, _ => none
  | _ + 1, [] => none
  | fuel + 1, c :: rest =>
    if c = '"' then some ([], rest)
    else if c = '\r' then
      match rest with
      | '\n' :: rest => (readBody flavour fuel rest).map fun (s, r) => ('\n' :: s, r)
      | _ => none
    else if c = '\\' then
      match rest with
      | '\n' :: _ | '\r' :: _ => skipContinuation rest >>= readBody flavour fuel
      | _ => do
        let (value, rest) ← readEscape flavour rest
        let (s, r) ← readBody flavour fuel rest
        some (value ++ s, r)
    else if flavour = .bytes ∧ 0x80 ≤ c.toNat then none
    else if flavour = .nonzero ∧ c = '\x00' then none
    else (readBody flavour fuel rest).map fun (s, r) => (c :: s, r)

/-- Reads what follows an opening quote: the text and what comes after the closing quote. -/
def read (flavour : Flavour) (cs : List Char) : Option (List Char × List Char) :=
  readBody flavour (cs.length + 1) cs

end ApiClient.Quoted
