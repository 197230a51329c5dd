import ApiClient.Code.Ident
import ApiClient.Code.Token
import ApiClient.Text.Quoted

/-!
From source text to token trees. Blanks and plain comments separate tokens and are dropped; a
documentation comment is the attribute it stands for. `Token.ofText?` refuses a text with a
character that begins no token, an unfinished literal or comment, or unbalanced delimiters.
-/

namespace ApiClient.Code.Lexer

/-- A delimiter or a whole token. -/
inductive Lexeme
  | opening (d : Delimiter)
  | closing (d : Delimiter)
  | token (t : Token)

/-- The rest of a text after a given beginning. -/
def after? (start : String) (cs : List Char) : Option (List Char) :=
  let s := start.toList
  if s.isPrefixOf cs then some (cs.drop s.length) else none

def startsWith (cs : List Char) (start : String) : Bool := start.toList.isPrefixOf cs

/-! ### Blanks and comments -/

/-- Characters with the property `White_Space`, and the two direction marks. -/
def isBlank (c : Char) : Bool :=
  c = ' ' || (0x09 ≤ c.toNat && c.toNat ≤ 0x0D) || c.toNat = 0x85 || c.toNat = 0xA0
    || c.toNat = 0x1680 || (0x2000 ≤ c.toNat && c.toNat ≤ 0x200A)
    || [0x200E, 0x200F, 0x2028, 0x2029, 0x202F, 0x205F, 0x3000].contains c.toNat

/-- The text up to the end of the line, and what follows from there on. -/
def takeLine : List Char → List Char × List Char
  | [] => ([], [])
  | '\n' :: rest => ([], '\n' :: rest)
  | '\r' :: '\n' :: rest => ([], '\r' :: '\n' :: rest)
  | c :: rest => let (line, rest') := takeLine rest; (c :: line, rest')

/-- The inside of a block comment whose opening was read, `depth` comments inside it being open,
and what follows its end. -/
def takeBlockComment : Nat → List Char → Option (List Char × List Char)
  | 0, '*' :: '/' :: rest => some ([], rest)
  | depth + 1, '*' :: '/' :: rest =>
    (takeBlockComment depth rest).map fun (s, r) => ('*' :: '/' :: s, r)
  | depth, '/' :: '*' :: rest =>
    (takeBlockComment (depth + 1) rest).map fun (s, r) => ('/' :: '*' :: s, r)
  | depth, c :: rest => (takeBlockComment depth rest).map fun (s, r) => (c :: s, r)
  | _, [] => none

/-- Skips blanks and the comments that document nothing. -/
def skipBlanks : Nat → List Char → List Char
  | 0, cs => cs
  | _ + 1, [] => []
  | fuel + 1, c :: rest =>
    let cs := c :: rest
    if startsWith cs "//" && (!startsWith cs "///" || startsWith cs "////")
        && !startsWith cs "//!" then
      skipBlanks fuel (takeLine cs).2
    else if startsWith cs "/**/" then skipBlanks fuel (cs.drop 4)
    else if startsWith cs "/*" && (!startsWith cs "/**" || startsWith cs "/***")
        && !startsWith cs "/*!" then
      match takeBlockComment 0 (cs.drop 2) with
      | some (_, rest) => skipBlanks fuel rest
      | none => cs
    else if isBlank c then skipBlanks fuel rest
    else cs

/-- A carriage return stands only before a line feed. -/
def noBareReturn : List Char → Bool
  | '\r' :: '\n' :: rest => noBareReturn rest
  | c :: rest => c != '\r' && noBareReturn rest
  | [] => true

/-- The text of a documentation comment, whether it documents what encloses it, and the rest. -/
def docComment? (cs : List Char) : Option (List Char × Bool × List Char) :=
  if startsWith cs "//!" then
    let (line, rest) := takeLine (cs.drop 3)
    some (line, true, rest)
  else if startsWith cs "/*!" then
    (takeBlockComment 0 (cs.drop 2)).map fun (s, rest) => (s.drop 1, true, rest)
  else if startsWith cs "///" then
    if startsWith cs "////" then none
    else
      let (line, rest) := takeLine (cs.drop 3)
      some (line, false, rest)
  else if startsWith cs "/**" && !startsWith cs "/***" then
    (takeBlockComment 0 (cs.drop 2)).map fun (s, rest) => (s.drop 1, false, rest)
  else none

/-- `#[doc = "…"]`, or `#![doc = "…"]` for a comment on what encloses it. -/
def docTokens (text : List Char) (inner : Bool) : List Token :=
  [.punct '#' false] ++ (if inner then [.punct '!' false] else []) ++
    [.group .bracket [.ident "doc", .punct '=' false,
      .literal ⟨.string, Quoted.literal (String.ofList text)⟩]]

/-! ### Words and literals -/

/-- A word and the rest. -/
def word? : List Char → Option (List Char × List Char)
  | [] => none
  | c :: rest =>
    if isWordStart c then
      some (c :: rest.takeWhile IdentifierChars.isContinue,
        rest.dropWhile IdentifierChars.isContinue)
    else none

/-- A word, possibly raw, and the rest. -/
def anyIdent? (cs : List Char) : Option (String × List Char) :=
  match after? "r#" cs with
  | some cs => do
    let (w, rest) ← word? cs
    let name := String.ofList w
    if notRaw.contains name then none else some ("r#" ++ name, rest)
  | none => (word? cs).map fun (w, rest) => (String.ofList w, rest)

/-- An identifier; the beginnings of raw and byte literals are none. -/
def ident? (cs : List Char) : Option (String × List Char) :=
  if ["r\"", "r#\"", "r##", "b\"", "b'", "br\"", "br#", "c\"", "cr\"", "cr#"].any (startsWith cs)
  then none else anyIdent? cs

/-- Drops the word that may follow a literal. -/
def skipSuffix (cs : List Char) : List Char :=
  match word? cs with
  | some (_, rest) => rest
  | none => cs

/-- Looks for `"` and `hashes` times `#`, refusing a bare carriage return and what `ok` refuses. -/
def rawBody (ok : Char → Bool) (hashes : Nat) : List Char → Option (List Char)
  | [] => none
  | '\r' :: '\n' :: rest => rawBody ok hashes rest
  | c :: rest =>
    if c = '"' ∧ (List.replicate hashes '#').isPrefixOf rest then some (rest.drop hashes)
    else if c = '\r' then none
    else if ok c then rawBody ok hashes rest else none

/-- The rest of a raw literal after its `r`. -/
def raw? (ok : Char → Bool) (cs : List Char) : Option (List Char) :=
  let hashes := (cs.takeWhile (· == '#')).length
  match cs.drop hashes with
  | '"' :: rest => if hashes ≤ 255 then rawBody ok hashes rest else none
  | _ => none

/-- The rest after one quoted character and its closing quote. -/
def single? (flavour : Quoted.Flavour) (cs : List Char) : Option (List Char) := do
  let rest ← match cs with
    | '\\' :: rest => (Quoted.readEscape flavour rest).map (·.2)
    | _ :: rest => some rest
    | [] => none
  after? "'" rest

/-- The rest of a literal that is quoted in some way. -/
def quoted? (cs : List Char) : Option (LiteralKind × List Char) :=
  let cooked (flavour : Quoted.Flavour) (cs : List Char) := (Quoted.read flavour cs).map (·.2)
  if startsWith cs "\"" then (cooked .text (cs.drop 1)).map (.string, ·)
  else if startsWith cs "r\"" || startsWith cs "r#" then
    (raw? (fun _ => true) (cs.drop 1)).map (.string, ·)
  else if startsWith cs "b\"" then (cooked .bytes (cs.drop 2)).map (.byteString, ·)
  else if startsWith cs "br" then (raw? (·.toNat < 0x80) (cs.drop 2)).map (.byteString, ·)
  else if startsWith cs "c\"" then (cooked .nonzero (cs.drop 2)).map (.cString, ·)
  else if startsWith cs "cr" then (raw? (· != '\x00') (cs.drop 2)).map (.cString, ·)
  else if startsWith cs "b'" then
    match cs.drop 2 with
    | c :: _ => if c.toNat < 0x80 then (single? .bytes (cs.drop 2)).map (.byte, ·) else none
    | [] => none
  else if startsWith cs "'" then (single? .text (cs.drop 1)).map (.character, ·)
  else none

/-- A number ends where no word goes on. -/
def endOfWord? (cs : List Char) : Option (List Char) :=
  match cs with
  | c :: _ => if IdentifierChars.isContinue c then none else some cs
  | [] => some cs

def isDigitOrGap (c : Char) : Bool := c.isDigit || c == '_'

/-- Reads an exponent after its `e`: an optional sign before the first digit, digits and gaps. -/
def exponent? (cs : List Char) : Option (List Char) :=
  let gaps := cs.dropWhile (· == '_')
  let afterSign := match gaps with
    | '+' :: rest | '-' :: rest => rest
    | _ => gaps
  let digits := afterSign.takeWhile isDigitOrGap
  if digits.any (·.isDigit) then some (afterSign.drop digits.length) else none

/-- The rest after the digits of a float. -/
def floatDigits? (cs : List Char) : Option (List Char) :=
  let whole := cs.takeWhile isDigitOrGap
  let rest := cs.drop whole.length
  match rest with
  | '.' :: rest =>
    if rest.head?.any (fun c => c == '.' || isWordStart c) then none
    else
      let rest := rest.dropWhile isDigitOrGap
      match rest with
      | e :: more =>
        if e = 'e' ∨ e = 'E' then (exponent? more).orElse fun _ => some rest else some rest
      | [] => some rest
  | e :: more => if e = 'e' ∨ e = 'E' then exponent? more else none
  | [] => none

/-- The rest after the digits of an integer in any base. -/
def intDigits? (cs : List Char) : Option (List Char) :=
  let (base, cs) :=
    if startsWith cs "0x" then (16, cs.drop 2)
    else if startsWith cs "0o" then (8, cs.drop 2)
    else if startsWith cs "0b" then (2, cs.drop 2)
    else (10, cs)
  let inBase (c : Char) := c == '_' || ((Quoted.hexValue? c).any (· < base))
  let digits := cs.takeWhile inBase
  let rest := cs.drop digits.length
  if digits.all (· == '_') then none
  else if base = 10 && digits.head? == some '_' then none
  else if rest.head?.any (·.isDigit) then none
  else some rest

/-- The rest of a number: its digits, an optional suffix, and no word after that. -/
def number? (digits? : List Char → Option (List Char)) (cs : List Char) : Option (List Char) := do
  if cs.head?.any (·.isDigit) then
    let rest ← digits? cs
    endOfWord? (skipSuffix rest)
  else none

/-- A literal and the rest. -/
def literal? (cs : List Char) : Option (Literal × List Char) :=
  let spelled (kind : LiteralKind) (rest : List Char) : Literal × List Char :=
    (⟨kind, String.ofList (cs.take (cs.length - rest.length))⟩, rest)
  match quoted? cs with
  | some (kind, rest) => some (spelled kind (skipSuffix rest))
  | none =>
    match number? floatDigits? cs with
    | some rest => some (spelled .float rest)
    | none => (number? intDigits? cs).map (spelled .integer)

/-! ### Punctuation and whole texts -/

/-- A punctuation character that is not the beginning of a comment. -/
def punctChar? : List Char → Option (Char × List Char)
  | [] => none
  | c :: rest =>
    if startsWith (c :: rest) "//" || startsWith (c :: rest) "/*" then none
    else if "~!@#$%^&*-=+|;:,<.>/?'".toList.contains c then some (c, rest) else none

/-- A punctuation token; a quote is one only before a word, raw or not, that neither a quote nor a
hash follows. -/
def punct? (cs : List Char) : Option (Token × List Char) := do
  let (c, rest) ← punctChar? cs
  if c = '\'' then
    let (_, after) ← anyIdent? rest
    if startsWith after "'" || (startsWith after "#" && !startsWith rest "r#") then none
    else some (.punct c true, rest)
  else some (.punct c (punctChar? rest).isSome, rest)

/-- A token that is no group, and the rest. -/
def leaf? (cs : List Char) : Option (Token × List Char) :=
  match literal? cs with
  | some (l, rest) => some (.literal l, rest)
  | none =>
    match punct? cs with
    | some r => some r
    | none => (ident? cs).map fun (name, rest) => (.ident name, rest)

def opening? : Char → Option Delimiter
  | '(' => some .paren
  | '[' => some .bracket
  | '\x7b' => some .brace
  | _ => none

def closing? : Char → Option Delimiter
  | ')' => some .paren
  | ']' => some .bracket
  | '\x7d' => some .brace
  | _ => none

/-- The spelling of a literal that is none, which begins like a group. -/
def unknownLiteral : String := "(/*ERROR*/)"

/-- The lexemes of a text, reading at most `fuel` of them. -/
def lexemes : Nat → List Char → Option (List Lexeme)
  | 0, _ => none
  | fuel + 1, cs =>
    match skipBlanks cs.length cs with
    | [] => some []
    | c :: rest =>
      match docComment? (c :: rest) with
      | some (text, inner, rest) =>
        if noBareReturn text then
          (lexemes fuel rest).map ((docTokens text inner).map .token ++ ·)
        else none
      | none =>
        match after? unknownLiteral (c :: rest), opening? c, closing? c with
        | some rest, _, _ =>
          (lexemes fuel rest).map (.token (.literal ⟨.unknown, unknownLiteral⟩) :: ·)
        | none, some d, _ => (lexemes fuel rest).map (.opening d :: ·)
        | none, none, some d => (lexemes fuel rest).map (.closing d :: ·)
        | none, none, none => do
          let (t, rest) ← leaf? (c :: rest)
          (lexemes fuel rest).map (.token t :: ·)

/-- Builds trees from lexemes. `outer` holds the groups that are open, innermost first, with the
tokens before each; tokens are kept last first. -/
def assemble : List (Delimiter × List Token) → List Token → List Lexeme → Option (List Token)
  | [], done, [] => some done.reverse
  | _ :: _, _, [] => none
  | outer, done, .token t :: rest => assemble outer (t :: done) rest
  | outer, done, .opening d :: rest => assemble ((d, done) :: outer) [] rest
  | (d, before) :: outer, done, .closing d' :: rest =>
    if d = d' then assemble outer (.group d done.reverse :: before) rest else none
  | [], _, .closing _ :: _ => none

end Lexer

/-- The token trees of a source text, `none` when it is not made of tokens. -/
def Token.ofText? (source : String) : Option (List Token) := do
  let cs := source.toList
  let cs := if cs.head? = some '\uFEFF' then cs.drop 1 else cs
  let lexemes ← Lexer.lexemes (cs.length + 1) cs
  Lexer.assemble [] [] lexemes

end ApiClient.Code
