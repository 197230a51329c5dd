import ApiClient.Json.Basic
import ApiClient.Text.Utf8

/-!
JSON text to values. An error says what was wrong and where: the line and column of the byte that
was read last or, for a byte that was only looked at, of that byte.
-/

namespace ApiClient.Json.Parser

inductive Cause
  | endInList
  | endInObject
  | endInString
  | endInValue
  | expectedColon
  | expectedListEnd
  | expectedObjectEnd
  | expectedWord
  | expectedValue
  | invalidEscape
  | invalidNumber
  | numberOutOfRange
  | invalidCodePoint
  | controlCharacter
  | keyNotString
  | loneSurrogate
  | trailingComma
  | trailingCharacters
  | endOfHexEscape
  | tooDeep
  deriving DecidableEq, Repr

def Cause.message : Cause → String
  | .endInList => "EOF while parsing a list"
  | .endInObject => "EOF while parsing an object"
  | .endInString => "EOF while parsing a string"
  | .endInValue => "EOF while parsing a value"
  | .expectedColon => "expected `:`"
  | .expectedListEnd => "expected `,` or `]`"
  | .expectedObjectEnd => "expected `,` or `\x7d`"
  | .expectedWord => "expected ident"
  | .expectedValue => "expected value"
  | .invalidEscape => "invalid escape"
  | .invalidNumber => "invalid number"
  | .numberOutOfRange => "number out of range"
  | .invalidCodePoint => "invalid unicode code point"
  | .controlCharacter => "control character (\\u0000-\\u001F) found while parsing a string"
  | .keyNotString => "key must be a string"
  | .loneSurrogate => "lone leading surrogate in hex escape"
  | .trailingComma => "trailing comma"
  | .trailingCharacters => "trailing characters"
  | .endOfHexEscape => "unexpected end of hex escape"
  | .tooDeep => "recursion limit exceeded"

/-- A fault with the number of bytes that were not read yet. -/
structure Fault where
  cause : Cause
  left : Nat
  deriving DecidableEq, Repr

/-- Takes a value from the front of the bytes. -/
abbrev Reader (α : Type) := Bytes → Except Fault (α × Bytes)

/-- A fault behind what was read. -/
def failAt {α : Type} (cause : Cause) (rest : Bytes) : Except Fault α :=
  .error ⟨cause, rest.length⟩

/-- A fault at the next byte, which was only looked at. -/
def failAhead {α : Type} (cause : Cause) (rest : Bytes) : Except Fault α :=
  .error ⟨cause, rest.length - 1⟩

def isBlank (b : UInt8) : Bool := b = 0x20 || b = 0x0A || b = 0x09 || b = 0x0D

def skipBlanks (bytes : Bytes) : Bytes := bytes.dropWhile isBlank

def isDigit (b : UInt8) : Bool := 0x30 ≤ b && b ≤ 0x39

def digit (b : UInt8) : Nat := b.toNat - 0x30

/-! ### Numbers -/

def maxSignificand : Nat := Nat.pow 2 64 - 1

/-- `significand · 10 ^ exponent` in double arithmetic: one rounding for the significand and one
for each scaling. `none` is past the largest double. -/
def scale : Nat → Float → Int → Option Float
  | 0, f, _ => some f
  | fuel + 1, f, exponent =>
    if exponent.natAbs ≤ 308 then
      let power := Float.ofScientific 1 false exponent.natAbs
      if 0 ≤ exponent then
        let r := f * power
        if r.isInf then none else some r
      else some (f / power)
    else if f == 0.0 then some f
    else if 0 ≤ exponent then none
    else scale fuel (f / 1e308) (exponent + 308)

def floatOf (positive : Bool) (significand : Nat) (exponent : Int) (rest : Bytes) :
    Except Fault (Number × Bytes) :=
  match scale 8 (Float.ofNat significand) exponent with
  | some f => .ok (.float (if positive then f else -f), rest)
  | none => failAt .numberOutOfRange rest

/-- Digits as far as the significand holds them: the new significand, how many were taken, and
the rest. -/
def takeDigits (significand : Nat) : Bytes → Nat × Nat × Bytes
  | [] => (significand, 0, [])
  | b :: rest =>
    if isDigit b && significand * 10 + digit b ≤ maxSignificand then
      let (s, n, rest) := takeDigits (significand * 10 + digit b) rest
      (s, n + 1, rest)
    else (significand, 0, b :: rest)

/-- The digits of an exponent, up to the largest one that counts. -/
def takeExponent (e : Nat) : Bytes → Option Nat × Bytes
  | [] => (some e, [])
  | b :: rest =>
    if isDigit b then
      if e * 10 + digit b ≤ Nat.pow 2 31 - 1 then takeExponent (e * 10 + digit b) rest
      else (none, rest)
    else (some e, b :: rest)

def exponentPart (positive : Bool) (significand : Nat) (start : Int) (bytes : Bytes) :
    Except Fault (Number × Bytes) :=
  let (up, bytes) := match bytes with
    | 0x2B :: rest => (true, rest)
    | 0x2D :: rest => (false, rest)
    | _ => (true, bytes)
  match bytes with
  | [] => failAt .endInValue []
  | b :: rest =>
    if isDigit b then
      match takeExponent (digit b) rest with
      | (some e, rest) =>
        floatOf positive significand (if up then start + e else start - e) rest
      | (none, rest) =>
        if significand ≠ 0 && up then failAt .numberOutOfRange rest
        else .ok (.float (if positive then 0.0 else -0.0), rest.dropWhile isDigit)
    else failAt .invalidNumber rest

def startsExponent : Bytes → Bool
  | b :: _ => b = 0x65 || b = 0x45
  | [] => false

def fractionPart (positive : Bool) (significand : Nat) (exponent : Int) (bytes : Bytes) :
    Except Fault (Number × Bytes) :=
  let (s, n, rest) := takeDigits significand bytes
  let full := rest.head?.any isDigit
  if n = 0 && !full then
    if rest.isEmpty then failAhead .endInValue rest else failAhead .invalidNumber rest
  else
    let rest := rest.dropWhile isDigit
    if startsExponent rest then exponentPart positive s (exponent - n) (rest.drop 1)
    else floatOf positive s (exponent - n) rest

/-- What follows the digits of the whole part. `dropped` digits did not fit the significand. -/
def afterWhole (positive : Bool) (significand dropped : Nat) (bytes : Bytes) :
    Except Fault (Number × Bytes) :=
  match bytes with
  | 0x2E :: rest => fractionPart positive significand dropped rest
  | _ =>
    if startsExponent bytes then exponentPart positive significand dropped (bytes.drop 1)
    else if dropped ≠ 0 then floatOf positive significand dropped bytes
    else if positive then .ok (.int significand, bytes)
    else if significand = 0 || Nat.pow 2 63 < significand then
      .ok (.float (-(Float.ofNat significand)), bytes)
    else .ok (.int (-significand), bytes)

def number (positive : Bool) : Reader Number
  | [] => failAt .endInValue []
  | b :: rest =>
    if b = 0x30 then
      if rest.head?.any isDigit then failAhead .invalidNumber rest
      else afterWhole positive 0 0 rest
    else if isDigit b then
      let (s, _, rest) := takeDigits (digit b) rest
      let dropped := rest.takeWhile isDigit
      afterWhole positive s dropped.length (rest.drop dropped.length)
    else failAt .invalidNumber rest

/-! ### Strings -/

def hexDigit? (b : UInt8) : Option Nat :=
  if isDigit b then some (digit b)
  else if 0x61 ≤ b && b ≤ 0x66 then some (b.toNat - 0x61 + 10)
  else if 0x41 ≤ b && b ≤ 0x46 then some (b.toNat - 0x41 + 10)
  else none

def hexEscape : Reader Nat
  | a :: b :: c :: d :: rest =>
    match hexDigit? a, hexDigit? b, hexDigit? c, hexDigit? d with
    | some a, some b, some c, some d => .ok (((a * 16 + b) * 16 + c) * 16 + d, rest)
    | _, _, _, _ => failAt .invalidEscape rest
  | _ => failAt .endInString []

/-- Takes one given byte of the escape for the second half of a surrogate pair. -/
def pairByte (expected : UInt8) (bytes : Bytes) : Except Fault Bytes :=
  match bytes with
  | [] => failAt .endInString []
  | b :: rest => if b = expected then .ok rest else failAt .endOfHexEscape rest

/-- The character behind `\u`, which may take a second escape for its low surrogate. -/
def codePoint : Reader Char := fun bytes => do
  let (n, rest) ← hexEscape bytes
  if 0xDC00 ≤ n && n ≤ 0xDFFF then failAt .loneSurrogate rest
  else if n < 0xD800 || 0xDBFF < n then .ok (Char.ofNat n, rest)
  else
    let rest ← pairByte 0x5C rest
    let rest ← pairByte 0x75 rest
    let (low, rest) ← hexEscape rest
    if low < 0xDC00 || 0xDFFF < low then failAt .loneSurrogate rest
    else .ok (Char.ofNat ((n - 0xD800) * 0x400 + (low - 0xDC00) + 0x10000), rest)

def escape : Reader Bytes
  | [] => failAt .endInString []
  | b :: rest =>
    match b.toNat with
    | 0x22 => .ok ([0x22], rest)
    | 0x5C => .ok ([0x5C], rest)
    | 0x2F => .ok ([0x2F], rest)
    | 0x62 => .ok ([0x08], rest)
    | 0x66 => .ok ([0x0C], rest)
    | 0x6E => .ok ([0x0A], rest)
    | 0x72 => .ok ([0x0D], rest)
    | 0x74 => .ok ([0x09], rest)
    | 0x75 => do
      let (c, rest) ← codePoint rest
      .ok (Utf8.encodeChar c, rest)
    | _ => failAt .invalidEscape rest

def stringBytes : Nat → Reader Bytes
  | 0, bytes => failAt .endInString bytes
  | _ + 1, [] => failAt .endInString []
  | fuel + 1, b :: rest =>
    if b = 0x22 then .ok ([], rest)
    else if b = 0x5C then do
      let (value, rest) ← escape rest
      let (more, rest) ← stringBytes fuel rest
      .ok (value ++ more, rest)
    else if b < 0x20 then failAt .controlCharacter rest
    else do
      let (more, rest) ← stringBytes fuel rest
      .ok (b :: more, rest)

def stringBody : Reader String := fun bytes => do
  let (content, rest) ← stringBytes (bytes.length + 1) bytes
  match ofUtf8? content with
  | some s => .ok (s, rest)
  | none => .error ⟨.invalidCodePoint, rest.length + 1⟩

/-! ### Values -/

def wordTail (v : Json) : Bytes → Reader Json
  | [], bytes => .ok (v, bytes)
  | _ :: _, [] => failAt .endInValue []
  | w :: ws, b :: rest => if w = b then wordTail v ws rest else failAt .expectedWord rest

def elements (item : Reader Json) : Nat → (first : Bool) → Reader (List Json)
  | 0, _, bytes => failAt .endInList bytes
  | fuel + 1, first, bytes =>
    let next (bytes : Bytes) := do
      let (v, rest) ← item bytes
      let (vs, rest) ← elements item fuel false rest
      .ok (v :: vs, rest)
    match skipBlanks bytes with
    | [] => failAhead .endInList []
    | b :: rest =>
      if b = 0x5D then .ok ([], rest)
      else if first then next (b :: rest)
      else if b = 0x2C then
        match skipBlanks rest with
        | [] => failAhead .endInValue []
        | c :: rest => if c = 0x5D then failAhead .trailingComma (c :: rest) else next (c :: rest)
      else failAhead .expectedListEnd (b :: rest)

/-- A name, its colon and its value; the name's opening quote was read. -/
def fieldBody (item : Reader Json) : Reader (String × Json) := fun bytes => do
  let (name, rest) ← stringBody bytes
  match skipBlanks rest with
  | [] => failAhead .endInObject []
  | b :: rest =>
    if b = 0x3A then
      let (v, rest) ← item rest
      .ok ((name, v), rest)
    else failAhead .expectedColon (b :: rest)

/-- The fields of an object and its closing brace; `first` before any was read. -/
def members (item : Reader Json) : Nat → (first : Bool) → Reader (List (String × Json))
  | 0, _, bytes => failAt .endInObject bytes
  | fuel + 1, first, bytes =>
    let next (bytes : Bytes) := do
      let (field, rest) ← fieldBody item bytes
      let (fields, rest) ← members item fuel false rest
      .ok (field :: fields, rest)
    match skipBlanks bytes with
    | [] => failAhead .endInObject []
    | b :: rest =>
      if b = 0x7D then .ok ([], rest)
      else if first then
        if b = 0x22 then next rest else failAhead .keyNotString (b :: rest)
      else if b = 0x2C then
        match skipBlanks rest with
        | [] => failAhead .endInValue []
        | c :: rest =>
          if c = 0x22 then next rest
          else if c = 0x7D then failAhead .trailingComma (c :: rest)
          else failAhead .keyNotString (c :: rest)
      else failAhead .expectedObjectEnd (b :: rest)

def value : Nat → Reader Json
  | 0, bytes => failAhead .tooDeep bytes
  | depth + 1, bytes =>
    match skipBlanks bytes with
    | [] => failAhead .endInValue []
    | b :: rest =>
      match b.toNat with
      | 0x6E => wordTail .null (utf8 "ull") rest
      | 0x74 => wordTail (.bool true) (utf8 "rue") rest
      | 0x66 => wordTail (.bool false) (utf8 "alse") rest
      | 0x2D => do
        let (n, rest) ← number false rest
        .ok (.number n, rest)
      | 0x22 => do
        let (s, rest) ← stringBody rest
        .ok (.string s, rest)
      | 0x5B =>
        if depth = 0 then failAhead .tooDeep (b :: rest)
        else do
          let (vs, rest) ← elements (value depth) (rest.length + 1) true rest
          .ok (.array vs, rest)
      | 0x7B =>
        if depth = 0 then failAhead .tooDeep (b :: rest)
        else do
          let (fields, rest) ← members (value depth) (rest.length + 1) true rest
          .ok (.object (Entries.ofList fields), rest)
      | _ =>
        if isDigit b then do
          let (n, rest) ← number true (b :: rest)
          .ok (.number n, rest)
        else failAhead .expectedValue (b :: rest)

/-- How deep lists and objects may nest, one more. -/
def depthLimit : Nat := 128

def whole : Bytes → Except Fault Json := fun bytes => do
  let (v, rest) ← value depthLimit bytes
  match skipBlanks rest with
  | [] => .ok v
  | b :: rest => failAhead .trailingCharacters (b :: rest)

structure ParseError where
  cause : Cause
  line : Nat
  column : Nat
  deriving DecidableEq, Repr

def ParseError.message (e : ParseError) : String :=
  s!"{e.cause.message} at line {e.line} column {e.column}"

/-- Lines count from one, columns from the line's beginning. -/
def ParseError.ofFault (bytes : Bytes) (f : Fault) : ParseError :=
  let before := bytes.take (bytes.length - f.left)
  let column := (before.reverse.takeWhile (· != 0x0A)).length
  ⟨f.cause, before.count 0x0A + 1, column⟩

end Parser

def parse (bytes : Bytes) : Except Parser.ParseError Json :=
  match Parser.whole bytes with
  | .ok v => .ok v
  | .error f => .error (.ofFault bytes f)

def ofText (s : String) : Except Parser.ParseError Json := parse (utf8 s)

end ApiClient.Json
