/-!
UTF-8 text as lists of bytes. `encode` writes a text, `decode?` reads it back and refuses what is
not well formed, and `decodeLossy` puts U+FFFD for each ill-formed piece. Both readers take the
input apart with `split`, one character or one maximal ill-formed piece at a time.
-/

namespace ApiClient

abbrev Bytes := List UInt8

namespace Utf8

def encodeChar (c : Char) : Bytes :=
  let n := c.toNat
  if n < 0x80 then [n.toUInt8]
  else if n < 0x800 then [(0xC0 + n / 0x40).toUInt8, (0x80 + n % 0x40).toUInt8]
  else if n < 0x10000 then
    [(0xE0 + n / 0x1000).toUInt8, (0x80 + n / 0x40 % 0x40).toUInt8, (0x80 + n % 0x40).toUInt8]
  else
    [(0xF0 + n / 0x40000).toUInt8, (0x80 + n / 0x1000 % 0x40).toUInt8,
      (0x80 + n / 0x40 % 0x40).toUInt8, (0x80 + n % 0x40).toUInt8]

def encode (text : List Char) : Bytes := text.flatMap encodeChar

def isContinuation (b : UInt8) : Bool := 0x80 ≤ b && b ≤ 0xBF

/-- The second bytes that may follow a lead byte. They leave out overlong forms, surrogates and
values past U+10FFFF. -/
def secondOk (lead second : UInt8) : Bool :=
  if lead = 0xE0 then 0xA0 ≤ second && second ≤ 0xBF
  else if lead = 0xED then 0x80 ≤ second && second ≤ 0x9F
  else if lead = 0xF0 then 0x90 ≤ second && second ≤ 0xBF
  else if lead = 0xF4 then 0x80 ≤ second && second ≤ 0x8F
  else isContinuation second

/-- How many bytes follow a lead byte, `none` for a byte that leads no character. -/
def followers (lead : UInt8) : Option Nat :=
  if lead < 0x80 then some 0
  else if 0xC2 ≤ lead && lead ≤ 0xDF then some 1
  else if 0xE0 ≤ lead && lead ≤ 0xEF then some 2
  else if 0xF0 ≤ lead && lead ≤ 0xF4 then some 3
  else none

def payload (b : UInt8) : Nat := b.toNat % 0x40

/-- Takes the bytes apart into characters and, as `none`, maximal ill-formed pieces. -/
def split : Bytes → List (Option Char)
  | [] => []
  | lead :: rest =>
    match followers lead with
    | none => none :: split rest
    | some 0 => some (Char.ofNat lead.toNat) :: split rest
    | some 1 =>
      match rest with
      | b :: rest' =>
        if isContinuation b then
          some (Char.ofNat (lead.toNat % 0x20 * 0x40 + payload b)) :: split rest'
        else none :: split (b :: rest')
      | [] => [none]
    | some 2 =>
      match rest with
      | b :: c :: rest' =>
        if secondOk lead b then
          if isContinuation c then
            some (Char.ofNat (lead.toNat % 0x10 * 0x1000 + payload b * 0x40 + payload c))
              :: split rest'
          else none :: split (c :: rest')
        else none :: split (b :: c :: rest')
      | [b] => if secondOk lead b then [none] else none :: split [b]
      | [] => [none]
    | some _ =>
      match rest with
      | b :: c :: d :: rest' =>
        if secondOk lead b then
          if isContinuation c then
            if isContinuation d then
              some (Char.ofNat (lead.toNat % 0x08 * 0x40000 + payload b * 0x1000 + payload c * 0x40
                + payload d)) :: split rest'
            else none :: split (d :: rest')
          else none :: split (c :: d :: rest')
        else none :: split (b :: c :: d :: rest')
      | [b, c] =>
        if secondOk lead b then
          if isContinuation c then [none] else none :: split [c]
        else none :: split [b, c]
      | [b] => if secondOk lead b then [none] else none :: split [b]
      | [] => [none]

def decode? (bytes : Bytes) : Option (List Char) := (split bytes).mapM id

/-- Every ill-formed piece reads as U+FFFD. -/
def decodeLossy (bytes : Bytes) : List Char := (split bytes).map (·.getD '\uFFFD')

end Utf8

def utf8 (s : String) : Bytes := Utf8.encode s.toList

def ofUtf8? (bytes : Bytes) : Option String := (Utf8.decode? bytes).map String.ofList

end ApiClient
