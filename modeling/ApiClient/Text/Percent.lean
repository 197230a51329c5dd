import ApiClient.Text.Utf8

/-!
Percent encoding. `encode` writes the UTF-8 bytes of a text and keeps only unreserved characters;
`decode?` reads back. The form variants write a blank as a plus sign.
-/

namespace ApiClient.Percent

def isUnreserved (b : UInt8) : Bool :=
  (0x30 ≤ b && b ≤ 0x39) || (0x41 ≤ b && b ≤ 0x5A) || (0x61 ≤ b && b ≤ 0x7A)
    || b = 0x2D || b = 0x2E || b = 0x5F || b = 0x7E

/-- The digit of a number below 16, letters in upper case. -/
def hexDigit (n : Nat) : Char := Char.ofNat (if n < 10 then 0x30 + n else 0x37 + n)

def encodeByte (b : UInt8) : List Char :=
  if isUnreserved b then [Char.ofNat b.toNat]
  else ['%', hexDigit (b.toNat / 16), hexDigit (b.toNat % 16)]

def encode (text : List Char) : List Char := (Utf8.encode text).flatMap encodeByte

def plusForBlank : List Char → List Char
  | '%' :: '2' :: '0' :: rest => '+' :: plusForBlank rest
  | c :: rest => c :: plusForBlank rest
  | [] => []

/-- As `encode`, with a plus sign for a blank. -/
def encodeForm (text : List Char) : List Char := plusForBlank (encode text)

/-! ### Reading back -/

def hexValue? (c : Char) : Option Nat :=
  if '0' ≤ c ∧ c ≤ '9' then some (c.toNat - 0x30)
  else if 'A' ≤ c ∧ c ≤ 'F' then some (c.toNat - 0x37)
  else if 'a' ≤ c ∧ c ≤ 'f' then some (c.toNat - 0x57)
  else none

/-- Every `%` with two digits is one byte, all else stands for itself. -/
def decodeBytes : List Char → Bytes
  | '%' :: a :: b :: rest =>
    match hexValue? a, hexValue? b with
    | some x, some y => (16 * x + y).toUInt8 :: decodeBytes rest
    | _, _ => 0x25 :: decodeBytes (a :: b :: rest)
  | c :: rest => Utf8.encodeChar c ++ decodeBytes rest
  | [] => []

def decode? (text : List Char) : Option (List Char) := Utf8.decode? (decodeBytes text)

def plusToBlank (c : Char) : Char := if c = '+' then ' ' else c

def decodeForm? (text : List Char) : Option (List Char) := decode? (text.map plusToBlank)

end ApiClient.Percent
