/-!
Transliteration to ASCII: what a text reads like without the letters, marks and signs of other
scripts. The table has only some of the characters there are, so that names can be computed for texts
of these; names are made with any other transliteration just as well. A character without an entry is
left out.
-/

namespace ApiClient.Transliteration

/-- Readings of characters outside ASCII, by code point. -/
def readings : List (Nat × String) := [
  (0x00A0, " "), (0x00A3, "GBP"), (0x00B2, "2"), (0x00BD, "1/2"), (0x00C6, "Ae"), (0x00D6, "O"),
  (0x00DC, "U"), (0x00DE, "Th"), (0x00DF, "ss"), (0x00E9, "e"), (0x00EF, "i"), (0x00F1, "n"),
  (0x00F3, "o"), (0x00F6, "o"), (0x00F8, "o"), (0x00FA, "u"), (0x0130, "I"), (0x0131, "i"),
  (0x0142, "l"), (0x0153, "oe"), (0x017A, "z"), (0x01C5, "Dz"), (0x0301, ""), (0x0395, "E"),
  (0x03AC, "a"), (0x03B1, "a"), (0x03B4, "d"), (0x03BB, "l"), (0x041F, "P"), (0x0430, "a"),
  (0x0432, "v"), (0x0435, "e"), (0x0438, "i"), (0x043A, "k"), (0x043C, "m"), (0x043E, "o"),
  (0x0440, "r"), (0x0441, "s"), (0x0442, "t"), (0x05D5, "v"), (0x05DC, "l"), (0x05DD, "m"),
  (0x05E9, "s"), (0x200B, ""), (0x2014, "-"), (0x201C, "\""), (0x201D, "\""), (0x2026, "..."),
  (0x20AC, "EUR"), (0x2460, "1"), (0x2461, "2"), (0x4EAC, "Jing"), (0x5317, "Bei"), (0x65E5, "Ri"),
  (0x672C, "Ben"), (0xAD6D, "Gug"), (0xD55C, "Han"), (0xFB01, "fi"), (0x1F600, ":grinning:")]

def readChar (c : Char) : List Char :=
  if c.toNat < 0x80 then [c]
  else ((readings.lookup c.toNat).getD "").toList

def toAscii (cs : List Char) : List Char := cs.flatMap readChar

end ApiClient.Transliteration
