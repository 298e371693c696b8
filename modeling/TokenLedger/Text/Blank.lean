/-!
Blank characters: the Unicode property White_Space.

A text of blanks alone names nothing, and blanks may stand between the parts of a timestamp. The
property has twenty-five members, of which six are ASCII.
-/

namespace TokenLedger.Text

/-- The code points with the property White_Space. -/
def blanks : List Nat :=
  [0x9, 0xa, 0xb, 0xc, 0xd, 0x20, 0x85, 0xa0, 0x1680, 0x2000, 0x2001, 0x2002, 0x2003, 0x2004,
   0x2005, 0x2006, 0x2007, 0x2008, 0x2009, 0x200a, 0x2028, 0x2029, 0x202f, 0x205f, 0x3000]

/-- Whether a character is blank. -/
def isBlank (char : Char) : Bool :=
  blanks.contains char.toNat

/-- Whether a text holds nothing but blanks. -/
def allBlank (text : String) : Bool :=
  text.toList.all isBlank

/-- A list of characters without the blanks it starts with. -/
def skipBlanks (chars : List Char) : List Char :=
  chars.dropWhile isBlank

end TokenLedger.Text
