/-
# IdlCatalog.Text.Quoted — texts inside diagnostics

A diagnostic quotes the text it speaks of. A quoted text is printable ASCII and ordinary letters;
every character that would break the line, end the quotation or not show by itself is written as an
escape.
-/
import IdlCatalog.Text.GraphemeExtend
import IdlCatalog.Text.Unprintable

namespace IdlCatalog

/-- The code points of Unicode 17.0 with the property Default_Ignorable_Code_Point: fillers, joiners,
variation selectors, directions. They are not drawn where they have no effect, so a quoted text shows
them by number. -/
def defaultIgnorable : RangeTable :=
  [(0xAD, 0xAD), (0x34F, 0x34F), (0x61C, 0x61C), (0x115F, 0x1160), (0x17B4, 0x17B5),
   (0x180B, 0x180F), (0x200B, 0x200F), (0x202A, 0x202E), (0x2060, 0x206F), (0x3164, 0x3164),
   (0xFE00, 0xFE0F), (0xFEFF, 0xFEFF), (0xFFA0, 0xFFA0), (0xFFF0, 0xFFF8), (0x1BCA0, 0x1BCA3),
   (0x1D173, 0x1D17A), (0xE0000, 0xE0FFF)]

/-- The hexadecimal digits of a number, in lower case and without leading zeros. -/
def hexDigits (n : Nat) : List Char := Nat.toDigits 16 n

namespace Quoted

/-- The halfwidth sound marks of kana. They extend the character before them in the sense of
Unicode, but take a column of their own. -/
def isSoundMark (c : Char) : Bool := c = '\uFF9E' || c = '\uFF9F'

/-- Whether a character is drawn with the one before it and so has no shape of its own. -/
def isAttached (c : Char) : Bool := graphemeExtend.contains c && !isSoundMark c

/-- Whether a character shows by itself: ASCII from the space to the tilde, and beyond ASCII what
has a visible form, is drawn at all, and is not attached to the character before it. -/
def shows (c : Char) : Bool :=
  if c.toNat < 0x7F then ' ' ≤ c
  else !isAttached c && !defaultIgnorable.contains c && !unprintable.contains c

/-- A character as it stands between quotation marks. -/
def char (c : Char) : List Char :=
  if c = '"' then ['\\', '"']
  else if c = '\\' then ['\\', '\\']
  else if c = '\n' then ['\\', 'n']
  else if c = '\r' then ['\\', 'r']
  else if c = '\t' then ['\\', 't']
  else if c.toNat = 0 then ['\\', '0']
  else if shows c then [c]
  else ['\\', 'u', '\x7b'] ++ hexDigits c.toNat ++ ['\x7d']

end Quoted

/-- A text between quotation marks. -/
def quoted (text : String) : String :=
  String.ofList ('"' :: (text.toList.flatMap Quoted.char ++ ['"']))

end IdlCatalog
