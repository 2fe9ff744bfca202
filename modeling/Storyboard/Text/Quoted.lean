import Storyboard.Text.Blank
import Storyboard.Text.Shapeless

/-!
# Quoted text in messages

A message that quotes what it found puts it between quotes. The quote and the backslash are preceded
by a backslash, the tabulator and the line ends have short names, and every other character that
would not show is written as its code point in braces.
-/

namespace Storyboard.Text

/-- The code point of a character in hexadecimal between braces. -/
def codePoint (c : Char) : List Char :=
  ['\\', 'u', '\x7b'] ++ Nat.toDigits 16 c.toNat ++ ['\x7d']

/-- A character as it stands in a quoted text. -/
def quotedChar (c : Char) : List Char :=
  let n := c.toNat
  if n = 0 then ['\\', '0']
  else if c = '\t' then ['\\', 't']
  else if c = '\r' then ['\\', 'r']
  else if c = '\n' then ['\\', 'n']
  else if n = 0x22 || c = '\\' then ['\\', c]
  else if n < 0x20 || n = 0x7F then codePoint c
  else if n < 0x7F then [c]
  else if isShapeless c then codePoint c
  else [c]

/-- A text between quotes. -/
def quoted (s : String) : String :=
  String.ofList ('\x22' :: s.toList.flatMap quotedChar ++ ['\x22'])

end Storyboard.Text
