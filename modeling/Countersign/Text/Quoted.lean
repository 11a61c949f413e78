import Countersign.Text.Blank
import Countersign.Text.HiddenTable

/-!
# Quoted text

How a text is shown inside an error message or a layout: in double quotes, with the quote and the
backslash escaped, four control characters by a letter or digit, and every other character that has
no picture of its own, or that attaches to the one before it, by its number.
-/

namespace Countersign.Text

/-- The character is written by number. ASCII is decided by its order, the rest by the table. -/
def isHidden (c : Char) : Bool :=
  if c.toNat < 128 then c.toNat < 32 || c.toNat == 127 else inRanges hiddenRanges c.toNat

/-- A character by its number: a backslash, `u` and the digits in braces. -/
def numbered (c : Char) : List Char :=
  ['\x5C', 'u', '\x7B'] ++ Nat.toDigits 16 c.toNat ++ ['\x7D']

/-- A character as it stands inside the quotes. -/
def quotedChar (c : Char) : List Char :=
  if c = '\x22' then ['\x5C', '\x22']
  else if c = '\x5C' then ['\x5C', '\x5C']
  else if c = '\n' then ['\x5C', 'n']
  else if c = '\r' then ['\x5C', 'r']
  else if c = '\t' then ['\x5C', 't']
  else if c = '\x00' then ['\x5C', '0']
  else if isHidden c then numbered c
  else [c]

/-- A text in quotes. -/
def quoted (s : String) : String :=
  String.ofList (['\x22'] ++ s.toList.flatMap quotedChar ++ ['\x22'])

end Countersign.Text
