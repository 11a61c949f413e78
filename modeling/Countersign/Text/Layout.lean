import Countersign.Text.Quoted

/-!
# Layouts of values

A `Layout` is the shape in which a value is shown to a person: a plain text, a named wrapper around
one value, a list, or a named record. It has two renderings:

* `Layout.line` -- all on one line, parts separated by a comma and a space;
* `Layout.block` -- one part a line with a comma after it, four blanks deeper at each level. Depth
  is added to the finished text of a part (`indent`), so a line feed inside a part is indented too.
-/

namespace Countersign.Text

/-! ## 1. Shapes -/

/-- The shape in which a value is shown. -/
inductive Layout
  /-- Text that is shown as it is. -/
  | plain (text : String)
  /-- A name with one value in parentheses. -/
  | wrapped (name : String) (inner : Layout)
  /-- Values in brackets. -/
  | list (items : List Layout)
  /-- A name with named values in braces. -/
  | record (name : String) (fields : List (String × Layout))

namespace Layout

/-- A text in quotes. -/
def text (s : String) : Layout := .plain (quoted s)

/-- A truth value. -/
def truth (b : Bool) : Layout := .plain (if b then "true" else "false")

/-- A value that may be missing. -/
def optional : Option Layout → Layout
  | none => .plain "None"
  | some x => .wrapped "Some" x

/-! ## 2. On one line -/

mutual

/-- The layout on one line. -/
def lineChars : Layout → List Char
  | .plain text => text.toList
  | .wrapped name inner => name.toList ++ ['('] ++ lineChars inner ++ [')']
  | .list items => ['['] ++ [',', ' '].intercalate (lineItems items) ++ [']']
  | .record name [] => name.toList
  | .record name (f :: fs) =>
    name.toList ++ [' ', '\x7B', ' '] ++ [',', ' '].intercalate (lineFields (f :: fs))
      ++ [' ', '\x7D']

/-- The items of a list, each on one line. -/
def lineItems : List Layout → List (List Char)
  | [] => []
  | x :: xs => lineChars x :: lineItems xs

/-- The fields of a record, each on one line behind its name. -/
def lineFields : List (String × Layout) → List (List Char)
  | [] => []
  | (name, x) :: fs => (name.toList ++ [':', ' '] ++ lineChars x) :: lineFields fs

end

/-- The layout on one line. -/
def line (x : Layout) : String := String.ofList x.lineChars

/-! ## 3. One part a line -/

/-- The characters after a line feed or not, with four blanks put before each line. -/
def indentFrom : Bool → List Char → List Char
  | _, [] => []
  | fresh, c :: cs =>
    (if fresh then [' ', ' ', ' ', ' '] else []) ++ c :: indentFrom (c == '\n') cs

/-- The text with four blanks before each of its lines. -/
def indent (cs : List Char) : List Char := indentFrom true cs

/-- One part of a block: indented, with a comma and a line feed after it. -/
def blockPart (cs : List Char) : List Char := indent (cs ++ [',', '\n'])

mutual

/-- The layout with one part a line. -/
def blockChars : Layout → List Char
  | .plain text => text.toList
  | .wrapped name inner => name.toList ++ ['(', '\n'] ++ blockPart (blockChars inner) ++ [')']
  | .list [] => ['[', ']']
  | .list (x :: xs) => ['[', '\n'] ++ blockItems (x :: xs) ++ [']']
  | .record name [] => name.toList
  | .record name (f :: fs) =>
    name.toList ++ [' ', '\x7B', '\n'] ++ blockFields (f :: fs) ++ ['\x7D']

/-- The items of a list, each a part. -/
def blockItems : List Layout → List Char
  | [] => []
  | x :: xs => blockPart (blockChars x) ++ blockItems xs

/-- The fields of a record, each a part behind its name. -/
def blockFields : List (String × Layout) → List Char
  | [] => []
  | (name, x) :: fs => blockPart (name.toList ++ [':', ' '] ++ blockChars x) ++ blockFields fs

end

/-- The layout with one part a line. -/
def block (x : Layout) : String := String.ofList x.blockChars

end Layout

end Countersign.Text
