/-!
# White space

Two kinds of blank occur in what is signed, and they are not the same set:

* `isBlank` -- every Unicode white-space character; settings, content types, timestamps and their
  number fields are trimmed of these (`trim`);
* `isAsciiBlank` -- space, tab, line feed, form feed and carriage return alone; these separate the
  words of a field value (`words`), and `normalize` writes one space between two words.
-/

namespace Countersign.Text

/-! ## 1. Membership in a table of ranges -/

/-- `n` lies in one of the closed ranges. -/
def inRanges (ranges : List (Nat × Nat)) (n : Nat) : Bool :=
  ranges.any fun r => r.1 ≤ n && n ≤ r.2

@[simp] theorem inRanges_nil (n : Nat) : inRanges [] n = false := rfl

@[simp] theorem inRanges_cons (r : Nat × Nat) (rs : List (Nat × Nat)) (n : Nat) :
    inRanges (r :: rs) n = ((decide (r.1 ≤ n) && decide (n ≤ r.2)) || inRanges rs n) := rfl

/-! ## 2. Unicode white space -/

/-- The white-space characters, as closed ranges of code points. -/
def blankRanges : List (Nat × Nat) := [
    (0x9, 0xD), (0x20, 0x20), (0x85, 0x85), (0xA0, 0xA0), (0x1680, 0x1680), (0x2000, 0x200A),
    (0x2028, 0x2029), (0x202F, 0x202F), (0x205F, 0x205F), (0x3000, 0x3000)]

/-- `c` is a white-space character. -/
def isBlank (c : Char) : Bool := inRanges blankRanges c.toNat

/-- `cs` without the blanks at its start. -/
def trimStart (cs : List Char) : List Char := cs.dropWhile isBlank

/-- `cs` without the blanks at its two ends. -/
def trim (cs : List Char) : List Char := (trimStart (trimStart cs).reverse).reverse

@[simp] theorem trim_nil : trim [] = [] := rfl

/-! ## 3. Words between ASCII blanks -/

/-- Space, tab, line feed, form feed or carriage return. -/
def isAsciiBlank (c : Char) : Bool :=
  c == ' ' || c == '\t' || c == '\n' || c == '\x0C' || c == '\r'

/-- The longest runs of characters that are no ASCII blanks, in order. -/
def words (cs : List Char) : List (List Char) :=
  (cs.splitOnP isAsciiBlank).filter fun w => !w.isEmpty

@[simp] theorem words_nil : words [] = [] := rfl

/-- The words of `cs` with one space between two of them. -/
def normalize (cs : List Char) : List Char := [' '].intercalate (words cs)

@[simp] theorem normalize_nil : normalize [] = [] := rfl

end Countersign.Text
