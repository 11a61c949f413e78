/-!
# Redacted values

What may be shown of a credential. Text below twelve characters shows nothing but whether it is
empty; longer text shows its first and last three characters, so that two keys can be told apart in
a log. Of raw bytes only the number is shown.
-/

namespace Countersign.Text

/-- The least length at which a text shows its ends. -/
def redactedLength : Nat := 12

/-- A text with its middle, or all of it, hidden. -/
def redactText (s : String) : String :=
  let cs := s.toList
  if cs.length = 0 then "EMPTY"
  else if cs.length < redactedLength then "***"
  else String.ofList (cs.take 3 ++ ['*', '*', '*'] ++ cs.drop (cs.length - 3))

/-- Bytes by their number alone. -/
def redactBytes (bs : List UInt8) : String := "<" ++ toString bs.length ++ " bytes redacted>"

@[simp] theorem redactText_empty : redactText "" = "EMPTY" := rfl

end Countersign.Text
