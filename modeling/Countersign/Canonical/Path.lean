import Countersign.Fault
import Countersign.Text.Percent

/-!
# Canonical paths

Either the path as it was given, or its normal form: the non-empty segments, each decoded once and
encoded twice, with a slash before each one and one at the end where the path ends with a slash. A
path without such a segment is `/` in both. A segment that decodes to no text is refused.
-/

namespace Countersign.Canonical

open Countersign.Text

/-- The segments between slashes that are not empty. -/
def segments (path : List Char) : List (List Char) :=
  (path.splitOn '/').filter fun s => !s.isEmpty

/-- The text that a segment spells by its escapes. -/
def decodeSegment (segment : List Char) : Except Fault (List Char) :=
  ((Utf8.decode (Percent.decode (Utf8.encode segment))).mapError .notUtf8).map String.toList

/-- A text, encoded and then encoded again. -/
def encodeTwice (cs : List Char) : List Char := Percent.encode (Percent.encode cs)

/-- The slash at the end of a path that ends with one. -/
def trailing (path : List Char) : List Char := if path.getLast? = some '/' then ['/'] else []

/-- Decoded segments in normal form, with `tail` behind them. -/
def render (decoded : List (List Char)) (tail : List Char) : List Char :=
  match decoded with
  | [] => ['/']
  | s :: ss => '/' :: ['/'].intercalate ((s :: ss).map encodeTwice) ++ tail

/-- The normal form of a path. -/
def normalPath (path : List Char) : Except Fault (List Char) :=
  ((segments path).mapM decodeSegment).map fun decoded => render decoded (trailing path)

/-- The path of a canonical request. -/
def path (doubleEncode : Bool) (given : String) : Except Fault String :=
  if doubleEncode then (normalPath given.toList).map String.ofList
  else if given = "" then .ok "/"
  else .ok given

end Countersign.Canonical
