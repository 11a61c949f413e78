import Countersign.Text.Percent

/-!
# Form pairs

A query is read as a list of keys and values: pieces between `&`, the empty ones skipped, each cut
at its first `=`. In keys and values `+` is a space, escapes are decoded, and bytes that are no
UTF-8 read as U+FFFD.

* `Form.bytePairs` -- the keys and values as bytes;
* `Form.pairs` -- the same as text.
-/

namespace Countersign.Http.Form

open Countersign.Text

/-- A key or value with its plus signs read as spaces and its escapes decoded. -/
def unescape (bytes : List UInt8) : List UInt8 :=
  Percent.decode (bytes.map fun b => if b = 0x2B then 0x20 else b)

/-- The key and the value of a piece; the value is empty where there is no `=`. -/
def cut (piece : List UInt8) : List UInt8 × List UInt8 :=
  (piece.takeWhile (· != 0x3D), (piece.dropWhile (· != 0x3D)).drop 1)

/-- The keys and values of a query, decoded to bytes. -/
def bytePairs (query : List UInt8) : List (List UInt8 × List UInt8) :=
  ((query.splitOn 0x26).filter fun piece => !piece.isEmpty).map fun piece =>
    let pair := cut piece
    (unescape pair.1, unescape pair.2)

/-- The keys and values of a query, in the order in which they came. -/
def pairs (query : String) : List (String × String) :=
  (bytePairs (Utf8.bytes query)).map fun p => (Utf8.decodeLossy p.1, Utf8.decodeLossy p.2)

end Countersign.Http.Form
