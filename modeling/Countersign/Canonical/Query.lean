import Countersign.Text.Percent

/-!
# Canonical queries

The pairs of a query in the order of their keys, and of their values where keys are equal, each
written as `key=value` with both sides encoded and `&` between two pairs. An `=` in a value is
escaped before the value is encoded, so it is encoded twice.
-/

namespace Countersign.Canonical

open Countersign.Text

/-- The order of pairs: by key, and by value where the keys are equal. -/
def pairLe (a b : String × String) : Bool := a.1 < b.1 || (a.1 == b.1 && a.2 ≤ b.2)

/-- A value with every `=` escaped. -/
def escapeEquals (cs : List Char) : List Char :=
  cs.flatMap fun c => if c = '=' then ['%', '3', 'D'] else [c]

/-- A pair as it is written. -/
def queryToken (pair : String × String) : List Char :=
  Percent.encode pair.1.toList ++ ['='] ++ Percent.encode (escapeEquals pair.2.toList)

/-- The pairs in the order in which they are written. -/
def sortedPairs (pairs : List (String × String)) : List (String × String) := pairs.mergeSort pairLe

/-- The query of a canonical request. -/
def query (pairs : List (String × String)) : String :=
  String.ofList (['&'].intercalate ((sortedPairs pairs).map queryToken))

end Countersign.Canonical
