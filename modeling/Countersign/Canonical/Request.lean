import Countersign.Canonical.Fields
import Countersign.Canonical.Path
import Countersign.Canonical.Query
import Countersign.Profile

/-!
# Canonical requests

The six parts of a request on which a signature depends -- method, path, query, block of fields,
names of these fields, hash of the payload -- and their text, with a line feed between two parts.
-/

namespace Countersign

open Countersign.Calendar

/-- The parts of a request on which its signature depends. -/
structure CanonicalRequest where
  method : String
  path : String
  query : String
  /-- The lines of the signed fields. -/
  fieldBlock : String
  /-- The names of the signed fields. -/
  signedFields : String
  payloadHash : String
  deriving Repr, DecidableEq

namespace CanonicalRequest

/-- The six parts in their order. -/
def parts (c : CanonicalRequest) : List String :=
  [c.method, c.path, c.query, c.fieldBlock, c.signedFields, c.payloadHash]

/-- The text that is hashed. -/
def text (c : CanonicalRequest) : String := "\n".intercalate c.parts

/-- A method in capital letters. -/
def methodText (m : Http.Method) : String := String.ofList (m.text.toList.map Char.toUpper)

/-- The canonical request at a time, with the hash that stands for the payload. -/
def build (p : Profile) (r : Request) (time : Instant) (payloadHash : String) :
    Except Fault CanonicalRequest := do
  let path ← Canonical.path p.doubleEncodePath r.path
  let fieldBlock ← Canonical.fieldBlock r time payloadHash p.signedNames
  .ok
    { method := methodText r.method
      path := path
      query := Canonical.query r.query
      fieldBlock := fieldBlock
      signedFields := p.signedFields
      payloadHash := payloadHash }

end CanonicalRequest

end Countersign
