import Countersign.ContentType

/-!
# Payloads

The body of a request, all of it in memory, with the content type that was declared for it, if any.
-/

namespace Countersign

/-- The body of a request. -/
structure Payload where
  data : List UInt8
  contentType : Option ContentType
  deriving Repr, DecidableEq

/-- A payload of undeclared type. -/
def Payload.ofData (data : List UInt8) : Payload := ⟨data, none⟩

end Countersign
