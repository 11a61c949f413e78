import Countersign.Http.Fields
import Countersign.Http.Uri

/-!
# Request heads

What goes out before the body of a request: a method, a target and the header fields. A head is what
a transport hands over to be signed.
-/

namespace Countersign.Http

/-- The head of a request. -/
structure Head where
  method : Method
  uri : Uri
  fields : Fields
  deriving DecidableEq

end Countersign.Http
