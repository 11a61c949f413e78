import Countersign.Http.KnownField

/-!
# Fields with a meaning for signing

Five field names are more than names to a signer: `authorization` receives the credential line, and
four others have a value of their own in the canonical request. `Role.ofName` says which part a
signed name plays there.
-/

namespace Countersign

open Countersign.Http

/-! ## 1. Names -/

namespace SigningField

/-- The field that carries the credential line. -/
def authorization : FieldName := KnownField.authorization.fieldName

/-- The field that names the host. -/
def host : FieldName := KnownField.host.fieldName

/-- The field that names the content type. -/
def contentType : FieldName := KnownField.contentType.fieldName

/-- The field that carries the hash of the payload. -/
def payloadHash : FieldName := ⟨"x-amz-content-sha256", by decide⟩

/-- The field that carries the time of signing. -/
def time : FieldName := ⟨"x-amz-date", by decide⟩

end SigningField

/-! ## 2. Roles -/

/-- The part a signed name plays in the canonical request. -/
inductive Role
  /-- Its value is the host of the request. -/
  | host
  /-- Its value is the content type of the request. -/
  | contentType
  /-- Its value is the hash of the payload. -/
  | payloadHash
  /-- Its value is the time of signing. -/
  | time
  /-- Its value is read from the fields of the request. -/
  | plain (name : FieldName)
  deriving DecidableEq

/-- The role of a name. -/
def Role.ofName (name : FieldName) : Role :=
  if name = SigningField.host then .host
  else if name = SigningField.contentType then .contentType
  else if name = SigningField.payloadHash then .payloadHash
  else if name = SigningField.time then .time
  else .plain name

end Countersign
