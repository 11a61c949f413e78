import Countersign.Http.Field

/-!
# Well-known field names

The field names that push connections know by name. `KnownField.usualName` is the usual spelling,
`KnownField.canonicalName` the one in small letters; `KnownField.ofName?` finds a field by its name
in any ASCII case. Signing itself works on all names alike and does not ask this table.
-/

namespace Countersign.Http

/-- A field name with a meaning of its own. -/
inductive KnownField
  | authorization
  | wwwAuthenticate
  | date
  | host
  | location
  | origin
  | contentType
  | timeout
  | responseRequired
  | correlationId
  /-- Authentication that a proxy in front of the service has already done. -/
  | preAuthenticated
  /-- The order of the keys inside the payload of a message. -/
  | parameterOrder
  /-- A policy may be created without the right to write it. -/
  | allowPolicyLockout
  /-- Metadata about the resource that is changed. -/
  | putMetadata
  /-- A condition that must hold for an update to be applied. -/
  | condition
  deriving Repr, DecidableEq

namespace KnownField

/-- Every known field, in a fixed order. -/
def all : List KnownField := [
  .authorization, .wwwAuthenticate, .date, .host, .location, .origin, .contentType, .timeout,
  .responseRequired, .correlationId, .preAuthenticated, .parameterOrder, .allowPolicyLockout,
  .putMetadata, .condition]

/-- The name as it is usually written. -/
def usualName : KnownField → String
  | .authorization => "Authorization"
  | .wwwAuthenticate => "WWW-Authenticate"
  | .date => "Date"
  | .host => "Host"
  | .location => "Location"
  | .origin => "Origin"
  | .contentType => "Content-Type"
  | .timeout => "Timeout"
  | .responseRequired => "response-required"
  | .correlationId => "x-correlation-id"
  | .preAuthenticated => "x-ditto-pre-authenticated"
  | .parameterOrder => "x-things-parameter-order"
  | .allowPolicyLockout => "allow-policy-lockout"
  | .putMetadata => "put-metadata"
  | .condition => "condition"

/-- A text with its ASCII capitals made small. -/
def loweredName (s : String) : String := String.ofList (s.toList.map Char.toLower)

/-- The name in small letters, as canonical requests write it. -/
def canonicalName (f : KnownField) : String := loweredName f.usualName

/-- The known field of a name in any ASCII case. -/
def ofName? (name : String) : Option KnownField :=
  all.find? fun f => f.canonicalName = loweredName name

/-- A canonical name is a field name. -/
theorem isFieldName_canonicalName (f : KnownField) : isFieldName f.canonicalName.toList = true := by
  cases f <;> decide

/-- The field name of a known field. -/
def fieldName (f : KnownField) : FieldName := ⟨f.canonicalName, f.isFieldName_canonicalName⟩

end KnownField

end Countersign.Http
