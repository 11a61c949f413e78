import Countersign.Http.Form
import Countersign.Http.Head
import Countersign.Http.KnownField
import Countersign.Payload

/-!
# Requests as they are signed

A `Request` is what signing reads of an outgoing request: its head taken apart, with the query
decoded, and its payload. `Request.ofHead` makes one of a head whose target has an authority.

* `Request.host` -- the host as the `Host` field names it: the port is left out where the scheme
  stands for it;
* `Request.fieldText`, `Request.fieldTexts` -- the first value and all values of a field, as text;
* `Request.grouped` -- the query by its keys;
* `Request.contentType` -- the content type of the field, else of the payload, else the unspecified
  one.
-/

namespace Countersign

open Countersign.Text Countersign.Http

/-- An outgoing request, taken apart. -/
structure Request where
  method : Method
  scheme : Scheme
  authority : Authority
  /-- The path as it was given, escapes and all. -/
  path : String
  /-- The keys and values of the query, decoded, in the order in which they came. -/
  query : List (String × String)
  fields : Fields
  payload : Option Payload

namespace Request

/-! ## 1. Making a request -/

/-- The request of a head and a payload. -/
def ofHead (head : Head) (payload : Option Payload) : Except Fault Request :=
  match head.uri.authority with
  | none => .error .noAuthority
  | some authority => .ok
    { method := head.method
      scheme := head.uri.scheme.getD .http
      authority := authority
      path := head.uri.path
      query := (head.uri.query.map Form.pairs).getD []
      fields := head.fields
      payload := payload }

/-- The request of a head and the bytes of its body, which become a payload of undeclared type. -/
def ofMessage (head : Head) (body : List UInt8) : Except Fault Request :=
  ofHead head (some (.ofData body))

/-! ## 2. Reading it -/

/-- The host, with the port where it is not the one that the scheme stands for. -/
def host (r : Request) : String :=
  match r.authority.port? with
  | none => r.authority.host
  | some port =>
    if port = r.scheme.defaultPort then r.authority.host
    else r.authority.host ++ ":" ++ toString port

/-- A field value as text. -/
def textOf (v : FieldValue) : Except Fault String := v.text.mapError .fieldNotUtf8

/-- The text of the first value of a field, where there is one. -/
def fieldText (r : Request) (name : String) : Except Fault (Option String) :=
  match r.fields.getOf? name with
  | none => .ok none
  | some v => (textOf v).map some

/-- The texts of all values of a field, in their order. -/
def fieldTexts (r : Request) (name : String) : Except Fault (List String) :=
  (r.fields.valuesOf name).mapM textOf

/-- Pairs whose keys are in order, with the values of one key put together. -/
def gather : List (String × String) → List (String × List String)
  | [] => []
  | (key, value) :: rest =>
    match gather rest with
    | [] => [(key, [value])]
    | (key', values) :: groups =>
      if key = key' then (key, value :: values) :: groups
      else (key, [value]) :: (key', values) :: groups

/-- The keys of the query in ascending order, each with its values in the order in which they
    came. -/
def grouped (r : Request) : List (String × List String) :=
  gather (r.query.mergeSort fun a b => a.1 ≤ b.1)

/-- The content type that was declared for the payload, else the unspecified one. -/
def declaredType (r : Request) : ContentType :=
  (r.payload.bind Payload.contentType).getD .unspecified

/-- The content type of the request. -/
def contentType (r : Request) : Except Fault ContentType :=
  match r.fieldText KnownField.contentType.canonicalName with
  | .error f => .error f
  | .ok (some s) => ContentType.parse s
  | .ok none => .ok r.declaredType

end Request

end Countersign
