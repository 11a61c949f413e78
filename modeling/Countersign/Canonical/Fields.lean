import Countersign.Calendar.Timestamp
import Countersign.Request
import Countersign.SigningField

/-!
# Canonical fields

The block of signed fields: one line for each name, the name, a colon, its value and a line feed.
The value goes by the role of the name (`Role.value`). A name that the request has no field for
still has its line, with an empty value.
-/

namespace Countersign

open Countersign.Text Countersign.Calendar Countersign.Http

/-- The values of a field, each in normal form, with commas between them. -/
def Request.plainValue (r : Request) (name : FieldName) : Except Fault String :=
  ((r.fields.values name).mapM Request.textOf).map fun texts =>
    String.ofList ([','].intercalate (texts.map fun s => Text.normalize s.toList))

/-- The value of a signed name by its role. -/
def Role.value (r : Request) (time : Instant) (payloadHash : String) : Role → Except Fault String
  | .host => .ok r.host
  | .contentType => r.contentType.map ContentType.text
  | .payloadHash => .ok payloadHash
  | .time => .ok (Timestamp.format time)
  | .plain name => r.plainValue name

namespace Canonical

/-- The line of a signed name. -/
def fieldLine (r : Request) (time : Instant) (payloadHash : String) (name : FieldName) :
    Except Fault String :=
  ((Role.ofName name).value r time payloadHash).map fun value => name.text ++ ":" ++ value ++ "\n"

/-- The block of the signed names. -/
def fieldBlock (r : Request) (time : Instant) (payloadHash : String) (names : List FieldName) :
    Except Fault String :=
  (names.mapM (fieldLine r time payloadHash)).map String.join

end Canonical

end Countersign
