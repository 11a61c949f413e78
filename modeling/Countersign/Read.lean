import Countersign.Calendar.Timestamp
import Countersign.Fault
import Countersign.Http.Head
import Countersign.Http.KnownField
import Countersign.Text.Hex

/-!
# Reading what a caller hands over

Every reader of this module gives a value of the library or the fault of what was handed over. The
parts of a request head are read in the order method, target, fields; of a field the name comes
before the value.
-/

namespace Countersign.Read

open Countersign.Text Countersign.Calendar Countersign.Http

/-- The value, or the fault where there is none. -/
def orFault {α : Type} (fault : Fault) : Option α → Except Fault α
  | some x => .ok x
  | none => .error fault

@[simp] theorem orFault_some {α : Type} (fault : Fault) (x : α) : orFault fault (some x) = .ok x :=
  rfl

@[simp] theorem orFault_none {α : Type} (fault : Fault) :
    orFault fault (none : Option α) = .error fault := rfl

theorem orFault_eq_ok_iff {α : Type} {fault : Fault} {x : Option α} {a : α} :
    orFault fault x = .ok a ↔ x = some a := by
  cases x with
  | none => exact ⟨nofun, nofun⟩
  | some b => rw [orFault_some, Except.ok.injEq, Option.some.injEq]

/-! ## 1. Text and time -/

/-- The bytes that a hexadecimal text spells. -/
def hex (s : String) : Except Fault (List UInt8) := orFault .notHex (Hex.decode? s.toList)

/-- The text of bytes. -/
def text (bytes : List UInt8) : Except Fault String := (Utf8.decode bytes).mapError .notUtf8

/-- The instant that a text spells. -/
def timestamp (s : String) : Except Fault Instant := orFault (.notTimestamp s) (Timestamp.parse? s)

/-! ## 2. Parts of a head -/

/-- The method that bytes spell. -/
def method (bytes : List UInt8) : Except Fault Method := orFault .badMethod (Method.ofBytes? bytes)

/-- The target that bytes spell. -/
def uri (bytes : List UInt8) : Except Fault Uri := (Uri.ofBytes bytes).mapError .badUri

/-- The field name that bytes spell. -/
def fieldName (bytes : List UInt8) : Except Fault FieldName :=
  orFault .badFieldName (FieldName.ofBytes? bytes)

/-- The field value of bytes. -/
def fieldValue (bytes : List UInt8) : Except Fault FieldValue :=
  orFault .badFieldValue (FieldValue.ofBytes? bytes)

/-- The text of a field value of bytes that show in ASCII. -/
def visibleText (bytes : List UInt8) : Except Fault String := do
  let value ← fieldValue bytes
  orFault .fieldNotVisible value.visibleText?

/-- A field that is given by the bytes of its name and of its value. -/
def field (given : List UInt8 × List UInt8) : Except Fault (FieldName × FieldValue) := do
  let name ← fieldName given.1
  let value ← fieldValue given.2
  .ok (name, value)

/-- The head with the given fields in their order; its method is GET where none is given. -/
def head (givenMethod : Option (List UInt8)) (givenUri : List UInt8)
    (givenFields : List (List UInt8 × List UInt8)) : Except Fault Head := do
  let method ← match givenMethod with
    | none => .ok Method.get
    | some bytes => method bytes
  let uri ← uri givenUri
  let entries ← givenFields.mapM field
  .ok ⟨method, uri, ⟨entries⟩⟩

/-! ## 3. Names -/

/-- The well-known field of a name. -/
def knownField (name : String) : Except Fault KnownField :=
  orFault (.unknownField name) (KnownField.ofName? name)

end Countersign.Read
