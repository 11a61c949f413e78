import Countersign.Http.Token
import Countersign.Text.Utf8

/-!
# Names and values of header fields

* A `FieldName` is a token in small letters of at most 65535 characters. It is read from any case
  (`FieldName.ofText?`), so names that differ in case are one name.
* A `FieldValue` is a byte string without control characters other than the tab. It need not be
  UTF-8 (`FieldValue.text`), and it may be marked sensitive.
-/

namespace Countersign.Http

open Countersign.Text

/-! ## 1. Names -/

/-- The greatest length of a field name. -/
def maxNameLength : Nat := 65535

/-- A token character that is no capital letter. -/
def isNameChar (c : Char) : Bool := isTokenChar c && !c.isUpper

/-- A field name: between one and `maxNameLength` characters, none of them a capital letter. -/
def isFieldName (cs : List Char) : Bool :=
  !cs.isEmpty && cs.length ≤ maxNameLength && cs.all isNameChar

/-- The name of a header field. -/
structure FieldName where
  text : String
  legal : isFieldName text.toList = true
  deriving DecidableEq

namespace FieldName

/-- The name that the characters spell in any case. -/
def ofChars? (cs : List Char) : Option FieldName :=
  let lowered := cs.map Char.toLower
  if h : isFieldName lowered then
    some ⟨String.ofList lowered, by rw [String.toList_ofList]; exact h⟩
  else none

/-- The name that a text spells in any case. -/
def ofText? (s : String) : Option FieldName := ofChars? s.toList

/-- The name that bytes spell in any case. -/
def ofBytes? (bytes : List UInt8) : Option FieldName := ofChars? (latinChars bytes)

/-- Names with one text are one name. -/
theorem eq_of_text_eq : ∀ {m n : FieldName}, m.text = n.text → m = n
  | ⟨_, _⟩, ⟨_, _⟩, rfl => rfl

end FieldName

/-! ## 2. Values -/

/-- A byte that may stand in a field value: a tab, or no control character. -/
def isValueByte (b : UInt8) : Bool := b == 0x09 || (0x20 ≤ b && b != 0x7F)

/-- The value of a header field. -/
structure FieldValue where
  bytes : List UInt8
  /-- The value is not to be shown in logs. -/
  sensitive : Bool
  legal : bytes.all isValueByte = true
  deriving DecidableEq

namespace FieldValue

/-- The value with the given bytes, not sensitive. -/
def ofBytes? (bytes : List UInt8) : Option FieldValue :=
  if h : bytes.all isValueByte then some ⟨bytes, false, h⟩ else none

/-- The value with the UTF-8 bytes of a text, not sensitive. -/
def ofText? (s : String) : Option FieldValue := ofBytes? (Utf8.bytes s)

/-- The value, marked sensitive. -/
def hide (v : FieldValue) : FieldValue := { v with sensitive := true }

/-- The text of the value, where its bytes are UTF-8. -/
def text (v : FieldValue) : Except Utf8.Fault String := Utf8.decode v.bytes

/-- A byte that shows in ASCII: a tab or one from the space to the tilde. -/
def isVisibleByte (b : UInt8) : Bool := b == 0x09 || (0x20 ≤ b && b ≤ 0x7E)

/-- The text of the value, where every byte shows in ASCII. -/
def visibleText? (v : FieldValue) : Option String :=
  if v.bytes.all isVisibleByte then some (String.ofList (latinChars v.bytes)) else none

@[simp] theorem bytes_hide (v : FieldValue) : v.hide.bytes = v.bytes := rfl

@[simp] theorem sensitive_hide (v : FieldValue) : v.hide.sensitive = true := rfl

@[simp] theorem text_hide (v : FieldValue) : v.hide.text = v.text := rfl

end FieldValue

end Countersign.Http
