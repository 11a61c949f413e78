import Countersign.Http.Authority
import Countersign.Text.Quoted
import Countersign.Text.Utf8

/-!
# Faults and reports

* A `Fault` is a cause: one constructor for each way in which a request or the settings can be
  refused, with the data that the refusal is about.
* A `Report` is what a caller is told: a kind, a message, and the text of the error behind it where
  there is one. `Fault.report` words every fault; callers may also make reports of their own.
-/

namespace Countersign

open Countersign.Text Countersign.Http

/-! ## 1. Reports -/

/-- The kind of an error. -/
inductive Kind
  /-- The request carries no time of signing. -/
  | missingTimestamp
  /-- The time of signing cannot be read. -/
  | malformedTimestamp
  /-- The hash function cannot be used here. -/
  | unsupportedHash
  /-- A payload is needed and there is none. -/
  | missingPayload
  /-- The request cannot be signed as it is. -/
  | invalidRequest
  /-- The settings cannot be used. -/
  | invalidSettings
  | unexpected
  deriving Repr, DecidableEq

/-- The kind in words. -/
def Kind.text : Kind → String
  | .missingTimestamp => "missing timestamp"
  | .malformedTimestamp => "malformed timestamp"
  | .unsupportedHash => "unsupported hash algorithm"
  | .missingPayload => "missing payload"
  | .invalidRequest => "invalid request"
  | .invalidSettings => "invalid configuration"
  | .unexpected => "unexpected error"

/-- What a caller is told of an error. -/
structure Report where
  kind : Kind
  message : String
  /-- The text of the error behind this one. -/
  source : Option String
  deriving Repr, DecidableEq

namespace Report

/-- A report with no error behind it. -/
def ofKind (kind : Kind) (message : String) : Report := ⟨kind, message, none⟩

/-- The report with the given error behind it, in place of any other. -/
def withSource (r : Report) (source : String) : Report := { r with source := some source }

/-- The report as one text: the kind, a colon and the message. -/
def text (r : Report) : String := r.kind.text ++ ": " ++ r.message

/-- The error lies in the time of signing. -/
def isTimestampError (r : Report) : Bool :=
  r.kind == .missingTimestamp || r.kind == .malformedTimestamp

end Report

/-! ## 2. Faults -/

/-- A way in which something is refused. -/
inductive Fault
  /-- The request has no field with the time of signing. -/
  | noTimestamp (field : String)
  /-- The field with the time of signing does not show in ASCII. -/
  | unreadableTimestamp (field : String)
  /-- The text is no timestamp. -/
  | notTimestamp (text : String)
  /-- The payload is to be hashed and there is none. -/
  | noPayload
  /-- The target has no authority. -/
  | noAuthority
  /-- A field value that must be text is not UTF-8. -/
  | fieldNotUtf8 (cause : Utf8.Fault)
  /-- Bytes that must be text are not UTF-8. -/
  | notUtf8 (cause : Utf8.Fault)
  /-- A content type has no media type of two parts. -/
  | noMediaType (text : String)
  /-- A name is none of the well-known field names. -/
  | unknownField (name : String)
  /-- A setting that must be there is not. -/
  | missingSetting (name : String)
  /-- A setting that must be there is empty. -/
  | emptySetting (name : String)
  /-- A name to be signed is no field name. -/
  | badSignedName (name : String)
  /-- A text is no hexadecimal text. -/
  | notHex
  /-- The finished credential line cannot stand in a field. -/
  | badAuthorization
  | badMethod
  | badUri (cause : UriFault)
  | badFieldName
  | badFieldValue
  /-- A field value does not show in ASCII. -/
  | fieldNotVisible
  /-- A value could not be written as text. -/
  | notFormatted
  /-- An error of another library, by its message. -/
  | foreign (message : String)
  deriving Repr, DecidableEq

namespace Fault

/-- The kind of a fault. -/
def kind : Fault → Kind
  | .noTimestamp _ => .missingTimestamp
  | .unreadableTimestamp _ | .notTimestamp _ => .malformedTimestamp
  | .noPayload => .missingPayload
  | .noAuthority | .fieldNotUtf8 _ | .notUtf8 _ | .noMediaType _ | .unknownField _ | .badMethod
  | .badUri _ | .badFieldName | .badFieldValue | .fieldNotVisible => .invalidRequest
  | .missingSetting _ | .emptySetting _ | .badSignedName _ => .invalidSettings
  | .notHex | .badAuthorization | .notFormatted | .foreign _ => .unexpected

/-- What is said of a field name that is none. -/
def fieldNameText : String := "invalid HTTP header name"

/-- What is said of a field value that is none. -/
def fieldValueText : String := "failed to parse header value"

/-- What is said of a field value that does not show in ASCII. -/
def notVisibleText : String := "failed to convert header to a str"

/-- What is said of a value that could not be written. -/
def notFormattedText : String := "an error occurred when formatting an argument"

/-- The message of a fault. -/
def message : Fault → String
  | .noTimestamp field => "header " ++ field ++ " is required for signing"
  | .unreadableTimestamp field => "header " ++ field ++ " is not valid text"
  | .notTimestamp text => "expected yyyyMMddTHHmmssZ, got " ++ quoted text
  | .noPayload => "payload is required to compute the payload hash"
  | .noAuthority => "request without authority is invalid for signing"
  | .fieldNotUtf8 _ => "header value is not valid utf-8"
  | .notUtf8 cause => cause.message
  | .noMediaType text => "content type " ++ quoted text ++ " has no valid media type"
  | .unknownField name => "unknown http header: " ++ name
  | .missingSetting name => name ++ " is required"
  | .emptySetting name => name ++ " must not be empty"
  | .badSignedName name => quoted name ++ " is not a valid header name"
  | .notHex => "hex decode failed"
  | .badAuthorization => "failed to create authorization header"
  | .badMethod => "invalid HTTP method"
  | .badUri cause => cause.message
  | .badFieldName => fieldNameText
  | .badFieldValue => fieldValueText
  | .fieldNotVisible => notVisibleText
  | .notFormatted => notFormattedText
  | .foreign text => text

/-- The text of the error behind a fault, where another error caused it. -/
def source : Fault → Option String
  | .noTimestamp _ | .noPayload | .noAuthority | .noMediaType _ | .unknownField _
  | .missingSetting _ | .emptySetting _ => none
  | .unreadableTimestamp _ => some notVisibleText
  | .notTimestamp _ => some "the text does not have the form of a timestamp"
  | .fieldNotUtf8 cause => some cause.message
  | .badSignedName _ => some fieldNameText
  | .badAuthorization => some fieldValueText
  | .notHex => some "the text is not made of pairs of hexadecimal digits"
  | f => some f.message

/-- What a caller is told of a fault. -/
def report (f : Fault) : Report := ⟨f.kind, f.message, f.source⟩

@[simp] theorem kind_report (f : Fault) : f.report.kind = f.kind := rfl

@[simp] theorem message_report (f : Fault) : f.report.message = f.message := rfl

end Fault

end Countersign
