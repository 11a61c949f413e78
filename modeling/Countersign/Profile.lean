import Countersign.Fault
import Countersign.Settings
import Countersign.SigningField
import Countersign.Text.Ascending
import Countersign.Text.Case

/-!
# Profiles

A `Profile` is what a signer works by: settings that have been accepted. Its type says what was
checked. The four parts of the credential are there and not empty, and the names to sign are field
names in strictly ascending order.

`Profile.ofSettings` accepts settings or names the first fault: the names to sign are looked at
first, then region, service, access key id and secret access key.
-/

namespace Countersign

open Countersign.Text Countersign.Http

/-- Accepted settings. -/
structure Profile where
  region : String
  service : String
  accessKeyId : String
  secretAccessKey : String
  /-- The name of the signing algorithm, in capital letters. -/
  algorithm : String
  /-- The segments of a path are encoded twice. -/
  doubleEncodePath : Bool
  /-- The names of the fields to sign. -/
  signedNames : List FieldName
  payloadMode : PayloadMode
  region_ne : region ≠ ""
  service_ne : service ≠ ""
  accessKeyId_ne : accessKeyId ≠ ""
  secretAccessKey_ne : secretAccessKey ≠ ""
  ascending : signedNames.Pairwise fun a b => a.text < b.text

namespace Profile

/-! ## 1. Accepting settings -/

/-- A setting that must be there and not be empty. -/
def required (name : String) : Option String → Except Fault { v : String // v ≠ "" }
  | none => .error (.missingSetting name)
  | some v => if h : v = "" then .error (.emptySetting name) else .ok ⟨v, h⟩

/-- A name as it was given, without the blanks around it and in small letters. -/
def normalName (s : String) : String := String.ofList (lowercase (trim s.toList))

/-- The names as they were given, in their normal form, without the empty ones. -/
def normalNames (given : List String) : List String :=
  (given.map normalName).filter fun s => s ≠ ""

/-- Field names in strictly ascending order. -/
abbrev NameSet : Type := { names : List FieldName // names.Pairwise fun a b => a.text < b.text }

/-- The set of the given names; the least of those that are no field names is the fault. -/
def nameSet (given : List String) : Except Fault NameSet :=
  let names := normalNames given
  match Text.ascending id (names.filter fun s => (FieldName.ofText? s).isNone) with
  | bad :: _ => .error (.badSignedName bad)
  | [] => .ok ⟨Text.ascending FieldName.text (names.filterMap FieldName.ofText?),
      pairwise_ascending _ _⟩

/-- The names that are signed when none are given: the host and the time. -/
def defaultNames : NameSet := ⟨[SigningField.host, SigningField.time], by decide⟩

/-- The names to sign. -/
def chosenNames : Option (List String) → Except Fault NameSet
  | some given => nameSet given
  | none => .ok defaultNames

/-- The algorithm that is used when none is given. -/
def defaultAlgorithm : String := "AWS4-HMAC-SHA256"

/-- The name of the algorithm: without the blanks around it and in capital letters. -/
def chosenAlgorithm : Option String → String
  | none => defaultAlgorithm
  | some given =>
    match uppercase (trim given.toList) with
    | [] => defaultAlgorithm
    | c :: cs => String.ofList (c :: cs)

/-- The profile of the settings, or the first fault in them. -/
def ofSettings (s : Settings) : Except Fault Profile := do
  let names ← chosenNames s.signedNames
  let region ← required "region" s.region
  let service ← required "service" s.service
  let accessKeyId ← required "access_key_id" s.accessKeyId
  let secretAccessKey ← required "secret_access_key" s.secretAccessKey
  .ok
    { region := region.1
      service := service.1
      accessKeyId := accessKeyId.1
      secretAccessKey := secretAccessKey.1
      algorithm := chosenAlgorithm s.algorithm
      doubleEncodePath := s.doubleEncodePath.getD true
      signedNames := names.1
      payloadMode := s.payloadMode.getD .included
      region_ne := region.2
      service_ne := service.2
      accessKeyId_ne := accessKeyId.2
      secretAccessKey_ne := secretAccessKey.2
      ascending := names.2 }

/-- The profile of a credential, all else by default. -/
def ofCredential (region service accessKeyId secretAccessKey : String) : Except Fault Profile :=
  ofSettings (Settings.blank.run [
    .region region, .service service, .accessKeyId accessKeyId, .secretAccessKey secretAccessKey])

/-! ## 2. What a profile shows -/

/-- The names to sign with semicolons between them. -/
def signedFields (p : Profile) : String := ";".intercalate (p.signedNames.map FieldName.text)

/-- The profile as a layout, the two parts of the credential redacted. -/
def layout (p : Profile) : Layout :=
  .record "SigningConfig" [
    ("region", .text p.region),
    ("service", .text p.service),
    ("access_key_id", .plain (redactText p.accessKeyId)),
    ("secret_access_key", .plain (redactText p.secretAccessKey)),
    ("algorithm", .text p.algorithm),
    ("double_encode_path", .truth p.doubleEncodePath),
    ("canonical_header_names", .list (p.signedNames.map fun n => .text n.text)),
    ("payload_hash_mode", .plain p.payloadMode.label)]

/-- A signer that works by the profile, as a layout. -/
def signerLayout (p : Profile) : Layout := .record "RequestSigner" [("config", p.layout)]

end Profile

end Countersign
