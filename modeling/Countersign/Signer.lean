import Countersign.Canonical.Request
import Countersign.Read
import Countersign.Scope

/-!
# Signing

Every step of signing is a function of a profile and a request, and can be asked for alone:

* `Profile.canonicalRequest` -- what the signature depends on;
* `Profile.prepare`, `Profile.stringToSign` -- the text that is signed;
* `Profile.sign` -- the signature;
* `Profile.authorization` -- the credential line;
* `Profile.signHead` -- the request head with the credential line, and the hash of the payload where
  the profile sends it, among its fields.

The time of signing is always the one the request carries. `Profile.signInPlace` does the same to a
head that a caller holds, one change after the other (`Profile.signing`). `Profile.journal` is what
one signing writes to a log.
-/

namespace Countersign

open Countersign.Text Countersign.Calendar Countersign.Digest Countersign.Http

/-! ## 1. What a request brings along -/

/-- The time of signing: the first value of its field. -/
def Request.signingTime (r : Request) : Except Fault Instant :=
  match r.fields.get? SigningField.time with
  | none => .error (.noTimestamp SigningField.time.text)
  | some v =>
    match v.visibleText? with
    | none => .error (.unreadableTimestamp SigningField.time.text)
    | some s => Read.timestamp (String.ofList (trim s.toList))

/-- The text that stands for the hash of a payload that is not signed. -/
def unsignedPayload : String := "UNSIGNED-PAYLOAD"

/-- The hash of the payload, or the text that stands for it. -/
def Request.payloadHash (r : Request) : PayloadMode → Except Fault String
  | .unsigned => .ok unsignedPayload
  | .included | .excluded =>
    match r.payload with
    | none => .error .noPayload
    | some payload => .ok (hexSha256 payload.data)

/-! ## 2. The credential line -/

/-- The credential line. -/
def renderAuthorization (algorithm accessKeyId scope signedFields signature : String) : String :=
  algorithm ++ " Credential=" ++ accessKeyId ++ "/" ++ scope ++ ", SignedHeaders=" ++ signedFields
    ++ ", Signature=" ++ signature

/-! ## 3. The stages -/

/-- Everything that goes before the secret is used. -/
structure Prepared where
  time : Instant
  payloadHash : String
  canonical : CanonicalRequest
  scope : String
  stringToSign : String

/-- What signing gives. -/
structure Signature where
  /-- The signature as hexadecimal text. -/
  text : String
  time : Instant
  scope : String
  payloadHash : String
  deriving DecidableEq

namespace Profile

/-- The canonical request, not signed. -/
def canonicalRequest (p : Profile) (r : Request) : Except Fault CanonicalRequest := do
  let time ← r.signingTime
  let payloadHash ← r.payloadHash p.payloadMode
  CanonicalRequest.build p r time payloadHash

/-- The text that is signed: algorithm, time, scope and the hash of the canonical request, one a
    line. -/
def signedText (algorithm : String) (time : Instant) (scope : String) (c : CanonicalRequest) :
    String :=
  algorithm ++ "\n" ++ Timestamp.format time ++ "\n" ++ scope ++ "\n"
    ++ hexSha256 (Utf8.bytes c.text)

/-- Everything that goes before the secret is used. -/
def prepare (p : Profile) (r : Request) : Except Fault Prepared := do
  let time ← r.signingTime
  let payloadHash ← r.payloadHash p.payloadMode
  let canonical ← CanonicalRequest.build p r time payloadHash
  let scope := credentialScope time p.region p.service
  .ok ⟨time, payloadHash, canonical, scope, signedText p.algorithm time scope canonical⟩

/-- The text that is signed, not signed. -/
def stringToSign (p : Profile) (r : Request) : Except Fault String :=
  (p.prepare r).map Prepared.stringToSign

/-- The key of the profile for the day of `time`. -/
def key (p : Profile) (time : Instant) : SigningKey :=
  .derive p.secretAccessKey time p.region p.service

/-- The signature of a request. -/
def sign (p : Profile) (r : Request) : Except Fault Signature := do
  let prepared ← p.prepare r
  .ok
    { text := (p.key prepared.time).sign prepared.stringToSign
      time := prepared.time
      scope := prepared.scope
      payloadHash := prepared.payloadHash }

/-- The credential line of a signature. -/
def credentialLine (p : Profile) (s : Signature) : String :=
  renderAuthorization p.algorithm p.accessKeyId s.scope p.signedFields s.text

/-- The credential line of a request. -/
def authorization (p : Profile) (r : Request) : Except Fault String :=
  (p.sign r).map p.credentialLine

/-! ## 4. Signing a head -/

/-- The credential line as a field value that is not shown in logs. -/
def credentialField (p : Profile) (s : Signature) : Except Fault FieldValue :=
  match FieldValue.ofText? (p.credentialLine s) with
  | none => .error .badAuthorization
  | some line => .ok line.hide

/-- The hash of the payload as a field value, where the mode sends it. -/
def hashField : PayloadMode → String → Except Fault (Option FieldValue)
  | .excluded, _ => .ok none
  | .included, hash | .unsigned, hash =>
    match FieldValue.ofText? hash with
    | none => .error .badFieldValue
    | some v => .ok (some v)

/-- The fields with the hash of the payload in place of any other, where there is one to send. -/
def putHash (fields : Fields) : Option FieldValue → Fields
  | none => fields
  | some hash => fields.insert SigningField.payloadHash hash

/-- The head with the fields that signing adds. -/
def signHead (p : Profile) (head : Head) (payload : Option Payload) : Except Fault Head := do
  let request ← Request.ofHead head payload
  let signature ← p.sign request
  let line ← p.credentialField signature
  let hash ← hashField p.payloadMode signature.payloadHash
  .ok { head with fields := (putHash head.fields hash).insert SigningField.authorization line }

/-- Work on a head that may fail on the way. What was done to the head before stays done. -/
abbrev Editing : Type → Type := ExceptT Fault (StateM Head)

/-- The value as the only one under its name in the head. -/
def putField (name : FieldName) (value : FieldValue) : Editing Unit :=
  modify fun head => { head with fields := head.fields.insert name value }

/-- The hash of the payload in place of any other in the head, where there is one to send. -/
def putHashField : Option FieldValue → Editing Unit
  | none => pure ()
  | some hash => putField SigningField.payloadHash hash

/-- Signing as work on a head: the request is read off the head, and the fields are put into it one
    after the other, the credential line last. -/
def signing (p : Profile) (payload : Option Payload) : Editing Unit := do
  let request ← Request.ofHead (← get) payload
  let signature ← p.sign request
  let line ← p.credentialField signature
  let hash ← hashField p.payloadMode signature.payloadHash
  putHashField hash
  putField SigningField.authorization line

/-- The outcome of signing a head, and the head as it is afterwards. -/
def signInPlace (p : Profile) (head : Head) (payload : Option Payload) :
    Except Fault Unit × Head :=
  (p.signing payload).run.run head

/-! ## 5. The log -/

/-- The level of all that signing writes to a log. -/
def journalLevel : String := "DEBUG"

/-- What signing a request writes to a log: nothing where it fails before the secret is used. -/
def journal (p : Profile) (r : Request) : List String :=
  match p.prepare r with
  | .error _ => []
  | .ok prepared => [
      "calculated canonical request: " ++ prepared.canonical.text,
      "calculated scope: " ++ prepared.scope,
      "calculated string to sign: " ++ prepared.stringToSign]

end Profile

end Countersign
