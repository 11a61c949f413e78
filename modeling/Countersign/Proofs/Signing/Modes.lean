import Countersign.Proofs.Canonical.Roles
import Countersign.Proofs.Signing.InPlace

/-!
# What the payload mode has an influence on

The mode is looked at twice: for the text that stands for the payload, and for the field that this
text is sent in. Between hashing with and without sending the second look alone differs; where the
payload is not signed, its bytes are not looked at.

* `Profile.inMode` -- a profile in another mode;
* `SameStages` -- two signings come to the same at every stage, and `sameStages_of_prepare` says
  when they do;
* `sameStages_sent`, `signHead_sent` -- a payload that is hashed, its hash sent or not;
* `sameStages_unsigned`, `signHead_unsigned` -- a payload that is not signed, and another of the
  same declared type;
* `payload_modes_differ_as_sent` -- both, for all stages and for signing in place.
-/

namespace Countersign

open Countersign.Text Countersign.Calendar Countersign.Http Fallible

namespace Profile

/-- The profile in the given mode, all else as it is. -/
def inMode (p : Profile) (mode : PayloadMode) : Profile := { p with payloadMode := mode }

@[simp] theorem payloadMode_inMode (p : Profile) (mode : PayloadMode) :
    (p.inMode mode).payloadMode = mode := rfl

/-! ## 1. Signings that come to the same -/

/-- The signings of two requests by two profiles come to the same at every stage: to one result, or
    to one fault. -/
structure SameStages (p q : Profile) (r₁ r₂ : Request) : Prop where
  canonicalRequest : p.canonicalRequest r₁ = q.canonicalRequest r₂
  stringToSign : p.stringToSign r₁ = q.stringToSign r₂
  sign : p.sign r₁ = q.sign r₂
  authorization : p.authorization r₁ = q.authorization r₂

/-- What comes behind the preparation does not look at the mode. -/
theorem sameStages_of_prepare {p : Profile} {mode mode' : PayloadMode} {r₁ r₂ : Request}
    (h : (p.inMode mode).prepare r₁ = (p.inMode mode').prepare r₂) :
    SameStages (p.inMode mode) (p.inMode mode') r₁ r₂ := by
  refine ⟨?_, ?_, ?_, ?_⟩
  · rw [canonicalRequest_eq, canonicalRequest_eq, h]
  · exact congrArg (Except.map Prepared.stringToSign) h
  · rw [sign_eq, sign_eq, h]
    rfl
  · rw [authorization_eq, authorization_eq, h]
    rfl

/-! ## 2. The hash, sent or not -/

/-- The payload is hashed, whether or not the hash is sent. -/
theorem sameStages_sent (p : Profile) (r : Request) :
    SameStages (p.inMode .included) (p.inMode .excluded) r r := sameStages_of_prepare rfl

end Profile

/-- The heads are one but for the values of the field that the hash is sent in. -/
structure Http.Head.SameButHash (a b : Head) : Prop where
  method : a.method = b.method
  uri : a.uri = b.uri
  others : ∀ name, name ≠ SigningField.payloadHash → a.fields.values name = b.fields.values name

namespace Profile

theorem sameButHash_writeFields (head : Head) (hash hash' : Option FieldValue) (line : FieldValue) :
    Head.SameButHash { head with fields := writeFields head.fields hash line }
      { head with fields := writeFields head.fields hash' line } := by
  refine ⟨rfl, rfl, fun name hn => ?_⟩
  by_cases ha : name = SigningField.authorization
  · subst ha
    rw [values_authorization_writeFields, values_authorization_writeFields]
  · rw [values_writeFields_of_ne_of_ne _ _ _ ha hn, values_writeFields_of_ne_of_ne _ _ _ ha hn]

/-- The signatures are one, and the hash that was signed can be sent. -/
theorem sign_sent (p : Profile) (r : Request) :
    Alike (fun s t => t = s ∧ ∃ hash, hashField .included s.payloadHash = .ok hash)
      ((p.inMode .included).sign r) ((p.inMode .excluded).sign r) := by
  rw [← (sameStages_sent p r).sign]
  cases hs : (p.inMode .included).sign r with
  | error fault => exact .error fault
  | ok s =>
    obtain ⟨time, text, c, -, htext, -, rfl⟩ := sign_eq_ok_iff.1 hs
    exact .ok ⟨rfl, exists_hashField htext⟩

/-- **Sending the hash is no reason to fail**, and it shows in its own field alone. -/
theorem signHead_sent (p : Profile) (head : Head) (payload : Option Payload) :
    Alike Head.SameButHash ((p.inMode .included).signHead head payload)
      ((p.inMode .excluded).signHead head payload) := by
  unfold signHead
  refine (Alike.of_eq rfl).bind fun r _ he => ?_
  subst he
  refine (sign_sent p r).bind fun s _ hs => ?_
  obtain ⟨rfl, hash, hhash⟩ := hs
  refine Alike.bind (Alike.of_eq rfl) fun line _ he => ?_
  subst he
  rw [payloadMode_inMode, hhash]
  exact .ok (sameButHash_writeFields head hash none line)

/-- Outcomes of signing one head are compared through the signed heads. -/
theorem signInPlace_of_alike {head : Head} {x y : Except Fault Head}
    (h : Alike Head.SameButHash x y) : (allOrNothing head x).1 = (allOrNothing head y).1 ∧
      (allOrNothing head x).2.SameButHash (allOrNothing head y).2 := by
  cases h with
  | error fault => exact ⟨rfl, rfl, rfl, fun _ _ => rfl⟩
  | ok h => exact ⟨rfl, h⟩

/-! ## 3. Payloads that are not signed -/

section Unsigned

variable {x y : Option Payload} (h : x.bind Payload.contentType = y.bind Payload.contentType)
include h

/-- Of a payload the content type reads what was declared for it. -/
theorem contentType_payload (r : Request) :
    { r with payload := x }.contentType = { r with payload := y }.contentType := by
  have hd : { r with payload := x }.declaredType = { r with payload := y }.declaredType :=
    congrArg (fun t => t.getD ContentType.unspecified) h
  unfold Request.contentType
  rw [hd]
  rfl

theorem sameStages_unsigned (p : Profile) (r : Request) :
    SameStages (p.inMode .unsigned) (p.inMode .unsigned) { r with payload := x }
      { r with payload := y } := by
  refine sameStages_of_prepare (prepare_congr rfl rfl fun time hash _ _ => ?_)
  refine CanonicalRequest.build_congr rfl rfl rfl fun name _ => ?_
  have hhost : { r with payload := x }.host = { r with payload := y }.host := rfl
  exact Role.value_congr hhost (fun _ => contentType_payload h r) (fun _ _ _ _ => rfl) time hash

theorem signHead_unsigned (p : Profile) (head : Head) :
    (p.inMode .unsigned).signHead head x = (p.inMode .unsigned).signHead head y := by
  unfold signHead Request.ofHead
  cases head.uri.authority with
  | none => rfl
  | some authority =>
    have hsign := (sameStages_unsigned h p ⟨head.method, head.uri.scheme.getD .http, authority,
      head.uri.path, (head.uri.query.map Form.pairs).getD [], head.fields, none⟩).sign
    simp only [bind, Except.bind] at hsign ⊢
    rw [hsign]

end Unsigned

/-! ## 4. All of it -/

/-- **The modes differ as to what is sent and what is hashed, and in nothing else.** Hashing with and
    without sending come to the same at every stage; in place they fail alike, and the heads differ
    in the field of the hash alone. Where the payload is not signed, any other payload of the same
    declared type -- no type for no payload -- comes to the same everywhere. -/
theorem payload_modes_differ_as_sent (p : Profile) :
    (∀ r, SameStages (p.inMode .included) (p.inMode .excluded) r r) ∧
    (∀ head payload,
      ((p.inMode .included).signInPlace head payload).1 =
          ((p.inMode .excluded).signInPlace head payload).1 ∧
        ((p.inMode .included).signInPlace head payload).2.SameButHash
          ((p.inMode .excluded).signInPlace head payload).2) ∧
    ∀ x y : Option Payload, x.bind Payload.contentType = y.bind Payload.contentType →
      (∀ r : Request, SameStages (p.inMode .unsigned) (p.inMode .unsigned)
          { r with payload := x } { r with payload := y }) ∧
        ∀ head, (p.inMode .unsigned).signInPlace head x =
          (p.inMode .unsigned).signInPlace head y := by
  refine ⟨fun r => sameStages_sent p r, fun head payload => ?_, fun x y h => ⟨?_, fun head => ?_⟩⟩
  · rw [signInPlace_eq, signInPlace_eq]
    exact signInPlace_of_alike (signHead_sent p head payload)
  · exact fun r => sameStages_unsigned h p r
  · rw [signInPlace_eq, signInPlace_eq, signHead_unsigned h]

/-- No payload, and one of a byte that declares no type. -/
theorem payload_modes_differ_as_sent_absent :
    let p := Trial.profile "region" Trial.originAndTime .included
    (none : Option Payload).bind Payload.contentType =
        (some (Payload.ofData [97])).bind Payload.contentType ∧
      (p.inMode .unsigned).signInPlace (Trial.head [Trial.timeField]) none =
        (p.inMode .unsigned).signInPlace (Trial.head [Trial.timeField]) (some (.ofData [97])) :=
  ⟨rfl, ((payload_modes_differ_as_sent _).2.2 none (some (.ofData [97])) rfl).2 _⟩

end Profile

end Countersign
