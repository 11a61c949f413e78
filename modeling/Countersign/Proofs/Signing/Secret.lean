import Countersign.Proofs.Signing.Adapter

/-!
# What the secret has an influence on

Two signers that differ in their secrets alone read a request alike, write the same to a log and
refuse the same requests with the same faults. What they sign differs in sixty-four hexadecimal
digits: the signature, and with it the end of the credential line.

* `SameButSecret` -- two profiles are one but for the secret;
* `SameButSecret.prepare_eq` -- everything before the secret is used is the same;
* `SameButSecret.sign_paired` -- the two signatures are of one text under the two keys;
* `SameButSecret.credentialField_alike`, `SameButSecret.signHead_alike` -- the credential lines can
  both be sent or both not, and all else in the signed heads is the same;
* `secret_stays_in_signature` -- all stages, the log, and signing in place.
-/

namespace Countersign

open Countersign.Text Countersign.Digest Countersign.Http Fallible

/-! ## 1. What may differ -/

/-- The text of a signature: sixty-four hexadecimal digits. -/
def IsSignatureText (s : String) : Prop :=
  s.toList.length = 64 ∧ ∀ c ∈ s.toList, isLowerHex c = true

/-- Whatever a key signs, the signature has this form. -/
theorem SigningKey.isSignatureText_sign (key : SigningKey) (text : String) :
    IsSignatureText (key.sign text) := by
  refine ⟨key.length_sign text, fun c hc => ?_⟩
  have hdigits : (key.sign text).toList = Hex.encode (hmacSha256 key.bytes (Utf8.bytes text)) :=
    toList_hexHmacSha256 _ _
  rw [hdigits] at hc
  exact mem_hexEncode hc

/-- The signatures were made at one time, in one scope and of one payload. -/
structure Signature.SameButText (s t : Signature) : Prop where
  time : s.time = t.time
  scope : s.scope = t.scope
  payloadHash : s.payloadHash = t.payloadHash
  digits : IsSignatureText s.text
  digits' : IsSignatureText t.text

/-- The credential lines are one up to the signatures at their ends. -/
def SameButSignature (line line' : String) : Prop :=
  ∃ stem text text', IsSignatureText text ∧ IsSignatureText text' ∧
    line = stem ++ ", Signature=" ++ text ∧ line' = stem ++ ", Signature=" ++ text'

/-- The field values are credential lines of this kind, neither of them shown in logs. -/
def Http.FieldValue.SameButSignature (v w : FieldValue) : Prop :=
  v.sensitive = true ∧ w.sensitive = true ∧ ∃ line line', v.bytes = Utf8.bytes line ∧
    w.bytes = Utf8.bytes line' ∧ Countersign.SameButSignature line line'

/-- The heads are one but for the signatures in their credential lines. -/
structure Http.Head.SameButSignature (a b : Head) : Prop where
  method : a.method = b.method
  uri : a.uri = b.uri
  others : ∀ name, name ≠ SigningField.authorization →
    a.fields.values name = b.fields.values name
  authorization : ∃ v w, a.fields.values SigningField.authorization = [v] ∧
    b.fields.values SigningField.authorization = [w] ∧ v.SameButSignature w

namespace Profile

/-- Signing one head in place came to the same in two runs: both left it, for one fault, or both
    signed it, and the signed heads are one but for the signatures. -/
inductive SameOutcome (head : Head) : Except Fault Unit × Head → Except Fault Unit × Head → Prop
  | refused (fault : Fault) : SameOutcome head (.error fault, head) (.error fault, head)
  | signed {a b : Head} (h : a.SameButSignature b) : SameOutcome head (.ok (), a) (.ok (), b)

/-- The profiles are one but for their secrets. -/
structure SameButSecret (p q : Profile) : Prop where
  region : p.region = q.region
  service : p.service = q.service
  accessKeyId : p.accessKeyId = q.accessKeyId
  algorithm : p.algorithm = q.algorithm
  doubleEncodePath : p.doubleEncodePath = q.doubleEncodePath
  signedNames : p.signedNames = q.signedNames
  payloadMode : p.payloadMode = q.payloadMode

/-! ## 2. Before the secret is used -/

theorem isSignatureText_signatureOf (p : Profile) (prepared : Prepared) :
    IsSignatureText (p.signatureOf prepared).text := SigningKey.isSignatureText_sign _ _

namespace SameButSecret

variable {p q : Profile} (h : SameButSecret p q)
include h

theorem signedFields_eq : p.signedFields = q.signedFields := by
  unfold signedFields
  rw [h.signedNames]

theorem build_eq (r : Request) (time : Calendar.Instant) (hash : String) :
    CanonicalRequest.build p r time hash = CanonicalRequest.build q r time hash := by
  unfold CanonicalRequest.build
  rw [h.doubleEncodePath, h.signedNames, h.signedFields_eq]

/-- **Everything that goes before the secret is the same**, results and faults. -/
theorem prepare_eq (r : Request) : p.prepare r = q.prepare r := by
  unfold prepare
  rw [h.payloadMode, h.region, h.service, h.algorithm]
  exact bind_congr rfl fun time _ => bind_congr rfl fun hash _ =>
    bind_congr (h.build_eq r time hash) fun _ _ => rfl

/-! ## 3. The signature and the credential line -/

/-- The two signatures are of one preparation, each by its own key. -/
theorem sign_paired (r : Request) :
    Alike (fun s t => ∃ prepared, s = p.signatureOf prepared ∧ t = q.signatureOf prepared)
      (p.sign r) (q.sign r) := by
  rw [sign_eq, sign_eq]
  refine (Alike.of_eq (h.prepare_eq r)).map fun prepared _ he => ?_
  exact ⟨prepared, rfl, he ▸ rfl⟩

theorem credentialStem_eq (scope : String) : p.credentialStem scope = q.credentialStem scope := by
  unfold credentialStem
  rw [h.algorithm, h.accessKeyId, h.signedFields_eq]

theorem credentialLine_alike (prepared : Prepared) :
    SameButSignature (p.credentialLine (p.signatureOf prepared))
      (q.credentialLine (q.signatureOf prepared)) := by
  refine ⟨p.algorithm ++ " Credential=" ++ p.accessKeyId ++ "/" ++ prepared.scope
    ++ ", SignedHeaders=" ++ p.signedFields, _, _, p.isSignatureText_signatureOf prepared,
    q.isSignatureText_signatureOf prepared, rfl, ?_⟩
  rw [h.algorithm, h.accessKeyId, h.signedFields_eq]
  rfl

/-- Whether a credential line can be sent does not depend on the secret. -/
theorem credentialField_alike (prepared : Prepared) :
    Alike FieldValue.SameButSignature (p.credentialField (p.signatureOf prepared))
      (q.credentialField (q.signatureOf prepared)) := by
  have hiff : (∃ line, p.credentialField (p.signatureOf prepared) = .ok line) ↔
      ∃ line, q.credentialField (q.signatureOf prepared) = .ok line := by
    rw [exists_credentialField_iff, exists_credentialField_iff, h.credentialStem_eq]
  cases hp : p.credentialField (p.signatureOf prepared) with
  | error fault =>
    cases hq : q.credentialField (q.signatureOf prepared) with
    | error fault' =>
      rw [eq_badAuthorization_of_credentialField hp, eq_badAuthorization_of_credentialField hq]
      exact .error _
    | ok line' =>
      obtain ⟨line, hl⟩ := hiff.2 ⟨line', hq⟩
      cases hp.symm.trans hl
  | ok line =>
    obtain ⟨line', hq⟩ := hiff.1 ⟨line, hp⟩
    obtain ⟨hs, hb⟩ := credentialField_spec hp
    obtain ⟨hs', hb'⟩ := credentialField_spec hq
    rw [hq]
    exact .ok ⟨hs, hs', _, _, hb, hb', h.credentialLine_alike prepared⟩

/-! ## 4. Signing a head -/

theorem signHead_alike (head : Head) (payload : Option Payload) :
    Alike Head.SameButSignature (p.signHead head payload) (q.signHead head payload) := by
  unfold signHead
  refine (Alike.of_eq rfl).bind fun r _ hr => ?_
  subst hr
  refine (h.sign_paired r).bind fun s t hst => ?_
  obtain ⟨prepared, rfl, rfl⟩ := hst
  refine (h.credentialField_alike prepared).bind fun line line' hline => ?_
  have hhash : hashField p.payloadMode (p.signatureOf prepared).payloadHash =
      hashField q.payloadMode (q.signatureOf prepared).payloadHash := by
    rw [h.payloadMode]
    rfl
  refine (Alike.of_eq hhash).bind fun hash _ he => ?_
  subst he
  -- the two heads get one hash, and then each its own line
  refine .ok ⟨rfl, rfl, fun name hn => ?_, line, line', ?_, ?_, hline⟩
  · exact (values_writeFields_of_ne head.fields hash line hn).trans
      (values_writeFields_of_ne head.fields hash line' hn).symm
  · exact values_authorization_writeFields head.fields hash line
  · exact values_authorization_writeFields head.fields hash line'

end SameButSecret

/-- What holds of the signed heads holds of signing in place. -/
theorem sameOutcome_of_alike {head : Head} {x y : Except Fault Head}
    (h : Alike Head.SameButSignature x y) :
    SameOutcome head (allOrNothing head x) (allOrNothing head y) := by
  cases h with
  | error fault => exact .refused fault
  | ok hsigned => exact .signed hsigned

/-! ## 5. All of it -/

/-- **The secret has an influence on nothing but the signature.** Profiles that differ in the secret
    alone make the same of every request -- canonical request, text to sign, log, fault -- and of
    every head, but for the sixty-four digits of the signature. -/
theorem secret_stays_in_signature {p q : Profile} (h : SameButSecret p q) :
    (∀ r, p.canonicalRequest r = q.canonicalRequest r ∧ p.stringToSign r = q.stringToSign r ∧
        p.journal r = q.journal r ∧ Alike Signature.SameButText (p.sign r) (q.sign r) ∧
        Alike SameButSignature (p.authorization r) (q.authorization r)) ∧
      ∀ head payload,
        SameOutcome head (p.signInPlace head payload) (q.signInPlace head payload) := by
  refine ⟨fun r => ⟨?_, ?_, ?_, ?_, ?_⟩, fun head payload => ?_⟩
  · rw [canonicalRequest_eq, canonicalRequest_eq, h.prepare_eq]
  · unfold stringToSign
    rw [h.prepare_eq]
  · unfold journal
    rw [h.prepare_eq]
  · refine (h.sign_paired r).imp fun s t hst => ?_
    obtain ⟨prepared, rfl, rfl⟩ := hst
    exact ⟨rfl, rfl, rfl, p.isSignatureText_signatureOf prepared,
      q.isSignatureText_signatureOf prepared⟩
  · refine (h.sign_paired r).map fun s t hst => ?_
    obtain ⟨prepared, rfl, rfl⟩ := hst
    exact h.credentialLine_alike prepared
  · rw [signInPlace_eq, signInPlace_eq]
    exact sameOutcome_of_alike (h.signHead_alike head payload)

/-- Two secrets of one profile, and a request that both sign. -/
theorem secret_stays_in_signature_trial :
    let p := Trial.profile "region" Trial.originAndTime .included
    let q : Profile := { p with secretAccessKey := "other", secretAccessKey_ne := by decide }
    let r := Trial.request [Trial.timeField]
    let head := Trial.head [Trial.timeField]
    let payload := some (Payload.ofData [])
    p.secretAccessKey ≠ q.secretAccessKey ∧ SameButSecret p q ∧
      p.stringToSign r = q.stringToSign r ∧
      SameOutcome head (p.signInPlace head payload) (q.signInPlace head payload) := by
  intro p q r head payload
  have h : SameButSecret p q := ⟨rfl, rfl, rfl, rfl, rfl, rfl, rfl⟩
  have hall := secret_stays_in_signature h
  exact ⟨by decide, h, (hall.1 _).2.1, hall.2 _ _⟩

end Profile

end Countersign
