import Countersign.Proofs.Canonical.Roles
import Countersign.Proofs.Signing.InPlace

/-!
# Signing a signed head

A head that is signed can be signed again, and all that changes is the credential line. The line is
made of the request that the signed head makes, so it stays where no field that signing writes is
read back. The hash of the payload is not: its place in the canonical request is filled from the
payload. The credential line is, where `authorization` is among the signed names.

* `Fields.insert_insert`, `writeFields_writeFields` -- what was written before does not count;
* `Fields.AgreeButWritten`, `CanonicalRequest.build_of_agree` -- what requests share that differ in
  the written fields alone, and when they have one canonical request;
* `SignedAgain`, `signHead_again` -- a second signing succeeds, and what it makes;
* `signInPlace_again` -- what it leaves, and when it leaves everything;
* `signInPlace_not_idempotent` -- it does not always.
-/

namespace Countersign

open Countersign.Text Countersign.Calendar Countersign.Digest Countersign.Http

/-! ## 1. Writing twice -/

namespace Http.Fields

variable (fs : Fields) {name other : FieldName} (value : FieldValue)

theorem erase_insert_self : (fs.insert name value).erase name = fs.erase name := by
  simp [insert, append, erase, List.filter_append, List.filter_filter]

theorem erase_insert_of_ne (h : other ≠ name) :
    (fs.insert name value).erase other = (fs.erase other).insert name value := by
  simp only [insert, append, erase, List.filter_append, List.filter_filter, Bool.and_comm]
  simp [Ne.symm h]

/-- What else a value is written to does not count. -/
theorem insert_congr {fs gs : Fields} (h : fs.erase name = gs.erase name) :
    fs.insert name value = gs.insert name value := by
  unfold insert
  rw [h]

/-- A value that is written over leaves no trace. -/
theorem insert_insert (value' : FieldValue) :
    (fs.insert name value).insert name value' = fs.insert name value' :=
  insert_congr value' (erase_insert_self fs value)

end Http.Fields

namespace Profile

theorem writeFields_writeFields (fields : Fields) (hash : Option FieldValue)
    (line line' : FieldValue) :
    writeFields (writeFields fields hash line) hash line' = writeFields fields hash line' := by
  refine Fields.insert_congr line' ?_
  cases hash with
  | none => exact Fields.erase_insert_self fields line
  | some v =>
    have hne : SigningField.authorization ≠ SigningField.payloadHash := by decide
    show (((fields.insert _ v).insert _ line).insert SigningField.payloadHash v).erase
      SigningField.authorization = (fields.insert _ v).erase _
    rw [Fields.erase_insert_of_ne _ _ hne, Fields.erase_insert_self,
      Fields.erase_insert_of_ne _ _ hne, Fields.insert_insert]

theorem nodup_signedNames (p : Profile) : p.signedNames.Nodup := by
  refine p.ascending.imp fun {a b} hlt he => ?_
  rw [he] at hlt
  exact String.lt_irrefl _ hlt

end Profile

/-! ## 2. The request of a signed head -/

/-- Fields that have the same values but under the names that signing writes. -/
def Http.Fields.AgreeButWritten (fs gs : Fields) : Prop :=
  ∀ name, name ≠ SigningField.authorization → name ≠ SigningField.payloadHash →
    gs.values name = fs.values name

namespace Request

theorem ofHead_fields {head : Head} {payload : Option Payload} {r : Request}
    (h : ofHead head payload = .ok r) : r.fields = head.fields ∧
      ∀ fs, ofHead { head with fields := fs } payload = .ok { r with fields := fs } := by
  unfold ofHead at h ⊢
  cases ha : head.uri.authority with
  | none => rw [ha] at h; cases h
  | some authority =>
    rw [ha] at h
    cases h
    refine ⟨rfl, fun fs => ?_⟩
    dsimp only
    rw [ha]

variable {r : Request} {fs : Fields} (h : r.fields.AgreeButWritten fs)
include h

theorem signingTime_of_agree : { r with fields := fs }.signingTime = r.signingTime := by
  unfold signingTime Fields.get?
  rw [h SigningField.time (by decide) (by decide)]

/-- The hash of the payload is not read from its field, so of the names that signing writes the
    value of `authorization` alone may be another. -/
theorem role_value_of_agree {name : FieldName} (hn : name ≠ SigningField.authorization)
    (time : Instant) (hash : String) :
    (Role.ofName name).value { r with fields := fs } time hash =
      (Role.ofName name).value r time hash := by
  have hhost : { r with fields := fs }.host = r.host := rfl
  refine Role.value_congr hhost (fun hc => ?_) (fun _ _ hp _ => ?_) time hash
  · subst hc
    refine contentType_congr ?_ rfl
    unfold Fields.get?
    rw [h SigningField.contentType (by decide) (by decide)]
  · unfold plainValue
    rw [h name hn hp]

end Request

namespace CanonicalRequest

variable {p : Profile} {r : Request} {fs : Fields} {time : Instant} {hash : String}
  {c : CanonicalRequest}

theorem role_authorization : Role.ofName SigningField.authorization =
    .plain SigningField.authorization := by decide

/-- The request with the written fields has a canonical request, and it is the one from before
    exactly where the credential line is not read back or reads as what stood in its place. -/
theorem build_of_agree (h : r.fields.AgreeButWritten fs) (hc : build p r time hash = .ok c)
    (hv : ∃ value, { r with fields := fs }.plainValue SigningField.authorization = .ok value) :
    ∃ c', build p { r with fields := fs } time hash = .ok c' ∧
      (c' = c ↔ (SigningField.authorization ∈ p.signedNames →
        { r with fields := fs }.plainValue SigningField.authorization =
          r.plainValue SigningField.authorization)) := by
  obtain ⟨path, block, hpath, hblock, rfl⟩ := build_eq_ok_iff.1 hc
  have hothers : ∀ name ∈ p.signedNames, name ≠ SigningField.authorization →
      (Role.ofName name).value { r with fields := fs } time hash =
        (Role.ofName name).value r time hash :=
    fun _ _ hn => Request.role_value_of_agree h hn time hash
  obtain ⟨block', hblock'⟩ : ∃ block',
      Canonical.fieldBlock { r with fields := fs } time hash p.signedNames = .ok block' := by
    refine Canonical.exists_fieldBlock_iff.2 fun name hn => ?_
    by_cases ha : name = SigningField.authorization
    · rw [ha, role_authorization]
      exact hv
    · rw [hothers name hn ha]
      exact Canonical.exists_fieldBlock_iff.1 ⟨block, hblock⟩ name hn
  refine ⟨_, build_eq_ok_iff.2 ⟨path, block', hpath, hblock', rfl⟩, ?_⟩
  constructor
  · intro he hn
    have hb : block' = block := (CanonicalRequest.mk.inj he).2.2.2.1
    have := Canonical.value_eq_of_fieldBlock_eq p.nodup_signedNames hn hothers (hb ▸ hblock') hblock
    rwa [role_authorization] at this
  · intro he
    have hb : Canonical.fieldBlock { r with fields := fs } time hash p.signedNames =
        Canonical.fieldBlock r time hash p.signedNames := by
      refine Canonical.fieldBlock_congr fun name hn => ?_
      by_cases ha : name = SigningField.authorization
      · subst ha
        rw [role_authorization]
        exact he hn
      · exact hothers name hn ha
    rw [hblock', hblock] at hb
    rw [Except.ok.inj hb]

end CanonicalRequest

/-! ## 3. Signing again -/

namespace Profile

variable {p : Profile} {head signed : Head} {payload : Option Payload}

/-- A head that is written with another line is the same exactly where the bytes of the line are. -/
theorem writeFields_eq_iff (head : Head) {s s' : Signature} {line line' : FieldValue}
    (hl : p.credentialField s = .ok line) (hl' : p.credentialField s' = .ok line')
    (hash : Option FieldValue) :
    ({ head with fields := writeFields head.fields hash line' } : Head) =
        { head with fields := writeFields head.fields hash line } ↔
      line.bytes = Utf8.bytes (p.credentialLine s') := by
  obtain ⟨hs, -⟩ := credentialField_spec hl
  obtain ⟨hs', hb'⟩ := credentialField_spec hl'
  constructor
  · intro he
    have hv : [line'] = [line] := by
      have := congrArg (fun h : Head => h.fields.values SigningField.authorization) he
      rwa [values_authorization_writeFields, values_authorization_writeFields] at this
    rw [← (List.cons.inj hv).1]
    exact hb'
  · intro hb
    rw [FieldValue.eq_of_bytes_eq (hb'.trans hb.symm) (hs'.trans hs.symm)]

/-- The value of `authorization` in the canonical request of a signed head. -/
theorem exists_plainValue_of_credentialField {r : Request} {s : Signature} {line : FieldValue}
    (hl : p.credentialField s = .ok line)
    (hv : r.fields.values SigningField.authorization = [line]) :
    ∃ value, r.plainValue SigningField.authorization = .ok value := by
  have ht : Request.textOf line = .ok (p.credentialLine s) := by
    unfold Request.textOf FieldValue.text
    rw [(credentialField_spec hl).2, Utf8.decode_bytes]
    rfl
  unfold Request.plainValue
  rw [hv, List.mapM_cons, ht]
  exact ⟨_, rfl⟩

/-- What a second signing makes of a signed head. Here `r` is the request of the head before it was
    signed at all, and `r'` the request of the signed head. -/
structure SignedAgain (p : Profile) (r r' : Request) (signed again : Head) : Prop where
  method : again.method = signed.method
  uri : again.uri = signed.uri
  /-- Nothing but the credential line is another. -/
  others : ∀ name, name ≠ SigningField.authorization →
    again.fields.values name = signed.fields.values name
  /-- The credential line is the same exactly where the one that was found is the one of `r'`. -/
  unchanged_iff : again = signed ↔ ∃ line v, p.authorization r' = .ok line ∧
    signed.fields.values SigningField.authorization = [v] ∧ v.bytes = Utf8.bytes line
  /-- The same is signed exactly where the credential line is not read back, or reads as what stood
      in its place. -/
  canonical_iff : p.canonicalRequest r' = p.canonicalRequest r ↔
    (SigningField.authorization ∈ p.signedNames →
      r'.plainValue SigningField.authorization = r.plainValue SigningField.authorization)
  /-- Where the same is signed, nothing is another. -/
  unchanged : p.canonicalRequest r' = p.canonicalRequest r → again = signed

/-- **A signed head can be signed again.** -/
theorem signHead_again (h : p.signHead head payload = .ok signed) :
    ∃ r r' again, Request.ofHead head payload = .ok r ∧ Request.ofHead signed payload = .ok r' ∧
      p.signHead signed payload = .ok again ∧ SignedAgain p r r' signed again := by
  obtain ⟨r, s, line, hash, hr, hs, hl, hh, rfl⟩ := signHead_eq_ok_iff.1 h
  obtain ⟨time, text, c, ht, htext, hc, rfl⟩ := sign_eq_ok_iff.1 hs
  obtain ⟨hfields, hwritten⟩ := Request.ofHead_fields hr
  have hr' := hwritten (writeFields head.fields hash line)
  have hagree : r.fields.AgreeButWritten (writeFields head.fields hash line) := by
    intro name ha hp
    rw [hfields]
    exact values_writeFields_of_ne_of_ne _ _ _ ha hp
  have hfound := values_authorization_writeFields head.fields hash line
  -- the second run reads the same time and hash, and comes to a canonical request of its own
  obtain ⟨c', hc', hsame⟩ := CanonicalRequest.build_of_agree hagree hc
    (exists_plainValue_of_credentialField hl hfound)
  have ht' := (Request.signingTime_of_agree hagree).trans ht
  have hs' := sign_eq_ok_iff.2 ⟨time, text, c', ht', htext, hc', rfl⟩
  -- both lines are the same before the signature
  have hstem := exists_credentialField_iff.1 ⟨line, hl⟩
  have hscope : (p.preparedOf time text c').scope = (p.preparedOf time text c).scope := rfl
  rw [← hscope] at hstem
  obtain ⟨line', hl'⟩ := exists_credentialField_iff.2 hstem
  have hagain := signHead_eq_ok_iff.2 ⟨_, _, line', hash, hr', hs', hl', hh, rfl⟩
  rw [writeFields_writeFields] at hagain
  have hcanonical := canonicalRequest_eq_ok_iff.2 ⟨time, text, ht, htext, hc⟩
  have hcanonical' := canonicalRequest_eq_ok_iff.2 ⟨time, text, ht', htext, hc'⟩
  refine ⟨r, _, _, hr, hr', hagain, rfl, rfl, ?_, ?_, ?_, ?_⟩
  · intro name hn
    exact (values_writeFields_of_ne _ _ _ hn).trans (values_writeFields_of_ne _ _ _ hn).symm
  · have hline' : p.authorization { r with fields := writeFields head.fields hash line } =
        .ok (p.credentialLine (p.signatureOf (p.preparedOf time text c'))) := by
      unfold authorization
      rw [hs']
      rfl
    refine (writeFields_eq_iff head hl hl' hash).trans ?_
    constructor
    · exact fun hb => ⟨_, line, hline', hfound, hb⟩
    · intro h
      obtain ⟨text', v, htext', hv, hbytes⟩ := h
      have hvalue : v = line := (List.cons.inj (hv.symm.trans hfound)).1
      rw [hvalue, Except.ok.inj (htext'.symm.trans hline')] at hbytes
      exact hbytes
  · rw [hcanonical, hcanonical', Except.ok.injEq]
    exact hsame
  · intro he
    rw [hcanonical, hcanonical', Except.ok.injEq] at he
    subst he
    rw [Except.ok.inj (hl'.symm.trans hl)]

/-- **Signing in place can be done again**, and changes the credential line at most: not at all
    where the one that was found is the one of the signed head, and so where `authorization` is not
    signed. -/
theorem signInPlace_again (h : p.signInPlace head payload = (.ok (), signed)) :
    ∃ r r' again, Request.ofHead head payload = .ok r ∧ Request.ofHead signed payload = .ok r' ∧
      p.signInPlace signed payload = (.ok (), again) ∧ SignedAgain p r r' signed again ∧
      (SigningField.authorization ∉ p.signedNames → again = signed) := by
  obtain ⟨r, r', again, hr, hr', ha, hs⟩ := signHead_again (signInPlace_eq_ok_iff.1 h)
  refine ⟨r, r', again, hr, hr', signInPlace_eq_ok_iff.2 ha, hs, fun hn => ?_⟩
  exact hs.unchanged (hs.canonical_iff.2 fun hm => absurd hm hn)

/-- A profile that does not sign `authorization`, and a head that is signed with its hash. -/
theorem signInPlace_again_included :
    let p := Trial.profile "region" Trial.originAndTime .included
    let head := Trial.head [Trial.timeField]
    let payload := some (Payload.ofData [])
    let signed := (p.signInPlace head payload).2
    ∃ r r' again, Request.ofHead head payload = .ok r ∧ Request.ofHead signed payload = .ok r' ∧
      p.signInPlace signed payload = (.ok (), again) ∧ SignedAgain p r r' signed again ∧
      (SigningField.authorization ∉ p.signedNames → again = signed) := by
  intro p head payload signed
  have hc : p.canonicalRequest (Trial.request [Trial.timeField]) =
      .ok ⟨"GET", "/", "", "origin:\nx-amz-date:20150830T123600Z\n", "origin;x-amz-date",
        hexSha256 []⟩ := by decide +kernel
  obtain ⟨after, ha⟩ : ∃ after, p.signHead head payload = .ok after :=
    exists_signHead (Trial.ofMessage_head _) hc (by decide) (by decide) (by decide) (by decide)
  have h : p.signInPlace head payload = (.ok (), signed) := by
    rw [show signed = after from congrArg Prod.snd (signInPlace_eq_ok_iff.2 ha)]
    exact signInPlace_eq_ok_iff.2 ha
  exact signInPlace_again h

/-- A profile that signs the field that signing writes. -/
def selfSigning : Profile := Trial.profile "r" ⟨[SigningField.authorization], by decide⟩ .unsigned

/-- The head that this profile makes of one with the time alone. -/
def selfSigned : Head :=
  Trial.head [Trial.timeField, Trial.field SigningField.payloadHash unsignedPayload,
    (SigningField.authorization, ⟨Utf8.bytes (selfSigning.credentialLine
      ⟨"624374d837f4502561366ba8f7ceb1b0f4c6597064814f9d72464d19c733bdea", Trial.time,
        "20150830/r/s/aws4_request", unsignedPayload⟩), true, by decide +kernel⟩)]

/-- Where `authorization` is signed, signing a signed head may change the credential line. -/
theorem signInPlace_not_idempotent :
    ¬ ∀ (p : Profile) (head signed : Head) (payload : Option Payload),
      p.signInPlace head payload = (.ok (), signed) →
        p.signInPlace signed payload = (.ok (), signed) := by
  intro h
  have hsigned : selfSigning.signInPlace (Trial.head [Trial.timeField]) none =
      (.ok (), selfSigned) := by decide +kernel
  have hagain : selfSigning.signInPlace selfSigned none ≠ (.ok (), selfSigned) := by
    decide +kernel
  exact hagain (h _ _ _ _ hsigned)

end Profile

end Countersign
