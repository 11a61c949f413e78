import Countersign.Proofs.Signing.Sending

/-!
# Signing in place, all or nothing

Signing a head in place changes it twice at most, and not before the last step that may fail. So a
head is left as it was, or it has all that signing adds.

* `allOrNothing` -- the outcome of work that makes a new head or leaves the old one;
* `Editing.run_lift` -- a step that may fail, and does not touch the head, keeps work of that kind;
* `signInPlace_eq` -- signing is of that kind, the new head being the one of `signHead`;
* `SignedFrom` -- what a signed head has of the head before, and what it has not;
* `signInPlace_atomic` -- the outcome of signing any head.
-/

namespace Countersign.Profile

open Countersign.Text Countersign.Calendar Countersign.Http

/-! ## 1. Work that is done as a whole or not at all -/

/-- The outcome of work on a head that makes a new head or fails: the new head, or the one before
    and the fault. -/
def allOrNothing (before : Head) : Except Fault Head → Except Fault Unit × Head
  | .ok after => (.ok (), after)
  | .error fault => (.error fault, before)

namespace Editing

/-- A step that does not touch the head keeps what follows it all or nothing. -/
theorem run_lift {α : Type} {x : Except Fault α} {f : α → Editing Unit} {g : α → Except Fault Head}
    {head : Head} (h : ∀ a, (f a).run.run head = allOrNothing head (g a)) :
    (do let a ← x; f a : Editing Unit).run.run head = allOrNothing head (x >>= g) := by
  cases x with
  | error fault => rfl
  | ok a => exact h a

theorem run_get (f : Head → Editing Unit) (head : Head) :
    (do let h ← get; f h : Editing Unit).run.run head = (f head).run.run head := rfl

/-- Putting a field in never fails. -/
theorem run_putField (name : FieldName) (value : FieldValue) (head : Head) :
    (putField name value).run.run head =
      (.ok (), { head with fields := head.fields.insert name value }) := rfl

theorem run_putHashField (hash : Option FieldValue) (f : Editing Unit) (head : Head) :
    (do putHashField hash; f : Editing Unit).run.run head =
      f.run.run { head with fields := putHash head.fields hash } := by
  cases hash <;> rfl

end Editing

/-- **The head afterwards is the signed one, or the one before.** -/
theorem signInPlace_eq (p : Profile) (head : Head) (payload : Option Payload) :
    p.signInPlace head payload = allOrNothing head (p.signHead head payload) := by
  unfold signInPlace signing signHead
  rw [Editing.run_get]
  -- the four steps that may fail come first
  refine Editing.run_lift fun request => Editing.run_lift fun signature =>
    Editing.run_lift fun line => Editing.run_lift fun hash => ?_
  rw [Editing.run_putHashField, Editing.run_putField]
  rfl

theorem signInPlace_eq_ok_iff {p : Profile} {head signed : Head} {payload : Option Payload} :
    p.signInPlace head payload = (.ok (), signed) ↔ p.signHead head payload = .ok signed := by
  rw [signInPlace_eq]
  cases p.signHead head payload with
  | error fault => exact ⟨nofun, nofun⟩
  | ok after =>
    constructor
    · intro h
      rw [(Prod.mk.inj h).2]
    · intro h
      rw [Except.ok.inj h]
      rfl

/-! ## 2. The fields that signing adds -/

variable {p : Profile} {head signed : Head} {payload : Option Payload}

/-- The fields with what signing adds. -/
def writeFields (fields : Fields) (hash : Option FieldValue) (line : FieldValue) : Fields :=
  (putHash fields hash).insert SigningField.authorization line

theorem signHead_eq_ok_iff : p.signHead head payload = .ok signed ↔
    ∃ r s line hash, Request.ofHead head payload = .ok r ∧ p.sign r = .ok s ∧
      p.credentialField s = .ok line ∧ hashField p.payloadMode s.payloadHash = .ok hash ∧
      signed = { head with fields := writeFields head.fields hash line } := by
  unfold signHead
  rw [Fallible.bind_eq_ok_iff]
  constructor
  · intro h
    obtain ⟨r, hr, h⟩ := h
    obtain ⟨s, hs, h⟩ := Fallible.bind_eq_ok_iff.1 h
    obtain ⟨line, hl, h⟩ := Fallible.bind_eq_ok_iff.1 h
    obtain ⟨hash, hh, h⟩ := Fallible.bind_eq_ok_iff.1 h
    exact ⟨r, s, line, hash, hr, hs, hl, hh, (Except.ok.inj h).symm⟩
  · intro h
    obtain ⟨r, s, line, hash, hr, hs, hl, hh, rfl⟩ := h
    refine ⟨r, hr, Fallible.bind_eq_ok_iff.2 ⟨s, hs, Fallible.bind_eq_ok_iff.2 ⟨line, hl, ?_⟩⟩⟩
    exact Fallible.bind_eq_ok_iff.2 ⟨hash, hh, rfl⟩

/-- The steps are taken in this order, and the first fault among them is the fault of signing. -/
theorem signHead_eq_error_iff {fault : Fault} : p.signHead head payload = .error fault ↔
    Request.ofHead head payload = .error fault ∨ ∃ r, Request.ofHead head payload = .ok r ∧
      (p.sign r = .error fault ∨ ∃ s, p.sign r = .ok s ∧
        (p.credentialField s = .error fault ∨ ∃ line, p.credentialField s = .ok line ∧
          hashField p.payloadMode s.payloadHash = .error fault)) := by
  unfold signHead
  rw [Fallible.bind_eq_error_iff]
  refine or_congr_right (exists_congr fun r => and_congr_right fun _ => ?_)
  rw [Fallible.bind_eq_error_iff]
  refine or_congr_right (exists_congr fun s => and_congr_right fun _ => ?_)
  rw [Fallible.bind_eq_error_iff]
  refine or_congr_right (exists_congr fun line => and_congr_right fun _ => ?_)
  rw [Fallible.bind_eq_error_iff]
  exact or_iff_left fun ⟨_, _, h⟩ => nomatch h

/-- A head is signed where its request has a canonical request and the parts of the credential line
    can be sent. -/
theorem exists_signHead {r : Request} {c : CanonicalRequest}
    (hr : Request.ofHead head payload = .ok r) (hc : p.canonicalRequest r = .ok c)
    (halgorithm : IsValueText p.algorithm) (hkey : IsValueText p.accessKeyId)
    (hregion : IsValueText p.region) (hservice : IsValueText p.service) :
    ∃ signed, p.signHead head payload = .ok signed := by
  obtain ⟨time, text, ht, htext, hb⟩ := canonicalRequest_eq_ok_iff.1 hc
  have hs := sign_eq_ok_iff.2 ⟨time, text, c, ht, htext, hb, rfl⟩
  have hscope : IsValueText (p.preparedOf time text c).scope :=
    isValueText_credentialScope_iff.2 ⟨hregion, hservice⟩
  obtain ⟨line, hl⟩ := exists_credentialField_iff.2
    (isValueText_credentialStem_iff.2 ⟨halgorithm, hkey, hscope⟩)
  obtain ⟨hash, hh⟩ := exists_hashField htext
  exact ⟨_, signHead_eq_ok_iff.2 ⟨r, _, line, hash, hr, hs, hl, hh, rfl⟩⟩

section Values

variable (fields : Fields) (hash : Option FieldValue) (line v : FieldValue)

theorem values_authorization_writeFields :
    (writeFields fields hash line).values SigningField.authorization = [line] :=
  Fields.values_insert_self _ _ _

theorem values_writeFields_of_ne {name : FieldName} (h : name ≠ SigningField.authorization) :
    (writeFields fields hash line).values name = (putHash fields hash).values name :=
  Fields.values_insert_of_ne _ _ h

theorem values_payloadHash_writeFields_some :
    (writeFields fields (some v) line).values SigningField.payloadHash = [v] := by
  rw [values_writeFields_of_ne _ _ _ (by decide)]
  exact Fields.values_insert_self _ _ _

theorem values_payloadHash_writeFields_none :
    (writeFields fields none line).values SigningField.payloadHash =
      fields.values SigningField.payloadHash :=
  values_writeFields_of_ne _ _ _ (by decide)

/-- The values of a name that signing does not write stay. -/
theorem values_writeFields_of_ne_of_ne {name : FieldName} (ha : name ≠ SigningField.authorization)
    (hp : name ≠ SigningField.payloadHash) :
    (writeFields fields hash line).values name = fields.values name := by
  rw [values_writeFields_of_ne _ _ _ ha]
  cases hash with
  | none => rfl
  | some v => exact Fields.values_insert_of_ne fields v hp

end Values

/-! ## 3. The outcome of signing a head -/

/-- What `signed` has of the head before it was signed, and what it has of the request `r` that this
    head made. -/
structure SignedFrom (p : Profile) (r : Request) (head signed : Head) : Prop where
  method : signed.method = head.method
  uri : signed.uri = head.uri
  /-- The credential line of the request is the only one, and is not shown in logs. -/
  authorization : ∃ line v, p.authorization r = .ok line ∧
    signed.fields.values SigningField.authorization = [v] ∧ v.bytes = Utf8.bytes line ∧
    v.sensitive = true
  /-- The hash that was signed is the only one, where it is sent. -/
  payloadHash : p.payloadMode ≠ .excluded → ∃ c v, p.canonicalRequest r = .ok c ∧
    signed.fields.values SigningField.payloadHash = [v] ∧ v.bytes = Utf8.bytes c.payloadHash
  excluded : p.payloadMode = .excluded →
    signed.fields.values SigningField.payloadHash = head.fields.values SigningField.payloadHash
  others : ∀ name, name ≠ SigningField.authorization → name ≠ SigningField.payloadHash →
    signed.fields.values name = head.fields.values name

theorem signedFrom_of_signHead (h : p.signHead head payload = .ok signed) :
    ∃ r, Request.ofHead head payload = .ok r ∧ SignedFrom p r head signed := by
  obtain ⟨r, s, line, hash, hr, hs, hl, hh, rfl⟩ := signHead_eq_ok_iff.1 h
  obtain ⟨time, text, c, ht, htext, hc, rfl⟩ := sign_eq_ok_iff.1 hs
  obtain ⟨hsensitive, hbytes⟩ := credentialField_spec hl
  refine ⟨r, hr, rfl, rfl, ?_, ?_, ?_, ?_⟩
  · refine ⟨_, line, ?_, values_authorization_writeFields _ _ _, hbytes, hsensitive⟩
    unfold authorization
    rw [hs]
    rfl
  · intro hmode
    obtain ⟨hex, -⟩ | ⟨-, v, rfl, hv⟩ := hashField_spec hh
    · exact absurd hex hmode
    · refine ⟨c, v, canonicalRequest_eq_ok_iff.2 ⟨time, text, ht, htext, hc⟩,
        values_payloadHash_writeFields_some _ _ _, ?_⟩
      obtain ⟨path, block, -, -, rfl⟩ := CanonicalRequest.build_eq_ok_iff.1 hc
      exact hv
  · intro hmode
    obtain ⟨-, rfl⟩ | ⟨hin, -⟩ := hashField_spec hh
    · exact values_payloadHash_writeFields_none _ _
    · exact absurd hmode hin
  · exact fun name ha hp => values_writeFields_of_ne_of_ne _ _ _ ha hp

/-- **Signing in place is all or nothing.** A fault, wherever it comes from, leaves the head as it
    was; without one, the head has the credential line and the hash, and all else as before. -/
theorem signInPlace_atomic (p : Profile) (head : Head) (payload : Option Payload) :
    match p.signInPlace head payload with
    | (.error _, after) => after = head
    | (.ok (), after) => ∃ r, Request.ofHead head payload = .ok r ∧ SignedFrom p r head after := by
  rw [signInPlace_eq]
  cases h : p.signHead head payload with
  | error fault => rfl
  | ok signed => exact signedFrom_of_signHead h

end Countersign.Profile
