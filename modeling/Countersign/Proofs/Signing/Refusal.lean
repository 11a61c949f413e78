import Countersign.Proofs.Canonical.Faults
import Countersign.Proofs.Http.Alphabet
import Countersign.Proofs.Signing.Stages

/-!
# When signing is refused

Signing looks at the time first, then at the payload, then at what it reads into the canonical
request. `Profile.refusal?` says with which kind of fault a request is refused, by what its bytes
are and by nothing that signing computes.

* `Request.failsIff_signingTime`, `Request.failsIff_payloadHash` -- the first two looks;
* `Profile.cannotRead_iff` -- the third one;
* `Profile.sign_refused_iff` -- signing fails exactly where a request is to be refused, with that
  kind, and signs all others.
-/

namespace Countersign

open Countersign.Text Countersign.Calendar Countersign.Http

/-! ## 1. The time and the payload -/

/-- The value shows in ASCII, and its text without the blanks around it is a timestamp. -/
def Http.FieldValue.IsTimestamp (v : FieldValue) : Prop :=
  v.bytes.all FieldValue.isVisibleByte = true ∧
    ∃ s, v.bytes = Utf8.bytes s ∧ Timestamp.parse? (String.ofList (trim s.toList)) ≠ none

instance (v : FieldValue) : Decidable v.IsTimestamp := by
  unfold FieldValue.IsTimestamp
  infer_instance

namespace Request

/-- The first value of the field with the time is no timestamp. -/
def HasBadTime (r : Request) : Prop :=
  ∃ v, r.fields.get? SigningField.time = some v ∧ ¬ v.IsTimestamp

instance (r : Request) : Decidable r.HasBadTime := by
  unfold HasBadTime
  infer_instance

theorem failsIff_timestamp (s : String) : Fallible.FailsIff .malformedTimestamp
    (Timestamp.parse? s = none) (Read.timestamp s) := by
  unfold Read.timestamp
  cases Timestamp.parse? s with
  | none => exact ⟨fun _ => ⟨.notTimestamp s, rfl, rfl⟩, fun hn => absurd rfl hn⟩
  | some time => exact (Fallible.FailsIff.ok time).congr ⟨nofun, False.elim⟩

theorem signingTime_of_get?_eq_none {r : Request} (h : r.fields.get? SigningField.time = none) :
    r.signingTime = .error (.noTimestamp SigningField.time.text) := by
  unfold signingTime
  rw [h]

theorem failsIff_signingTime {r : Request} (h : r.fields.get? SigningField.time ≠ none) :
    Fallible.FailsIff .malformedTimestamp r.HasBadTime r.signingTime := by
  obtain ⟨v, hv⟩ := Option.ne_none_iff_exists'.1 h
  have hbad : r.HasBadTime ↔ ¬ v.IsTimestamp :=
    ⟨fun ⟨w, hw, hn⟩ => Option.some.inj (hw.symm.trans hv) ▸ hn, fun hn => ⟨v, hv, hn⟩⟩
  unfold signingTime
  rw [hv]
  dsimp only
  cases hs : v.visibleText? with
  | none =>
    refine ⟨fun _ => ⟨.unreadableTimestamp _, rfl, rfl⟩, fun hgood => ?_⟩
    obtain ⟨hall, s, hbytes, -⟩ := Classical.not_not.1 (mt hbad.2 hgood)
    cases hs.symm.trans (FieldValue.visibleText?_eq_some_iff.2 ⟨hall, hbytes⟩)
  | some s =>
    obtain ⟨hall, hbytes⟩ := FieldValue.visibleText?_eq_some_iff.1 hs
    have hparsed : v.IsTimestamp ↔ Timestamp.parse? (String.ofList (trim s.toList)) ≠ none := by
      constructor
      · rintro ⟨-, t, ht, hp⟩
        rwa [Utf8.bytes_injective (hbytes.symm.trans ht)]
      · exact fun hp => ⟨hall, s, hbytes, hp⟩
    exact (failsIff_timestamp _).congr (hbad.trans ((not_congr hparsed).trans Classical.not_not))

theorem failsIff_payloadHash (r : Request) (mode : PayloadMode) : Fallible.FailsIff .missingPayload
    (mode ≠ .unsigned ∧ r.payload = none) (r.payloadHash mode) := by
  cases mode with
  | unsigned => exact (Fallible.FailsIff.ok _).congr ⟨fun h => h.1 rfl, False.elim⟩
  | included | excluded =>
    unfold payloadHash
    cases hp : r.payload with
    | none => exact ⟨fun _ => ⟨.noPayload, rfl, rfl⟩, fun h => absurd ⟨nofun, rfl⟩ h⟩
    | some payload => exact (Fallible.FailsIff.ok _).congr ⟨fun h => (nomatch h.2), False.elim⟩

end Request

namespace Profile

/-! ## 2. What is read into the canonical request -/

/-- Something that the profile signs cannot be read from the request. -/
def CannotRead (p : Profile) (r : Request) : Prop :=
  (p.doubleEncodePath = true ∧
    ∃ segment ∈ Canonical.segments r.path.toList, Canonical.IsBadSegment segment) ∨
  (SigningField.contentType ∈ p.signedNames ∧ r.HasBadContentType) ∨
  ∃ name ∈ p.signedNames, name ≠ SigningField.host ∧ name ≠ SigningField.contentType ∧
    name ≠ SigningField.payloadHash ∧ name ≠ SigningField.time ∧ r.HasBadValue name

instance (p : Profile) (r : Request) : Decidable (p.CannotRead r) := by
  unfold CannotRead
  infer_instance

theorem cannotRead_iff {p : Profile} {r : Request} : p.CannotRead r ↔
    (p.doubleEncodePath = true ∧
      ∃ segment ∈ Canonical.segments r.path.toList, Canonical.IsBadSegment segment) ∨
    ∃ name ∈ p.signedNames, r.LacksValue name := by
  unfold CannotRead Request.LacksValue
  refine or_congr_right ?_
  constructor
  · rintro (⟨hn, hbad⟩ | ⟨name, hn, hplain⟩)
    · exact ⟨_, hn, Or.inl ⟨rfl, hbad⟩⟩
    · exact ⟨name, hn, Or.inr hplain⟩
  · rintro ⟨name, hn, ⟨rfl, hbad⟩ | hplain⟩
    · exact Or.inl ⟨hn, hbad⟩
    · exact Or.inr ⟨name, hn, hplain⟩

/-! ## 3. The verdict -/

/-- The kind of the fault with which the request is to be refused; none where it is to be signed. -/
def refusal? (p : Profile) (r : Request) : Option Kind :=
  if r.fields.get? SigningField.time = none then some .missingTimestamp
  else if r.HasBadTime then some .malformedTimestamp
  else if p.payloadMode ≠ .unsigned ∧ r.payload = none then some .missingPayload
  else if p.CannotRead r then some .invalidRequest
  else none

/-- What signing comes to is what the verdict says. -/
theorem refusal?_eq (p : Profile) (r : Request) :
    p.refusal? r = Fallible.kindOf? (p.sign r) := by
  have refused : ∀ {fault : Fault}, p.prepare r = .error fault →
      Fallible.kindOf? (p.sign r) = some fault.kind := fun h =>
    Fallible.kindOf?_eq_some_iff.2 ⟨_, sign_eq_error_iff.2 h, rfl⟩
  unfold refusal?
  split
  · rename_i hnone
    exact (refused (prepare_eq_error_iff.2
      (Or.inl (Request.signingTime_of_get?_eq_none hnone)))).symm
  rename_i hsome
  have htime := Request.failsIff_signingTime hsome
  split
  · rename_i hbad
    obtain ⟨fault, hf, hk⟩ := htime.fails hbad
    rw [refused (prepare_eq_error_iff.2 (Or.inl hf)), hk]
  rename_i hgood
  obtain ⟨time, ht⟩ := htime.succeeds hgood
  have hpayload := r.failsIff_payloadHash p.payloadMode
  split
  · rename_i hbad
    obtain ⟨fault, hf, hk⟩ := hpayload.fails hbad
    rw [refused (prepare_eq_error_iff.2 (Or.inr ⟨time, ht, Or.inl hf⟩)), hk]
  rename_i hthere
  obtain ⟨hash, hh⟩ := hpayload.succeeds hthere
  have hbuild := (CanonicalRequest.failsIff_build p r time hash).congr cannotRead_iff
  split
  · rename_i hbad
    obtain ⟨fault, hf, hk⟩ := hbuild.fails hbad
    rw [refused (prepare_eq_error_iff.2 (Or.inr ⟨time, ht, Or.inr ⟨hash, hh, hf⟩⟩)), hk]
  · rename_i hread
    obtain ⟨c, hc⟩ := hbuild.succeeds hread
    have hs : p.sign r = .ok (p.signatureOf (p.preparedOf time hash c)) :=
      sign_eq_ok_iff.2 ⟨time, hash, c, ht, hh, hc, rfl⟩
    exact (Fallible.kindOf?_eq_none_iff.2 ⟨_, hs⟩).symm

/-- The kinds of faults that a request is refused with. -/
def refusals : List Kind :=
  [.missingTimestamp, .malformedTimestamp, .missingPayload, .invalidRequest]

theorem mem_refusals {p : Profile} {r : Request} {kind : Kind} (h : p.refusal? r = some kind) :
    kind ∈ refusals := by
  unfold refusal? at h
  -- four of the branches refuse, and the last one does not
  repeat' split at h
  all_goals cases h
  all_goals decide

/-- **Signing fails exactly where a request is to be refused, and with that kind.** All others are
    signed, and there are four kinds of faults and no more. -/
theorem sign_refused_iff (p : Profile) (r : Request) :
    (∀ kind, (∃ fault, p.sign r = .error fault ∧ fault.kind = kind) ↔ p.refusal? r = some kind) ∧
      ((∃ s, p.sign r = .ok s) ↔ p.refusal? r = none) ∧
      ∀ fault, p.sign r = .error fault → fault.kind ∈ refusals := by
  have hverdict := p.refusal?_eq r
  refine ⟨fun kind => ?_, ?_, fun fault hf => ?_⟩
  · rw [hverdict, Fallible.kindOf?_eq_some_iff]
  · rw [hverdict, Fallible.kindOf?_eq_none_iff]
  · exact mem_refusals (hverdict.trans (Fallible.kindOf?_eq_some_iff.2 ⟨fault, hf, rfl⟩))

/-- A request that is signed, and one that is not: its path holds a byte that begins no
    character. -/
theorem sign_refused_iff_brokenSegment :
    let p := Trial.profile "region" Trial.originAndTime .included
    let r := Trial.request [Trial.timeField]
    (∃ s, p.sign r = .ok s) ∧
      ∃ fault, p.sign { r with path := "/%FF" } = .error fault ∧ fault.kind = .invalidRequest := by
  intro p r
  have hgood : p.refusal? r = none := by decide +kernel
  have hbad : p.refusal? { r with path := "/%FF" } = some .invalidRequest := by decide +kernel
  exact ⟨(sign_refused_iff p r).2.1.2 hgood, ((sign_refused_iff p _).1 _).2 hbad⟩

/-- The time is looked at before the payload. -/
example : (Trial.profile "region" Trial.originAndTime .included).refusal?
    { Trial.request [Trial.field SigningField.time "now"] with payload := none } =
      some .malformedTimestamp := by decide +kernel

end Profile

end Countersign
