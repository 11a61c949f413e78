import Countersign.Proofs.Signing.InPlace

/-!
# Signing in place writes the line that can be asked for

The credential line of a request can be asked for, and signing a head in place writes one among its
fields. It is the same line, and what keeps the one from being made keeps the other. In one case
there is a line and it cannot be written: a part that the profile brings along holds a control
character.

* `Sendable` -- no such part does;
* `exists_credentialField_iff_sendable` -- nothing else in a credential line needs to be looked at;
* `Writes` -- the outcome of signing a head, seen beside the line of its request;
* `signInPlace_writes` -- this is how every head is signed.
-/

namespace Countersign.Profile

open Countersign.Text Countersign.Http

variable {p : Profile} {head signed : Head} {payload : Option Payload} {r : Request}

/-! ## 1. Lines that can be sent -/

/-- The parts of the credential line that come from the profile hold no control character but the
    tab. -/
def Sendable (p : Profile) : Prop :=
  ∀ s ∈ [p.algorithm, p.accessKeyId, p.region, p.service],
    ∀ c ∈ s.toList, isControl c = true → c = '\t'

theorem sendable_iff : p.Sendable ↔ IsValueText p.algorithm ∧ IsValueText p.accessKeyId ∧
    IsValueText p.region ∧ IsValueText p.service := by
  unfold Sendable
  simp only [← isValueText_iff, List.forall_mem_cons]
  simp only [List.not_mem_nil, false_implies, implies_true, and_true]

instance (p : Profile) : Decidable p.Sendable := decidable_of_iff _ sendable_iff.symm

/-- **A credential line can be sent exactly when the parts can that come from the profile.** Date,
    names and signature always can. -/
theorem exists_credentialField_iff_sendable {s : Signature} (h : p.sign r = .ok s) :
    (∃ line, p.credentialField s = .ok line) ↔ p.Sendable := by
  obtain ⟨time, hash, c, -, -, -, rfl⟩ := sign_eq_ok_iff.1 h
  rw [exists_credentialField_iff, isValueText_credentialStem_iff, sendable_iff]
  exact and_congr_right fun _ => and_congr_right fun _ => isValueText_credentialScope_iff

/-- There are profiles whose lines cannot be sent. -/
example : ¬ (Trial.profile "one\ntwo" Trial.originAndTime .included).Sendable := by decide

theorem eq_badAuthorization_of_credentialField {s : Signature} {fault : Fault}
    (h : p.credentialField s = .error fault) : fault = .badAuthorization := by
  unfold credentialField at h
  split at h
  · exact (Except.error.inj h).symm
  · cases h

/-! ## 2. The signed head and the line -/

/-- The outcome of signing `head` is the one that the line of its request tells: `line` is this line
    or the fault in place of it. -/
structure Writes (p : Profile) (head : Head) (line : Except Fault String)
    (outcome : Except Fault Unit × Head) : Prop where
  succeeds_iff : outcome.1 = .ok () ↔ (∃ text, line = .ok text) ∧ p.Sendable
  /-- What is written is the line, once. -/
  written : outcome.1 = .ok () → ∃ text v, line = .ok text ∧
    outcome.2.fields.values SigningField.authorization = [v] ∧ v.bytes = Utf8.bytes text
  /-- A line that cannot be written is an unexpected fault. -/
  unsendable : ∀ text, line = .ok text → ¬ p.Sendable →
    ∃ fault, outcome = (.error fault, head) ∧ fault.kind = .unexpected
  /-- The fault in place of the line is the fault of signing. -/
  refused : ∀ fault, line = .error fault → outcome = (.error fault, head)

/-- The line of the request that a head and a payload make. -/
def lineOfHead (p : Profile) (head : Head) (payload : Option Payload) : Except Fault String := do
  let request ← Request.ofHead head payload
  p.authorization request

theorem signHead_eq_error_of_lineOfHead {fault : Fault}
    (h : p.lineOfHead head payload = .error fault) : p.signHead head payload = .error fault := by
  rcases Fallible.bind_eq_error_iff.1 h with hr | ⟨r, hr, ha⟩
  · exact signHead_eq_error_iff.2 (Or.inl hr)
  · exact signHead_eq_error_iff.2 (Or.inr ⟨r, hr, Or.inl (Fallible.map_eq_error_iff.1 ha)⟩)

/-- Where there is a line, the head has been made a request and the request has a signature. -/
theorem lineOfHead_eq_ok_iff {text : String} : p.lineOfHead head payload = .ok text ↔
    ∃ r s, Request.ofHead head payload = .ok r ∧ p.sign r = .ok s ∧ p.credentialLine s = text := by
  unfold lineOfHead
  rw [Fallible.bind_eq_ok_iff]
  constructor
  · rintro ⟨r, hr, ha⟩
    obtain ⟨s, hs, ht⟩ := Fallible.map_eq_ok_iff.1 ha
    exact ⟨r, s, hr, hs, ht⟩
  · rintro ⟨r, s, hr, hs, ht⟩
    exact ⟨r, hr, Fallible.map_eq_ok_iff.2 ⟨s, hs, ht⟩⟩

theorem signHead_eq_error_of_not_sendable {text : String}
    (h : p.lineOfHead head payload = .ok text) (hn : ¬ p.Sendable) :
    p.signHead head payload = .error .badAuthorization := by
  obtain ⟨r, s, hr, hs, -⟩ := lineOfHead_eq_ok_iff.1 h
  have hfield : p.credentialField s = .error .badAuthorization := by
    cases hf : p.credentialField s with
    | error fault => rw [eq_badAuthorization_of_credentialField hf]
    | ok line => exact absurd ((exists_credentialField_iff_sendable hs).1 ⟨line, hf⟩) hn
  exact signHead_eq_error_iff.2 (Or.inr ⟨r, hr, Or.inr ⟨s, hs, Or.inl hfield⟩⟩)

theorem exists_signHead_of_sendable {text : String}
    (h : p.lineOfHead head payload = .ok text) (hsend : p.Sendable) :
    ∃ signed, p.signHead head payload = .ok signed := by
  obtain ⟨r, s, hr, hs, -⟩ := lineOfHead_eq_ok_iff.1 h
  obtain ⟨time, hash, c, ht, hh, hc, -⟩ := sign_eq_ok_iff.1 hs
  obtain ⟨halgorithm, hkey, hregion, hservice⟩ := sendable_iff.1 hsend
  exact exists_signHead hr (canonicalRequest_eq_ok_iff.2 ⟨time, hash, ht, hh, hc⟩) halgorithm hkey
    hregion hservice

theorem values_authorization_of_signHead (h : p.signHead head payload = .ok signed) :
    ∃ text v, p.lineOfHead head payload = .ok text ∧
      signed.fields.values SigningField.authorization = [v] ∧ v.bytes = Utf8.bytes text := by
  obtain ⟨r, hr, hsigned⟩ := signedFrom_of_signHead h
  obtain ⟨text, v, ha, hv, hbytes, -⟩ := hsigned.authorization
  exact ⟨text, v, Fallible.bind_eq_ok_iff.2 ⟨r, hr, ha⟩, hv, hbytes⟩

theorem writes_lineOfHead (p : Profile) (head : Head) (payload : Option Payload) :
    Writes p head (p.lineOfHead head payload) (p.signInPlace head payload) := by
  rw [signInPlace_eq]
  cases hl : p.lineOfHead head payload with
  | error fault =>
    rw [signHead_eq_error_of_lineOfHead hl]
    refine ⟨⟨nofun, fun h => ?_⟩, nofun, nofun, fun found hf => ?_⟩
    · obtain ⟨⟨text, ht⟩, -⟩ := h
      cases ht
    · rw [Except.error.inj hf]
      rfl
  | ok text =>
    by_cases hsend : p.Sendable
    · obtain ⟨signed, hs⟩ := exists_signHead_of_sendable hl hsend
      rw [hs]
      refine ⟨⟨fun _ => ⟨⟨text, rfl⟩, hsend⟩, fun _ => rfl⟩, fun _ => ?_, ?_, nofun⟩
      · rw [← hl]
        exact values_authorization_of_signHead hs
      · exact fun _ _ hn => absurd hsend hn
    · rw [signHead_eq_error_of_not_sendable hl hsend]
      refine ⟨⟨nofun, fun h => absurd h.2 hsend⟩, nofun, fun _ _ _ => ?_, nofun⟩
      exact ⟨.badAuthorization, rfl, rfl⟩

/-- **Signing in place writes the line of the request, or fails where there is none or where it
    cannot be sent.** So it does for a message whose body is at hand. -/
theorem signInPlace_writes (p : Profile) (head : Head) :
    (∀ payload, Writes p head (Request.ofHead head payload >>= p.authorization)
        (p.signInPlace head payload)) ∧
      ∀ body, Writes p head (Request.ofMessage head body >>= p.authorization)
        (p.signInPlace head (some (.ofData body))) :=
  ⟨fun payload => writes_lineOfHead p head payload,
    fun body => writes_lineOfHead p head (some (.ofData body))⟩

end Countersign.Profile
