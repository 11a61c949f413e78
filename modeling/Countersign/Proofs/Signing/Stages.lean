import Countersign.Proofs.Canonical.Block
import Countersign.Signer

/-!
# The stages of signing, one after the other

A request is read for its time, its payload and its canonical request; all that comes later is a
function of these.

* `canonicalRequest_eq_ok_iff`, `prepare_eq_ok_iff` -- when the stages before the secret come to a
  result, and to which;
* `canonicalRequest_eq` -- the canonical request that is shown is the one that is signed;
* `sign_eq`, `authorization_eq` -- the stages behind them never fail on their own;
* `canonicalRequest_congr`, `prepare_congr` -- what two requests must have in common for all stages
  to come to the same;
* `Trial` -- a small profile and a small request, for what is shown of given inputs.
-/

namespace Countersign

open Countersign.Text Countersign.Calendar Countersign.Http

namespace Profile

variable {p : Profile} {r r₁ r₂ : Request}

/-! ## 1. Before the secret -/

theorem canonicalRequest_eq_ok_iff {c : CanonicalRequest} : p.canonicalRequest r = .ok c ↔
    ∃ time hash, r.signingTime = .ok time ∧ r.payloadHash p.payloadMode = .ok hash ∧
      CanonicalRequest.build p r time hash = .ok c := by
  unfold canonicalRequest
  rw [Fallible.bind_eq_ok_iff]
  constructor
  · intro h
    obtain ⟨time, ht, h⟩ := h
    obtain ⟨hash, hh, hc⟩ := Fallible.bind_eq_ok_iff.1 h
    exact ⟨time, hash, ht, hh, hc⟩
  · intro h
    obtain ⟨time, hash, ht, hh, hc⟩ := h
    exact ⟨time, ht, Fallible.bind_eq_ok_iff.2 ⟨hash, hh, hc⟩⟩

/-- What is signed, once time, payload hash and canonical request are there. -/
def preparedOf (p : Profile) (time : Instant) (hash : String) (c : CanonicalRequest) : Prepared :=
  let scope := credentialScope time p.region p.service
  ⟨time, hash, c, scope, signedText p.algorithm time scope c⟩

theorem prepare_eq_ok_iff {prepared : Prepared} : p.prepare r = .ok prepared ↔
    ∃ time hash c, r.signingTime = .ok time ∧ r.payloadHash p.payloadMode = .ok hash ∧
      CanonicalRequest.build p r time hash = .ok c ∧ prepared = p.preparedOf time hash c := by
  unfold prepare
  rw [Fallible.bind_eq_ok_iff]
  constructor
  · intro h
    obtain ⟨time, ht, h⟩ := h
    obtain ⟨hash, hh, h⟩ := Fallible.bind_eq_ok_iff.1 h
    obtain ⟨c, hc, h⟩ := Fallible.bind_eq_ok_iff.1 h
    exact ⟨time, hash, c, ht, hh, hc, (Except.ok.inj h).symm⟩
  · intro h
    obtain ⟨time, hash, c, ht, hh, hc, rfl⟩ := h
    exact ⟨time, ht, Fallible.bind_eq_ok_iff.2 ⟨hash, hh, Fallible.bind_eq_ok_iff.2 ⟨c, hc, rfl⟩⟩⟩

/-- Time, payload hash and canonical request are looked at in this order, and the first fault among
    them is the fault of all. -/
theorem prepare_eq_error_iff {fault : Fault} : p.prepare r = .error fault ↔
    r.signingTime = .error fault ∨ ∃ time, r.signingTime = .ok time ∧
      (r.payloadHash p.payloadMode = .error fault ∨
        ∃ hash, r.payloadHash p.payloadMode = .ok hash ∧
          CanonicalRequest.build p r time hash = .error fault) := by
  unfold prepare
  rw [Fallible.bind_eq_error_iff]
  refine or_congr_right (exists_congr fun time => and_congr_right fun _ => ?_)
  rw [Fallible.bind_eq_error_iff]
  refine or_congr_right (exists_congr fun hash => and_congr_right fun _ => ?_)
  rw [Fallible.bind_eq_error_iff]
  exact or_iff_left fun ⟨_, _, h⟩ => nomatch h

/-- The canonical request that can be asked for alone is the one that is signed. -/
theorem canonicalRequest_eq (p : Profile) (r : Request) :
    p.canonicalRequest r = (p.prepare r).map Prepared.canonical := by
  unfold canonicalRequest prepare
  cases r.signingTime with
  | error fault => rfl
  | ok time =>
    cases r.payloadHash p.payloadMode with
    | error fault => rfl
    | ok hash =>
      show CanonicalRequest.build p r time hash = Except.map _ (CanonicalRequest.build p r time hash
        >>= fun c => Except.ok (p.preparedOf time hash c))
      cases CanonicalRequest.build p r time hash with
      | error fault => rfl
      | ok c => rfl

/-! ## 2. Behind it -/

/-- The signature of what is prepared. -/
def signatureOf (p : Profile) (prepared : Prepared) : Signature :=
  ⟨(p.key prepared.time).sign prepared.stringToSign, prepared.time, prepared.scope,
    prepared.payloadHash⟩

theorem sign_eq (p : Profile) (r : Request) : p.sign r = (p.prepare r).map p.signatureOf := rfl

theorem sign_eq_ok_iff {s : Signature} : p.sign r = .ok s ↔
    ∃ time hash c, r.signingTime = .ok time ∧ r.payloadHash p.payloadMode = .ok hash ∧
      CanonicalRequest.build p r time hash = .ok c ∧
      s = p.signatureOf (p.preparedOf time hash c) := by
  rw [sign_eq, Fallible.map_eq_ok_iff]
  constructor
  · intro h
    obtain ⟨prepared, hp, rfl⟩ := h
    obtain ⟨time, hash, c, ht, hh, hc, rfl⟩ := prepare_eq_ok_iff.1 hp
    exact ⟨time, hash, c, ht, hh, hc, rfl⟩
  · intro h
    obtain ⟨time, hash, c, ht, hh, hc, rfl⟩ := h
    exact ⟨_, prepare_eq_ok_iff.2 ⟨time, hash, c, ht, hh, hc, rfl⟩, rfl⟩

theorem sign_eq_error_iff {fault : Fault} :
    p.sign r = .error fault ↔ p.prepare r = .error fault := by
  rw [sign_eq, Fallible.map_eq_error_iff]

theorem authorization_eq (p : Profile) (r : Request) :
    p.authorization r = (p.prepare r).map (p.credentialLine ∘ p.signatureOf) := by
  unfold authorization
  rw [sign_eq]
  cases p.prepare r <;> rfl

/-! ## 3. Two requests -/

section Congruence

variable (ht : r₁.signingTime = r₂.signingTime)
  (hh : r₁.payloadHash p.payloadMode = r₂.payloadHash p.payloadMode)
  (hb : ∀ time hash, r₂.signingTime = .ok time → r₂.payloadHash p.payloadMode = .ok hash →
    CanonicalRequest.build p r₁ time hash = CanonicalRequest.build p r₂ time hash)
include ht hh hb

theorem prepare_congr : p.prepare r₁ = p.prepare r₂ := by
  unfold prepare
  refine Fallible.bind_congr ht fun time htime => Fallible.bind_congr hh fun hash hhash => ?_
  rw [hb time hash htime hhash]

theorem canonicalRequest_congr : p.canonicalRequest r₁ = p.canonicalRequest r₂ := by
  rw [canonicalRequest_eq, canonicalRequest_eq, prepare_congr ht hh hb]

end Congruence

end Profile

/-! ## 4. Inputs to try -/

namespace Trial

theorem ascending (names : Profile.NameSet) : names.1.Pairwise fun a b => a.text < b.text := names.2

theorem all_isPathChar_root : "/".toList.all isPathChar = true := by decide

/-- A profile of a region that signs the given names. -/
def profile (region : String) (names : Profile.NameSet) (mode : PayloadMode)
    (h : region ≠ "" := by decide) : Profile :=
  ⟨region, "s", "a", "k", "A", true, names.1, mode, h, by decide, by decide, by decide,
    ascending names⟩

/-- A name without a meaning of its own, and the time. -/
def originAndTime : Profile.NameSet :=
  ⟨[KnownField.origin.fieldName, SigningField.time], by decide⟩

/-- A field with the value of a text. -/
def field (name : FieldName) (value : String)
    (h : (Utf8.bytes value).all isValueByte = true := by decide) : FieldName × FieldValue :=
  (name, ⟨Utf8.bytes value, false, h⟩)

/-- A time of signing. -/
def time : Instant := ⟨⟨2015, 8, 30, by decide⟩, 45360, 0, by decide, zero_lt_two_seconds⟩

/-- The field with this time. -/
def timeField : FieldName × FieldValue := field SigningField.time "20150830T123600Z"

/-- The head of a request with the given fields. -/
def head (fields : List (FieldName × FieldValue)) : Head :=
  ⟨.get, ⟨some .https, some ⟨"localhost", by decide⟩, .bare "/" all_isPathChar_root⟩, ⟨fields⟩⟩

/-- The request of this head with an empty body. -/
def request (fields : List (FieldName × FieldValue)) : Request :=
  ⟨.get, .https, ⟨"localhost", by decide⟩, "/", [], ⟨fields⟩, some (.ofData [])⟩

theorem ofMessage_head (fields : List (FieldName × FieldValue)) :
    Request.ofMessage (head fields) [] = .ok (request fields) := rfl

end Trial

end Countersign
