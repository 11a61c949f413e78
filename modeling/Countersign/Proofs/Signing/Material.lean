import Mathlib
import Countersign.Proofs.Canonical.Query
import Countersign.Proofs.Canonical.Roles
import Countersign.Proofs.Signing.Stages

/-!
# What a signature depends on

A signature depends on the signed material and on nothing else of a request: the method but for its
case, path, host, payload and time, the pairs of the query without their order, the content type
where it is signed, and the values of the other signed names without the blanks that do not count.

* `SameMaterial` -- two requests have this in common;
* `SameMaterial.role_value` -- every signed name has one value in both;
* `SameMaterial.stages_eq` -- every stage comes to the same in both, be it a result or a fault.
-/

namespace Countersign

open Countersign.Text Countersign.Calendar Countersign.Http

/-! ## 1. Requests with the same material -/

/-- Two values that are one in a canonical request: both are text, and the same text but for
    blanks. -/
def Http.FieldValue.SameText (v w : FieldValue) : Prop :=
  ∃ s t, v.text = .ok s ∧ w.text = .ok t ∧ Text.normalize s.toList = Text.normalize t.toList

/-- The two requests have in common what a profile signs. -/
structure SameMaterial (p : Profile) (r₁ r₂ : Request) : Prop where
  /-- The methods are the same in small letters. -/
  method : r₁.method.text.toList.map Char.toLower = r₂.method.text.toList.map Char.toLower
  path : r₁.path = r₂.path
  host : r₁.host = r₂.host
  payload : r₁.payload = r₂.payload
  /-- The pairs of the query are the same in some order. -/
  query : r₁.query.Perm r₂.query
  /-- Both carry one and the same time, however it is written. -/
  time : ∃ t, r₁.signingTime = .ok t ∧ r₂.signingTime = .ok t
  /-- The first content types are the same byte by byte, or there is none in both. -/
  contentType : SigningField.contentType ∈ p.signedNames →
    (r₁.fields.get? SigningField.contentType).map FieldValue.bytes =
      (r₂.fields.get? SigningField.contentType).map FieldValue.bytes
  /-- The values of every other signed name are one in a canonical request, one by one. -/
  plain : ∀ name ∈ p.signedNames, name ≠ SigningField.host → name ≠ SigningField.contentType →
    name ≠ SigningField.payloadHash → name ≠ SigningField.time →
      List.Forall₂ FieldValue.SameText (r₁.fields.values name) (r₂.fields.values name)

/-! ## 2. What each part is read from -/

/-- The case of a method is not in the canonical request. -/
theorem CanonicalRequest.methodText_congr {m₁ m₂ : Method}
    (h : m₁.text.toList.map Char.toLower = m₂.text.toList.map Char.toLower) :
    methodText m₁ = methodText m₂ := by
  have hu : ∀ cs : List Char, (cs.map Char.toLower).map Char.toUpper = cs.map Char.toUpper := by
    intro cs
    rw [List.map_map]
    exact List.map_congr_left fun c _ => Char.toUpper_toLower_eq_toUpper c
  unfold methodText
  rw [← hu m₁.text.toList, h, hu]

namespace Request

variable {r₁ r₂ : Request}

/-- The texts of values that are one in a canonical request, in their normal form. -/
theorem mapM_textOf_congr : ∀ {vs ws : List FieldValue}, List.Forall₂ FieldValue.SameText vs ws →
    ∃ ss ts, vs.mapM textOf = .ok ss ∧ ws.mapM textOf = .ok ts ∧
      (ss.map fun s => Text.normalize s.toList) = ts.map fun t => Text.normalize t.toList
  | [], [], .nil => ⟨[], [], rfl, rfl, rfl⟩
  | v :: vs, w :: ws, .cons ⟨s, t, hs, ht, hst⟩ h => by
    obtain ⟨ss, ts, hss, hts, hn⟩ := mapM_textOf_congr h
    refine ⟨s :: ss, t :: ts, ?_, ?_, ?_⟩
    · rw [List.mapM_cons, textOf, hs, hss]
      rfl
    · rw [List.mapM_cons, textOf, ht, hts]
      rfl
    · rw [List.map_cons, List.map_cons, hst, hn]

theorem plainValue_congr {name : FieldName}
    (h : List.Forall₂ FieldValue.SameText (r₁.fields.values name) (r₂.fields.values name)) :
    r₁.plainValue name = r₂.plainValue name := by
  obtain ⟨ss, ts, hss, hts, hn⟩ := mapM_textOf_congr h
  unfold plainValue
  rw [hss, hts]
  show Except.ok (String.ofList ([','].intercalate (ss.map fun s => Text.normalize s.toList))) = _
  rw [hn]
  rfl

end Request

/-! ## 3. The stages -/

namespace SameMaterial

variable {p : Profile} {r₁ r₂ : Request}

/-- Every signed name has one value in both requests, whatever its role. -/
theorem role_value (h : SameMaterial p r₁ r₂) (time : Instant) (hash : String) {name : FieldName}
    (hn : name ∈ p.signedNames) :
    (Role.ofName name).value r₁ time hash = (Role.ofName name).value r₂ time hash := by
  refine Role.value_congr h.host (fun hc => ?_) (fun hh hc hp ht => ?_) time hash
  · exact Request.contentType_congr (h.contentType (hc ▸ hn)) h.payload
  · exact Request.plainValue_congr (h.plain name hn hh hc hp ht)

theorem build_eq (h : SameMaterial p r₁ r₂) (time : Instant) (hash : String) :
    CanonicalRequest.build p r₁ time hash = CanonicalRequest.build p r₂ time hash :=
  CanonicalRequest.build_congr (CanonicalRequest.methodText_congr h.method) h.path
    (Canonical.query_eq_of_perm h.query) fun _ hn => h.role_value time hash hn

/-- **A signature depends on the signed material alone.** Every stage comes to the same for two
    requests that have it in common: to one result, or to one fault. -/
theorem stages_eq (h : SameMaterial p r₁ r₂) :
    p.canonicalRequest r₁ = p.canonicalRequest r₂ ∧ p.stringToSign r₁ = p.stringToSign r₂ ∧
      p.sign r₁ = p.sign r₂ ∧ p.authorization r₁ = p.authorization r₂ := by
  have htime : r₁.signingTime = r₂.signingTime := by
    obtain ⟨t, h₁, h₂⟩ := h.time
    rw [h₁, h₂]
  have hhash : r₁.payloadHash p.payloadMode = r₂.payloadHash p.payloadMode := by
    unfold Request.payloadHash
    rw [h.payload]
  have hprepare : p.prepare r₁ = p.prepare r₂ :=
    Profile.prepare_congr htime hhash fun time hash _ _ => h.build_eq time hash
  refine ⟨?_, ?_, ?_, ?_⟩
  · exact Profile.canonicalRequest_congr htime hhash fun time hash _ _ => h.build_eq time hash
  · exact congrArg (Except.map Prepared.stringToSign) hprepare
  · rw [Profile.sign_eq, Profile.sign_eq, hprepare]
  · rw [Profile.authorization_eq, Profile.authorization_eq, hprepare]

/-- Requests that differ in the case of the method, in the order of query and fields, in blanks and
    in fields that are not signed. -/
theorem stages_eq_reordered :
    let p := Trial.profile "region" Trial.originAndTime .included
    let r₁ : Request :=
      { Trial.request [Trial.timeField, Trial.field KnownField.origin.fieldName " a   b ",
          Trial.field SigningField.host "elsewhere"] with
        method := ⟨"get", by decide⟩
        query := [("b", "2"), ("a", "1")] }
    let r₂ : Request :=
      { Trial.request [Trial.field KnownField.origin.fieldName "a b", Trial.timeField,
          Trial.field SigningField.payloadHash "none"] with
        query := [("a", "1"), ("b", "2")] }
    p.canonicalRequest r₁ = p.canonicalRequest r₂ ∧ p.stringToSign r₁ = p.stringToSign r₂ ∧
      p.sign r₁ = p.sign r₂ ∧ p.authorization r₁ = p.authorization r₂ := by
  intro p r₁ r₂
  refine stages_eq ⟨by decide, rfl, rfl, rfl, .swap _ _ _, ⟨_, rfl, rfl⟩, ?_, ?_⟩
  · exact fun hn => absurd hn (by decide)
  · intro name hn _ _ _ ht
    rcases List.mem_cons.1 hn with rfl | hn
    · exact .cons ⟨" a   b ", "a b", by decide +kernel, by decide +kernel, by decide⟩ .nil
    · exact absurd (List.mem_singleton.1 hn) ht

end SameMaterial

end Countersign
