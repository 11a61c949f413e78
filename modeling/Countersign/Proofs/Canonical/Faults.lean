import Countersign.Proofs.Canonical.Block
import Countersign.Proofs.Canonical.Roles
import Countersign.Text.Utf8.RoundTrip

/-!
# When a canonical request cannot be made

Once there is a time and a hash, three things of a request can still be at fault, all of them
because bytes that must be text are not, or not the right one: a segment of the path, the content
type, and the values of a signed name without a meaning of its own. Every fault is one of the
request.

* `Canonical.failsIff_path` -- a path that is encoded twice has such a segment;
* `Request.failsIff_contentType`, `Request.failsIff_plainValue` -- the values that are read from the
  fields, and `Role.failsIff_value`, the value of a name by its role;
* `CanonicalRequest.failsIff_build` -- the whole.
-/

namespace Countersign

open Countersign.Text Countersign.Calendar Countersign.Http

/-- Bytes that must be text are at fault where they are none. -/
theorem failsIff_decode {tag : Utf8.Fault → Fault} (ht : ∀ e, (tag e).kind = .invalidRequest)
    (bs : List UInt8) :
    Fallible.FailsIff .invalidRequest (¬ Utf8.IsText bs) ((Utf8.decode bs).mapError tag) := by
  rw [← Utf8.exists_decode_iff]
  cases Utf8.decode bs with
  | error e => exact ⟨fun _ => ⟨tag e, rfl, ht e⟩, fun hn => absurd nofun hn⟩
  | ok s => exact (Fallible.FailsIff.ok s).congr ⟨fun hn => hn ⟨s, rfl⟩, False.elim⟩

/-! ## 1. Paths -/

namespace Canonical

/-- The bytes that a segment spells by its escapes are no text. -/
def IsBadSegment (segment : List Char) : Prop :=
  ¬ Utf8.IsText (Percent.decode (Utf8.encode segment))

instance (segment : List Char) : Decidable (IsBadSegment segment) := by
  unfold IsBadSegment
  infer_instance

theorem failsIff_decodeSegment (segment : List Char) :
    Fallible.FailsIff .invalidRequest (IsBadSegment segment) (decodeSegment segment) :=
  (failsIff_decode (fun _ => rfl) _).map _

/-- **A path has no canonical form exactly where it is encoded twice and one of its segments decodes
    to no text.** -/
theorem failsIff_path (doubleEncode : Bool) (given : String) :
    Fallible.FailsIff .invalidRequest
      (doubleEncode = true ∧ ∃ segment ∈ segments given.toList, IsBadSegment segment)
      (path doubleEncode given) := by
  unfold path
  cases doubleEncode with
  | true =>
    have h : Fallible.FailsIff .invalidRequest
        (∃ segment ∈ segments given.toList, IsBadSegment segment)
        ((segments given.toList).mapM decodeSegment) :=
      Fallible.FailsIff.mapM fun segment _ => failsIff_decodeSegment segment
    exact ((h.map _).map _).congr ⟨And.right, fun hb => ⟨rfl, hb⟩⟩
  | false =>
    have h : ∀ s : String, Fallible.FailsIff .invalidRequest
        (false = true ∧ ∃ segment ∈ segments given.toList, IsBadSegment segment)
        (.ok s : Except Fault String) :=
      fun s => (Fallible.FailsIff.ok s).congr ⟨fun hb => (nomatch hb.1), False.elim⟩
    rw [if_neg Bool.false_ne_true]
    split
    · exact h _
    · exact h _

end Canonical

/-! ## 2. Values of fields -/

/-- The value is the text of a content type. -/
def Http.FieldValue.IsContentType (v : FieldValue) : Prop :=
  ∃ s, v.bytes = Utf8.bytes s ∧ ∃ t, ContentType.parse s = .ok t

instance (v : FieldValue) : Decidable v.IsContentType := by
  unfold FieldValue.IsContentType
  infer_instance

namespace Request

/-- The first content type of the fields is none. -/
def HasBadContentType (r : Request) : Prop :=
  ∃ v, r.fields.get? SigningField.contentType = some v ∧ ¬ v.IsContentType

instance (r : Request) : Decidable r.HasBadContentType := by
  unfold HasBadContentType
  infer_instance

/-- A value of the name is no text. -/
def HasBadValue (r : Request) (name : FieldName) : Prop :=
  ∃ v ∈ r.fields.values name, ¬ Utf8.IsText v.bytes

instance (r : Request) (name : FieldName) : Decidable (r.HasBadValue name) := by
  unfold HasBadValue
  infer_instance

theorem failsIff_textOf (v : FieldValue) :
    Fallible.FailsIff .invalidRequest (¬ Utf8.IsText v.bytes) (textOf v) :=
  failsIff_decode (fun _ => rfl) v.bytes

theorem failsIff_plainValue (r : Request) (name : FieldName) :
    Fallible.FailsIff .invalidRequest (r.HasBadValue name) (r.plainValue name) :=
  (Fallible.FailsIff.mapM fun v _ => failsIff_textOf v).map _

theorem kind_of_parse_eq_error {s : String} {fault : Fault}
    (h : ContentType.parse s = .error fault) : fault.kind = .invalidRequest := by
  unfold ContentType.parse at h
  split at h
  · cases h
  · cases h
    rfl

theorem textOf_eq_ok_iff {v : FieldValue} {s : String} :
    textOf v = .ok s ↔ v.bytes = Utf8.bytes s := by
  rw [← Utf8.decode_eq_ok_iff]
  exact Fallible.mapError_eq_ok_iff

/-- The content type of a request is read from the first value of its field. -/
theorem contentType_eq {r : Request} {v : FieldValue}
    (hv : r.fields.get? SigningField.contentType = some v) :
    r.contentType = textOf v >>= ContentType.parse := by
  have htext : r.fieldText KnownField.contentType.canonicalName = (textOf v).map some := by
    unfold fieldText
    rw [getOf?_contentType, hv]
  unfold contentType
  rw [htext]
  cases textOf v <;> rfl

theorem contentType_eq_declaredType {r : Request}
    (hv : r.fields.get? SigningField.contentType = none) : r.contentType = .ok r.declaredType := by
  have htext : r.fieldText KnownField.contentType.canonicalName = .ok none := by
    unfold fieldText
    rw [getOf?_contentType, hv]
  unfold contentType
  rw [htext]

theorem failsIff_contentType (r : Request) :
    Fallible.FailsIff .invalidRequest r.HasBadContentType r.contentType := by
  cases hv : r.fields.get? SigningField.contentType with
  | none =>
    rw [contentType_eq_declaredType hv]
    exact (Fallible.FailsIff.ok _).congr ⟨fun ⟨_, h, _⟩ => (nomatch hv.symm.trans h), False.elim⟩
  | some v =>
    have hiff : (∃ t, r.contentType = .ok t) ↔ v.IsContentType := by
      rw [contentType_eq hv]
      simp only [Fallible.bind_eq_ok_iff, textOf_eq_ok_iff]
      exact ⟨fun ⟨t, s, hs, ht⟩ => ⟨s, hs, t, ht⟩, fun ⟨s, hs, t, ht⟩ => ⟨t, s, hs, ht⟩⟩
    have hbad : r.HasBadContentType ↔ ¬ ∃ t, r.contentType = .ok t := by
      rw [hiff]
      exact ⟨fun ⟨w, hw, hn⟩ => Option.some.inj (hw.symm.trans hv) ▸ hn, fun hn => ⟨v, hv, hn⟩⟩
    refine (Fallible.FailsIff.of_kind fun fault hf => ?_).congr hbad
    rw [contentType_eq hv] at hf
    rcases Fallible.bind_eq_error_iff.1 hf with hf | ⟨s, -, hf⟩
    · exact (failsIff_textOf v).kind_eq hf
    · exact kind_of_parse_eq_error hf

/-- The value of a signed name cannot be read. -/
def LacksValue (r : Request) (name : FieldName) : Prop :=
  (name = SigningField.contentType ∧ r.HasBadContentType) ∨
    (name ≠ SigningField.host ∧ name ≠ SigningField.contentType ∧
      name ≠ SigningField.payloadHash ∧ name ≠ SigningField.time ∧ r.HasBadValue name)

end Request

/-! ## 3. The block and the whole -/

/-- The value of a name is at fault where its role reads it from fields that are. -/
theorem Role.failsIff_value (r : Request) (time : Instant) (hash : String) (name : FieldName) :
    Fallible.FailsIff .invalidRequest (r.LacksValue name)
      ((Role.ofName name).value r time hash) := by
  unfold Request.LacksValue
  by_cases hc : name = SigningField.contentType
  · subst hc
    exact (r.failsIff_contentType.map ContentType.text).congr
      ⟨fun h => h.elim And.right fun h => absurd rfl h.2.1, fun h => Or.inl ⟨rfl, h⟩⟩
  -- the other three roles take nothing from the fields
  have never : ∀ {s : String}, (name = SigningField.host ∨ name = SigningField.payloadHash ∨
      name = SigningField.time) → Fallible.FailsIff .invalidRequest (r.LacksValue name)
        (.ok s : Except Fault String) := by
    intro s h
    refine (Fallible.FailsIff.ok s).congr ⟨?_, False.elim⟩
    rintro (⟨h', -⟩ | ⟨hh, -, hp, ht, -⟩)
    · exact hc h'
    · rcases h with h | h | h
      · exact hh h
      · exact hp h
      · exact ht h
  by_cases hh : name = SigningField.host
  · subst hh
    exact never (Or.inl rfl)
  by_cases hp : name = SigningField.payloadHash
  · subst hp
    exact never (Or.inr (Or.inl rfl))
  by_cases ht : name = SigningField.time
  · subst ht
    exact never (Or.inr (Or.inr rfl))
  rw [Role.ofName_eq_plain hh hc hp ht]
  exact (r.failsIff_plainValue name).congr
    ⟨fun h => h.elim (fun h => absurd h.1 hc) fun h => h.2.2.2.2,
      fun h => Or.inr ⟨hh, hc, hp, ht, h⟩⟩

theorem Canonical.failsIff_fieldBlock (r : Request) (time : Instant) (hash : String)
    (names : List FieldName) : Fallible.FailsIff .invalidRequest (∃ name ∈ names, r.LacksValue name)
      (fieldBlock r time hash names) :=
  (Fallible.FailsIff.mapM fun name _ => (Role.failsIff_value r time hash name).map _).map _

/-- **A canonical request cannot be made exactly where its path cannot, or the value of a signed
    name.** -/
theorem CanonicalRequest.failsIff_build (p : Profile) (r : Request) (time : Instant)
    (hash : String) : Fallible.FailsIff .invalidRequest
      ((p.doubleEncodePath = true ∧
          ∃ segment ∈ Canonical.segments r.path.toList, Canonical.IsBadSegment segment) ∨
        ∃ name ∈ p.signedNames, r.LacksValue name)
      (build p r time hash) := by
  have hblock : ∀ path : String, Fallible.FailsIff .invalidRequest
      (∃ name ∈ p.signedNames, r.LacksValue name) (do
        let block ← Canonical.fieldBlock r time hash p.signedNames
        .ok (⟨methodText r.method, path, Canonical.query r.query, block, p.signedFields, hash⟩ :
          CanonicalRequest) : Except Fault CanonicalRequest) := fun path =>
    ((Canonical.failsIff_fieldBlock r time hash p.signedNames).bind fun block =>
      Fallible.FailsIff.ok _).congr (or_iff_left id).symm
  exact (Canonical.failsIff_path p.doubleEncodePath r.path).bind hblock

end Countersign
