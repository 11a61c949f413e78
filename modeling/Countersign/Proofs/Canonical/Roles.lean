import Countersign.Canonical.Fields

/-!
# What the value of a signed name is read from

Each role reads its own part of a request (`Role.value_congr`): the host, the content type, or the
values of the name. The hash of the payload and the time are not read from the fields at all.
-/

namespace Countersign

open Countersign.Text Countersign.Calendar Countersign.Http

theorem Role.ofName_eq_plain {name : FieldName} (hh : name ≠ SigningField.host)
    (hc : name ≠ SigningField.contentType) (hp : name ≠ SigningField.payloadHash)
    (ht : name ≠ SigningField.time) : Role.ofName name = .plain name := by
  unfold Role.ofName
  rw [if_neg hh, if_neg hc, if_neg hp, if_neg ht]

/-- Requests with the same host have the same value of a name where they have the same content type,
    if it is that, or the same plain value, if its name has no meaning of its own. -/
theorem Role.value_congr {r₁ r₂ : Request} {name : FieldName} (hhost : r₁.host = r₂.host)
    (htype : name = SigningField.contentType → r₁.contentType = r₂.contentType)
    (hplain : name ≠ SigningField.host → name ≠ SigningField.contentType →
      name ≠ SigningField.payloadHash → name ≠ SigningField.time →
        r₁.plainValue name = r₂.plainValue name) (time : Instant) (hash : String) :
    (Role.ofName name).value r₁ time hash = (Role.ofName name).value r₂ time hash := by
  by_cases hh : name = SigningField.host
  · subst hh
    exact congrArg Except.ok hhost
  by_cases hc : name = SigningField.contentType
  · subst hc
    exact congrArg (Except.map ContentType.text) (htype rfl)
  by_cases hp : name = SigningField.payloadHash
  · subst hp
    rfl
  by_cases ht : name = SigningField.time
  · subst ht
    rfl
  rw [Role.ofName_eq_plain hh hc hp ht]
  exact hplain hh hc hp ht

namespace Request

variable {r₁ r₂ : Request}

theorem textOf_congr {v w : FieldValue} (h : v.bytes = w.bytes) : textOf v = textOf w := by
  unfold textOf FieldValue.text
  rw [h]

theorem getOf?_contentType (r : Request) : r.fields.getOf? KnownField.contentType.canonicalName =
    r.fields.get? SigningField.contentType := by
  have hname : FieldName.ofText? KnownField.contentType.canonicalName =
      some SigningField.contentType := by decide
  unfold Fields.getOf? Fields.valuesOf
  rw [hname]
  rfl

/-- The first content type of the fields and the payload are all that the content type depends
    on. -/
theorem contentType_congr
    (hf : (r₁.fields.get? SigningField.contentType).map FieldValue.bytes =
      (r₂.fields.get? SigningField.contentType).map FieldValue.bytes)
    (hp : r₁.payload = r₂.payload) : r₁.contentType = r₂.contentType := by
  have htext : r₁.fieldText KnownField.contentType.canonicalName =
      r₂.fieldText KnownField.contentType.canonicalName := by
    unfold fieldText
    rw [getOf?_contentType, getOf?_contentType]
    cases h₁ : r₁.fields.get? SigningField.contentType with
    | none =>
      cases h₂ : r₂.fields.get? SigningField.contentType with
      | none => rfl
      | some w => rw [h₁, h₂] at hf; cases hf
    | some v =>
      cases h₂ : r₂.fields.get? SigningField.contentType with
      | none => rw [h₁, h₂] at hf; cases hf
      | some w =>
        rw [h₁, h₂] at hf
        show (textOf v).map some = (textOf w).map some
        rw [textOf_congr (Option.some.inj hf)]
  unfold contentType declaredType
  rw [htext, hp]

end Request

end Countersign
