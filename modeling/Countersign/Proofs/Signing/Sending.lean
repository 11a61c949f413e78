import Countersign.Proofs.Http.Alphabet
import Countersign.Proofs.Signing.Stages

/-!
# What signing sends

Signing makes two field values: the credential line, and the hash of the payload where the mode
sends it. The hash can always be sent. The credential line is made of parts that a profile was
accepted with, and a line feed in one of them is a fault.

* `credentialField_spec`, `hashField_spec` -- the bytes of the two values;
* `exists_credentialField_iff` -- a credential line can be sent exactly when what is before its
  signature can, and `isValueText_credentialStem_iff`, `isValueText_credentialScope_iff` say which
  parts of the profile that is;
* `exists_hashField` -- the hash can be sent.
-/

namespace Countersign.Profile

open Countersign.Text Countersign.Calendar Countersign.Digest Countersign.Http

variable {p : Profile}

/-! ## 1. Texts that can be sent -/

theorem isValueText_hexText (bytes : List UInt8) : IsValueText (hexText bytes) := by
  intro c hc
  rw [toList_hexText] at hc
  exact isValueChar_of (p := isLowerHex) (by decide) (mem_hexEncode hc)

theorem isValueText_signedFields (p : Profile) : IsValueText p.signedFields := by
  intro c hc
  unfold signedFields at hc
  rw [String.toList_intercalate] at hc
  rcases mem_intercalate hc with hc | ⟨l, hl, hc⟩
  · rw [List.mem_singleton.1 hc]
    decide
  · rw [List.map_map] at hl
    obtain ⟨n, -, rfl⟩ := List.mem_map.1 hl
    exact n.isValueText c hc

theorem isValueText_credentialScope_iff {time : Instant} {region service : String} :
    IsValueText (credentialScope time region service) ↔
      IsValueText region ∧ IsValueText service := by
  have hdate : IsValueText (Timestamp.formatDate time) := by
    intro c hc
    rw [Timestamp.toList_formatDate] at hc
    rcases Timestamp.mem_dateChars hc with hc | rfl | rfl
    · exact isValueChar_of (p := Char.isDigit) (by decide) hc
    · decide
    · decide
  have hslash : IsValueText "/" := by decide
  have hend : IsValueText scopeEnd := by decide
  unfold credentialScope
  simp only [isValueText_append, hdate, hslash, hend, true_and, and_true]

/-! ## 2. The credential line -/

theorem credentialField_spec {s : Signature} {line : FieldValue}
    (h : p.credentialField s = .ok line) :
    line.sensitive = true ∧ line.bytes = Utf8.bytes (p.credentialLine s) := by
  unfold credentialField at h
  cases hv : FieldValue.ofText? (p.credentialLine s) with
  | none => rw [hv] at h; cases h
  | some v =>
    rw [hv] at h
    cases h
    exact ⟨rfl, (FieldValue.bytes_hide v).trans (FieldValue.bytes_of_ofText? hv)⟩

/-- A credential line without its signature. -/
def credentialStem (p : Profile) (scope : String) : String :=
  renderAuthorization p.algorithm p.accessKeyId scope p.signedFields ""

theorem credentialLine_eq (p : Profile) (s : Signature) :
    p.credentialLine s = p.credentialStem s.scope ++ s.text := by
  unfold credentialLine credentialStem renderAuthorization
  rw [String.append_empty]

theorem isValueText_credentialStem_iff {scope : String} :
    IsValueText (p.credentialStem scope) ↔
      IsValueText p.algorithm ∧ IsValueText p.accessKeyId ∧ IsValueText scope := by
  have hparts : IsValueText " Credential=" ∧ IsValueText "/" ∧ IsValueText ", SignedHeaders=" ∧
      IsValueText ", Signature=" ∧ IsValueText "" := by decide
  obtain ⟨hcredential, hslash, hfields, hsignature, hempty⟩ := hparts
  unfold credentialStem renderAuthorization
  simp only [isValueText_append, hcredential, hslash, hfields, hsignature, hempty,
    p.isValueText_signedFields, and_true, and_assoc]

/-- A credential line can be sent exactly when what is before its signature can. -/
theorem exists_credentialField_iff {prepared : Prepared} :
    (∃ line, p.credentialField (p.signatureOf prepared) = .ok line) ↔
      IsValueText (p.credentialStem prepared.scope) := by
  have hline : (∃ line, p.credentialField (p.signatureOf prepared) = .ok line) ↔
      ∃ v, FieldValue.ofText? (p.credentialLine (p.signatureOf prepared)) = some v := by
    unfold credentialField
    cases FieldValue.ofText? (p.credentialLine (p.signatureOf prepared)) with
    | none => exact ⟨nofun, nofun⟩
    | some v => exact ⟨fun _ => ⟨v, rfl⟩, fun _ => ⟨_, rfl⟩⟩
  have hdigits : IsValueText (p.signatureOf prepared).text := isValueText_hexText _
  rw [hline, FieldValue.exists_ofText?_iff, credentialLine_eq, isValueText_append]
  exact and_iff_left hdigits

/-! ## 3. The hash of the payload -/

/-- The hash of the payload is sent in every mode but one. -/
theorem hashField_eq {mode : PayloadMode} (text : String) (h : mode ≠ .excluded) :
    hashField mode text =
      match FieldValue.ofText? text with
      | none => .error .badFieldValue
      | some v => .ok (some v) := by
  cases mode with
  | excluded => exact absurd rfl h
  | included | unsigned => rfl

theorem hashField_spec {mode : PayloadMode} {text : String} {hash : Option FieldValue}
    (h : hashField mode text = .ok hash) :
    (mode = .excluded ∧ hash = none) ∨
      (mode ≠ .excluded ∧ ∃ v, hash = some v ∧ v.bytes = Utf8.bytes text) := by
  by_cases hm : mode = .excluded
  · subst hm
    exact Or.inl ⟨rfl, (Except.ok.inj h).symm⟩
  · rw [hashField_eq text hm] at h
    cases hv : FieldValue.ofText? text with
    | none => rw [hv] at h; cases h
    | some v =>
      rw [hv] at h
      exact Or.inr ⟨hm, v, (Except.ok.inj h).symm, FieldValue.bytes_of_ofText? hv⟩

/-- The hash of a payload can always be sent. -/
theorem exists_hashField {r : Request} {mode : PayloadMode} {text : String}
    (h : r.payloadHash mode = .ok text) : ∃ hash, hashField mode text = .ok hash := by
  cases mode with
  | excluded => exact ⟨none, rfl⟩
  | unsigned =>
    cases h
    exact ⟨_, rfl⟩
  | included =>
    have htext : IsValueText text := by
      unfold Request.payloadHash at h
      cases hp : r.payload with
      | none => rw [hp] at h; cases h
      | some payload =>
        rw [hp] at h
        cases h
        exact isValueText_hexText _
    obtain ⟨v, hv⟩ := FieldValue.exists_ofText?_iff.2 htext
    rw [hashField_eq text (by decide), hv]
    exact ⟨some v, rfl⟩

end Countersign.Profile
