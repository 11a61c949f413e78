import Countersign.Proofs.Calendar.BasicForm
import Countersign.Proofs.Canonical.Block
import Countersign.Proofs.Signing.Stages

/-!
# The time that is signed and the time that is sent

The canonical request has the time of signing in basic form, whatever the field that carries it
looks like. The reader of timestamps takes more than the basic form, so the line that is signed need
not be the text that is sent.

* `Request.signingTime_eq_ok_iff` -- where the time of signing comes from;
* `Profile.fieldBlock_shows_time` -- the line of the time shows it in basic form;
* `Profile.signed_time_iff_isBasicForm` -- which texts are timestamps, and that the signed line is
  the text exactly where it is in basic form;
* `Calendar.Timestamp.parse?_beyond_basicForm` -- a timestamp that is not.
-/

namespace Countersign

open Countersign.Text Countersign.Calendar Countersign.Http

/-! ## 1. Where the time comes from -/

/-- The time of signing is read of the first value of its field, without the blanks around it. -/
theorem Request.signingTime_eq_ok_iff {r : Request} {t : Instant} : r.signingTime = .ok t ↔
    ∃ sent text, r.fields.get? SigningField.time = some sent ∧ sent.visibleText? = some text ∧
      Timestamp.parse? (String.ofList (trim text.toList)) = some t := by
  unfold signingTime
  constructor
  · intro h
    split at h
    · cases h
    · rename_i sent hsent
      split at h
      · cases h
      · rename_i text htext
        exact ⟨sent, text, hsent, htext, Read.orFault_eq_ok_iff.1 h⟩
  · intro h
    obtain ⟨sent, text, hsent, htext, hparse⟩ := h
    rw [hsent]
    dsimp only
    rw [htext]
    exact Read.orFault_eq_ok_iff.2 hparse

/-! ## 2. The line that is signed -/

namespace Profile

open Canonical

/-- The line of the time shows in basic form what was read of its field. -/
theorem fieldBlock_shows_time {p : Profile} {r : Request} {c : CanonicalRequest}
    (hc : p.canonicalRequest r = .ok c) :
    ∃ (time : Instant) (fields : List (FieldName × String)), r.signingTime = .ok time ∧
      c.fieldBlock = String.join (fields.map line) ∧ fields.map Prod.fst = p.signedNames ∧
      ∀ value, (SigningField.time, value) ∈ fields → value = Timestamp.format time := by
  obtain ⟨time, hash, htime, -, hb⟩ := canonicalRequest_eq_ok_iff.1 hc
  obtain ⟨path, block, -, hblock, rfl⟩ := CanonicalRequest.build_eq_ok_iff.1 hb
  obtain ⟨fields, hnames, hvalues, rfl⟩ := fieldBlock_eq_ok_iff.1 hblock
  exact ⟨time, fields, htime, rfl, hnames, fun value hv => (Except.ok.inj (hvalues _ hv)).symm⟩

/-- **A timestamp is six numbers, each spelled in its own way, and it is signed in basic form.** The
    texts in basic form are those that are read and written back the same, so the line that is
    signed has the text that is sent, without the blanks around it, exactly where this text is in
    basic form. -/
theorem signed_time_iff_isBasicForm (s : String) (p : Profile) (r : Request)
    (c : CanonicalRequest) :
    (∀ t : Instant, Timestamp.parse? s = some t ↔
      (t.whole = t ∧ LeapInPlace t.second t.nanos) ∧ ∃ pieces : Timestamp.Pieces,
        s.toList = pieces.chars ∧ pieces.Spell (Timestamp.numbersOf t)) ∧
    (Timestamp.IsBasicForm s ↔ ∃ t, Timestamp.parse? s = some t ∧ Timestamp.format t = s) ∧
    (p.canonicalRequest r = .ok c → SigningField.time ∈ p.signedNames →
      ∃ (sent : FieldValue) (text : String) (t : Instant) (fields : List (FieldName × String)),
        r.fields.get? SigningField.time = some sent ∧ sent.visibleText? = some text ∧
        Timestamp.parse? (String.ofList (trim text.toList)) = some t ∧
        c.fieldBlock = String.join (fields.map line) ∧ fields.map Prod.fst = p.signedNames ∧
        (∀ value, (SigningField.time, value) ∈ fields ↔ value = Timestamp.format t) ∧
        (Timestamp.format t = String.ofList (trim text.toList) ↔
          Timestamp.IsBasicForm (String.ofList (trim text.toList)))) := by
  refine ⟨fun t => Timestamp.parse?_eq_some_iff, Timestamp.isBasicForm_iff, fun hc hsigned => ?_⟩
  obtain ⟨t, fields, htime, hblock, hnames, hvalue⟩ := fieldBlock_shows_time hc
  obtain ⟨sent, text, hsent, htext, hparse⟩ := Request.signingTime_eq_ok_iff.1 htime
  refine ⟨sent, text, t, fields, hsent, htext, hparse, hblock, hnames, fun value => ?_, ?_⟩
  · constructor
    · exact hvalue value
    · intro h
      rw [← hnames] at hsigned
      obtain ⟨⟨name, shown⟩, hf, rfl⟩ := List.mem_map.1 hsigned
      rw [h, ← hvalue shown hf]
      exact hf
  · rw [Timestamp.isBasicForm_iff]
    constructor
    · exact fun h => ⟨t, hparse, h⟩
    · intro h
      obtain ⟨u, hu, hformat⟩ := h
      rw [← Option.some.inj (hparse.symm.trans hu)] at hformat
      exact hformat

/-- A day of one digit is signed with two. -/
theorem signed_time_iff_isBasicForm_shortDay :
    ∃ fields : List (FieldName × String),
      String.join (fields.map line) = "x-amz-date:20150803T123600Z\n" ∧
        (SigningField.time, "2015083T123600Z") ∉ fields := by
  let p : Profile := Trial.profile "us-east-1" ⟨[SigningField.time], by decide⟩ .unsigned
  let sent : FieldName × FieldValue := Trial.field SigningField.time "2015083T123600Z"
  have hc : p.canonicalRequest (Trial.request [sent]) =
      .ok ⟨"GET", "/", "", "x-amz-date:20150803T123600Z\n", "x-amz-date", unsignedPayload⟩ := by
    decide +kernel
  have hsigned : SigningField.time ∈ p.signedNames := List.mem_cons_self
  obtain ⟨found, text, t, fields, hfound, htext, -, hblock, -, hvalue, hbasic⟩ :=
    (signed_time_iff_isBasicForm "2015083T123600Z" _ _ _).2.2 hc hsigned
  have hsent : found = sent.2 := Option.some.inj (hfound.symm.trans rfl)
  have hvisible : sent.2.visibleText? = some "2015083T123600Z" := by decide
  rw [hsent] at htext
  obtain rfl := Option.some.inj (hvisible.symm.trans htext)
  refine ⟨fields, hblock.symm, fun hmem => ?_⟩
  have hform := hbasic.1 ((hvalue _).1 hmem).symm
  exact absurd hform.length_eq (by decide)

end Profile

/-- Not every timestamp is in basic form: the day may have one digit. -/
theorem Calendar.Timestamp.parse?_beyond_basicForm : ¬ ∀ s : String,
    (∃ t, Timestamp.parse? s = some t) ↔ Timestamp.IsBasicForm s := by
  intro h
  have hread : Timestamp.parse? "2015083T123600Z" =
      some ⟨⟨2015, 8, 3, by decide⟩, 45360, 0, by decide, by decide⟩ := by decide
  exact absurd ((h "2015083T123600Z").1 ⟨_, hread⟩).length_eq (by decide)

end Countersign
