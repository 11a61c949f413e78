import Mathlib.Data.List.Basic
import Countersign.Proofs.Canonical.Block
import Countersign.Proofs.Canonical.OneLine
import Countersign.Proofs.Signing.Stages

/-!
# The text of a canonical request is unambiguous

The six parts of a canonical request are joined with line feeds, and one of them, the block of
fields, has as many lines as there are signed names. The text can still be taken apart in one way
only: three lines before the block, three behind it -- the first of them empty, as the block ends
with a line feed of its own -- and a name ends at the first colon of its line.

* `IsLaidOut` -- a canonical request whose parts are single lines, with the names and values of its
  block;
* `toList_text` -- its text, as the join of a list of lines;
* `IsLaidOut.eq_of_text_eq` -- what the text determines;
* `canonicalText_injective` -- the same for any two profiles and any two requests.
-/

namespace Countersign

open Countersign.Text Countersign.Calendar Countersign.Http

/-! ## 1. The lines of a block -/

namespace Canonical

/-- A line without the line feed at its end. -/
def lineChars (field : FieldName × String) : List Char :=
  field.1.text.toList ++ ':' :: field.2.toList

theorem toList_line (field : FieldName × String) :
    (line field).toList = lineChars field ++ ['\n'] := by
  unfold line lineChars
  simp only [String.toList_append, List.append_assoc]
  rfl

/-- No name holds a colon, so a line says where its name ends. -/
theorem lineChars_injective : Function.Injective lineChars := by
  intro ⟨m, v⟩ ⟨n, w⟩ h
  have hcolon : ∀ name : FieldName, ':' ∉ name.text.toList :=
    fun name hm => absurd (name.isNameChar_of_mem hm) (by decide)
  obtain ⟨hname, hvalue⟩ := eq_and_eq_of_append_cons (hcolon m) (hcolon n) h
  exact Prod.ext (FieldName.eq_of_text_eq (String.toList_inj.1 hname)) (String.toList_inj.1 hvalue)

theorem oneLine_lineChars {field : FieldName × String} (h : OneLine field.2.toList) :
    OneLine (lineChars field) :=
  .append field.1.oneLine (.append (show OneLine [':'] by decide) h)

theorem toList_join_line (fields : List (FieldName × String)) :
    (String.join (fields.map line)).toList = (fields.map lineChars).flatMap (· ++ ['\n']) := by
  rw [String.toList_join, List.flatMap_map, List.flatMap_map]
  exact List.flatMap_congr fun field _ => toList_line field

end Canonical

/-! ## 2. Taking a text apart -/

namespace CanonicalRequest

/-- The parts of the canonical request are single lines, but for its block, which is the lines of
    the given names and values. -/
structure IsLaidOut (c : CanonicalRequest) (fields : List (FieldName × String)) : Prop where
  block : c.fieldBlock = String.join (fields.map Canonical.line)
  values : ∀ field ∈ fields, OneLine field.2.toList
  method : OneLine c.method.toList
  path : OneLine c.path.toList
  query : OneLine c.query.toList
  signedFields : OneLine c.signedFields.toList
  payloadHash : OneLine c.payloadHash.toList

/-- The lines of the text: one for each part, the block giving one for each name and an empty
    one. -/
def textLines (c : CanonicalRequest) (fields : List (FieldName × String)) : List (List Char) :=
  [c.method.toList, c.path.toList, c.query.toList] ++ (fields.map Canonical.lineChars
    ++ [[], c.signedFields.toList, c.payloadHash.toList])

variable {c c₁ c₂ : CanonicalRequest} {fields fields₁ fields₂ : List (FieldName × String)}

theorem toList_text (h : c.IsLaidOut fields) :
    c.text.toList = ['\n'].intercalate (c.textLines fields) := by
  unfold text parts textLines
  rw [String.toList_intercalate, ← List.append_assoc, intercalate_append_cons, List.flatMap_append,
    ← Canonical.toList_join_line, ← h.block]
  simp [List.intercalate_cons_cons]

theorem IsLaidOut.oneLine_textLines (h : c.IsLaidOut fields) :
    ∀ l ∈ c.textLines fields, OneLine l := by
  intro l hl
  simp only [textLines, List.mem_append, List.mem_cons, List.mem_map, List.not_mem_nil,
    or_false] at hl
  rcases hl with (rfl | rfl | rfl) | ⟨field, hf, rfl⟩ | rfl | rfl | rfl
  · exact h.method
  · exact h.path
  · exact h.query
  · exact Canonical.oneLine_lineChars (h.values field hf)
  · exact List.not_mem_nil
  · exact h.signedFields
  · exact h.payloadHash

/-- A text has one list of lines. -/
theorem textLines_eq_of_text_eq (h₁ : c₁.IsLaidOut fields₁) (h₂ : c₂.IsLaidOut fields₂)
    (ht : c₁.text = c₂.text) : c₁.textLines fields₁ = c₂.textLines fields₂ := by
  have hne : ∀ (c : CanonicalRequest) fields, c.textLines fields ≠ [] :=
    fun _ _ h => nomatch h
  calc c₁.textLines fields₁
      = (['\n'].intercalate (c₁.textLines fields₁)).splitOn '\n' :=
        (List.splitOn_intercalate '\n' h₁.oneLine_textLines (hne _ _)).symm
    _ = (['\n'].intercalate (c₂.textLines fields₂)).splitOn '\n' := by
        rw [← toList_text h₁, ← toList_text h₂, ht]
    _ = c₂.textLines fields₂ :=
        List.splitOn_intercalate '\n' h₂.oneLine_textLines (hne _ _)

/-- **A text determines its parts**, and the names and values of its block. -/
theorem IsLaidOut.eq_of_text_eq (h₁ : c₁.IsLaidOut fields₁) (h₂ : c₂.IsLaidOut fields₂)
    (ht : c₁.text = c₂.text) : c₁ = c₂ ∧ fields₁ = fields₂ := by
  have hl := textLines_eq_of_text_eq h₁ h₂ ht
  unfold textLines at hl
  -- three lines before the block and three behind it, so the lines of the block are the others
  obtain ⟨hfront, hback⟩ := List.append_inj hl rfl
  obtain ⟨hblock, htail⟩ := List.append_inj' hback rfl
  have hfields : fields₁ = fields₂ :=
    (List.map_injective_iff.2 Canonical.lineChars_injective) hblock
  simp only [List.cons.injEq, and_true, true_and, String.toList_inj] at hfront htail
  obtain ⟨hm, hp, hq⟩ := hfront
  obtain ⟨hs, hh⟩ := htail
  have hb : c₁.fieldBlock = c₂.fieldBlock := by rw [h₁.block, h₂.block, hfields]
  cases c₁
  cases c₂
  cases hm; cases hp; cases hq; cases hb; cases hs; cases hh
  exact ⟨rfl, hfields⟩

end CanonicalRequest

/-! ## 3. Requests that are signed -/

namespace Profile

/-- The value of a name in the canonical request. -/
def signedValue (p : Profile) (r : Request) (name : FieldName) : Except Fault String := do
  let time ← r.signingTime
  let hash ← r.payloadHash p.payloadMode
  (Role.ofName name).value r time hash

/-- The canonical request of a message that came in by bytes is laid out, with the signed names and
    their values in its block. -/
theorem exists_isLaidOut {p : Profile} {head : Head} {body : List UInt8} {r : Request}
    {c : CanonicalRequest} (hr : Request.ofMessage head body = .ok r)
    (hc : p.canonicalRequest r = .ok c) :
    ∃ fields : List (FieldName × String), c.IsLaidOut fields ∧
      fields.map Prod.fst = p.signedNames ∧
      ∀ field ∈ fields, p.signedValue r field.1 = .ok field.2 := by
  obtain ⟨time, hash, ht, hh, hb⟩ := canonicalRequest_eq_ok_iff.1 hc
  obtain ⟨path, block, hpath, hblock, rfl⟩ := CanonicalRequest.build_eq_ok_iff.1 hb
  obtain ⟨fields, hnames, hvalues, hlines⟩ := Canonical.fieldBlock_eq_ok_iff.1 hblock
  have hhash : OneLine hash.toList := Request.oneLine_payloadHash hh
  obtain ⟨hgiven, hdeclared⟩ : OneLine r.path.toList ∧ r.declaredType = .unspecified := by
    unfold Request.ofMessage Request.ofHead at hr
    split at hr
    · cases hr
    · cases hr
      exact ⟨.of_forall (p := isPathChar) (by decide) fun _ => head.uri.pathQuery.isPathChar_of_mem,
        rfl⟩
  have hd : r.declaredType.IsOneLine := hdeclared ▸ ContentType.isOneLine_unspecified
  refine ⟨fields, ⟨hlines, fun field hf => ?_, ?_, ?_, ?_, ?_, hhash⟩, hnames, fun field hf => ?_⟩
  · exact Role.oneLine_value hd hhash (hvalues field hf)
  · exact CanonicalRequest.oneLine_methodText r.method
  · exact Canonical.oneLine_path hpath hgiven
  · exact Canonical.oneLine_query r.query
  · exact p.oneLine_signedFields
  · unfold signedValue
    rw [ht, hh]
    exact hvalues field hf

/-- **The text of a canonical request is unambiguous.** Whatever profiles and requests two equal
    texts were made of, the parts are the same, the signed names are the same, and so is the value
    of each of them. -/
theorem canonicalText_injective {p₁ p₂ : Profile} {head₁ head₂ : Head} {body₁ body₂ : List UInt8}
    {r₁ r₂ : Request} {c₁ c₂ : CanonicalRequest} (hr₁ : Request.ofMessage head₁ body₁ = .ok r₁)
    (hr₂ : Request.ofMessage head₂ body₂ = .ok r₂) (hc₁ : p₁.canonicalRequest r₁ = .ok c₁)
    (hc₂ : p₂.canonicalRequest r₂ = .ok c₂) (ht : c₁.text = c₂.text) :
    c₁ = c₂ ∧ p₁.signedNames = p₂.signedNames ∧
      ∀ name ∈ p₁.signedNames, ∃ value,
        p₁.signedValue r₁ name = .ok value ∧ p₂.signedValue r₂ name = .ok value := by
  obtain ⟨fields, hl₁, hn₁, hv₁⟩ := exists_isLaidOut hr₁ hc₁
  obtain ⟨fields₂, hl₂, hn₂, hv₂⟩ := exists_isLaidOut hr₂ hc₂
  obtain ⟨hc, rfl⟩ := hl₁.eq_of_text_eq hl₂ ht
  refine ⟨hc, hn₁.symm.trans hn₂, fun name hn => ?_⟩
  rw [← hn₁] at hn
  obtain ⟨field, hf, rfl⟩ := List.mem_map.1 hn
  exact ⟨field.2, hv₁ field hf, hv₂ field hf⟩

/-- Two profiles of different regions, and requests whose fields differ in order and in blanks. -/
theorem canonicalText_injective_blanks :
    let here := Trial.profile "here" Trial.originAndTime .included
    let there := Trial.profile "there" Trial.originAndTime .included
    let r₁ := Trial.request [Trial.timeField, Trial.field KnownField.origin.fieldName " a   b "]
    let r₂ := Trial.request [Trial.field KnownField.origin.fieldName "a b", Trial.timeField]
    here.signedNames = there.signedNames ∧ ∀ name ∈ here.signedNames, ∃ value,
      here.signedValue r₁ name = .ok value ∧ there.signedValue r₂ name = .ok value := by
  intro here there r₁ r₂
  let c : CanonicalRequest := ⟨"GET", "/", "", "origin:a b\nx-amz-date:20150830T123600Z\n",
    "origin;x-amz-date", Digest.hexSha256 []⟩
  have hc₁ : here.canonicalRequest r₁ = .ok c := by decide +kernel
  have hc₂ : there.canonicalRequest r₂ = .ok c := by decide +kernel
  exact (canonicalText_injective (Trial.ofMessage_head _) (Trial.ofMessage_head _) hc₁ hc₂ rfl).2

end Profile

end Countersign
