import Mathlib.Algebra.BigOperators.Group.List.Basic
import Countersign.Proofs.Canonical.Faults
import Countersign.Proofs.Canonical.Unambiguous
import Countersign.Proofs.Signing.Again

/-!
# The lines of a block of fields

A block of fields is to have one line for each signed name, and each line is to begin with its name.
So it has, unless a value brings a line feed along. No value that is read from the head does, nor
do the time and the hash. The content type that was declared for a payload is written as it stands,
and its line feeds with it.

* `Role.oneLine_value_of_field` -- every value is one line but for that of a declared content type;
* `Canonical.LineByLine` -- a block with one line for each name;
* `Profile.fieldBlock_lines` -- how many line feeds there are, and when the block is line by line;
* `Profile.fieldBlock_not_lineByLine` -- it is not always.
-/

namespace Countersign

open Countersign.Text Countersign.Calendar Countersign.Http

/-! ## 1. Where a line feed can come from -/

/-- The line feeds of the content type, where it is the one that was declared for the payload. -/
def Request.strayFeeds (r : Request) : Nat :=
  match r.fields.get? SigningField.contentType with
  | some _ => 0
  | none => r.declaredType.text.toList.count '\n'

/-- There are none where the declared content type is one line or is not asked for. -/
theorem Request.strayFeeds_eq_zero_iff {r : Request} : r.strayFeeds = 0 ↔
    (r.fields.get? SigningField.contentType = none → OneLine r.declaredType.text.toList) := by
  unfold strayFeeds
  cases r.fields.get? SigningField.contentType with
  | some v => exact ⟨fun _ => nofun, fun _ => rfl⟩
  | none => exact List.count_eq_zero.trans ⟨fun h _ => h, fun h => h rfl⟩

/-- The value of a name is one line, unless it is the content type and no field gives it: then the
    payload is not read. -/
theorem Role.oneLine_value_of_field {r : Request} {time : Instant} {hash value : String}
    {name : FieldName} (hh : OneLine hash.toList)
    (hf : name = SigningField.contentType → r.fields.get? SigningField.contentType ≠ none)
    (h : (Role.ofName name).value r time hash = .ok value) : OneLine value.toList := by
  let bare : Request := { r with payload := none }
  have hhost : bare.host = r.host := rfl
  have htype : name = SigningField.contentType → bare.contentType = r.contentType := fun hn => by
    obtain ⟨v, hv⟩ := Option.ne_none_iff_exists'.1 (hf hn)
    have hv' : bare.fields.get? SigningField.contentType = some v := hv
    rw [Request.contentType_eq hv, Request.contentType_eq hv']
  have hsame := Role.value_congr hhost htype (fun _ _ _ _ => rfl) time hash
  have hd : bare.declaredType.IsOneLine := ContentType.isOneLine_unspecified
  exact Role.oneLine_value hd hh (hsame.trans h)

/-- How many line feeds the value of a name has. -/
theorem Role.count_value {r : Request} {time : Instant} {hash value : String} {name : FieldName}
    (hh : OneLine hash.toList) (h : (Role.ofName name).value r time hash = .ok value) :
    value.toList.count '\n' = if name = SigningField.contentType then r.strayFeeds else 0 := by
  by_cases hn : name = SigningField.contentType
  · rw [if_pos hn]
    unfold Request.strayFeeds
    cases hv : r.fields.get? SigningField.contentType with
    | some v =>
      exact List.count_eq_zero.2 (Role.oneLine_value_of_field hh (fun _ => by rw [hv]; nofun) h)
    | none =>
      subst hn
      have htype : (Role.ofName SigningField.contentType).value r time hash =
          .ok r.declaredType.text :=
        congrArg (Except.map ContentType.text) (Request.contentType_eq_declaredType hv)
      rw [Except.ok.inj (h.symm.trans htype)]
  · rw [if_neg hn]
    exact List.count_eq_zero.2 (Role.oneLine_value_of_field hh (fun he => absurd he hn) h)

/-! ## 2. Lines -/

namespace Canonical

/-- The block has one line feed for each name, and its lines begin with the names, each with a colon
    behind it, in their order. -/
structure LineByLine (block : String) (names : List FieldName) : Prop where
  count : block.toList.count '\n' = names.length
  begins : ∀ (i : Nat) (name : FieldName), names[i]? = some name → ∃ rest,
    (block.toList.splitOn '\n')[i]? = some (name.text.toList ++ ':' :: rest)

theorem count_lineChars (field : FieldName × String) :
    (lineChars field).count '\n' = field.2.toList.count '\n' := by
  have hname : field.1.text.toList.count '\n' = 0 := List.count_eq_zero.2 field.1.oneLine
  unfold lineChars
  rw [List.count_append, hname, List.count_cons_of_ne (by decide), Nat.zero_add]

/-- Each line has one line feed at its end, and those of its value. -/
theorem count_join_line (fields : List (FieldName × String)) :
    (String.join (fields.map line)).toList.count '\n' =
      fields.length + (fields.map fun field => field.2.toList.count '\n').sum := by
  rw [toList_join_line]
  induction fields with
  | nil => rfl
  | cons field fields ih =>
    have hline : (lineChars field ++ ['\n']).count '\n' = field.2.toList.count '\n' + 1 := by
      rw [List.count_append, count_lineChars]
      rfl
    rw [List.map_cons, List.flatMap_cons, List.count_append, ih, hline, List.map_cons,
      List.sum_cons, List.length_cons]
    omega

/-- A block whose values are single lines can be cut into its lines, with nothing behind them. -/
theorem splitOn_join_line {fields : List (FieldName × String)}
    (h : ∀ field ∈ fields, OneLine field.2.toList) :
    (String.join (fields.map line)).toList.splitOn '\n' = fields.map lineChars ++ [[]] := by
  have hjoin : (fields.map lineChars).flatMap (· ++ ['\n']) =
      ['\n'].intercalate (fields.map lineChars ++ [[]]) := by
    rw [intercalate_append_cons]
    exact (List.append_nil _).symm
  rw [toList_join_line, hjoin]
  refine List.splitOn_intercalate '\n' (fun l hl => ?_) (List.append_ne_nil_of_right_ne_nil _ nofun)
  rcases List.mem_append.1 hl with hl | hl
  · obtain ⟨field, hf, rfl⟩ := List.mem_map.1 hl
    exact oneLine_lineChars (h field hf)
  · rw [List.mem_singleton.1 hl]
    exact List.not_mem_nil

theorem lineByLine_join_line {fields : List (FieldName × String)}
    (h : ∀ field ∈ fields, OneLine field.2.toList) :
    LineByLine (String.join (fields.map line)) (fields.map Prod.fst) := by
  constructor
  · have hzero : (fields.map fun field => field.2.toList.count '\n').sum = 0 := by
      refine List.sum_eq_zero fun n hn => ?_
      obtain ⟨field, hf, rfl⟩ := List.mem_map.1 hn
      exact List.count_eq_zero.2 (h field hf)
    rw [count_join_line, hzero, List.length_map, Nat.add_zero]
  · intro i name hi
    rw [List.getElem?_map] at hi
    obtain ⟨field, hfield, rfl⟩ := Option.map_eq_some_iff.1 hi
    refine ⟨field.2.toList, ?_⟩
    have hlt : i < (fields.map lineChars).length := by
      rw [List.length_map]
      exact (List.getElem?_eq_some_iff.1 hfield).1
    rw [splitOn_join_line h, List.getElem?_append_left hlt, List.getElem?_map, hfield]
    rfl

end Canonical

/-! ## 3. The block of a request -/

namespace Profile

open Canonical

/-- The line feeds of the values come from the content type alone, and it is signed once at most. -/
theorem sum_count_values {p : Profile} {r : Request} {time : Instant} {hash : String}
    {fields : List (FieldName × String)} (hh : OneLine hash.toList)
    (hn : fields.map Prod.fst = p.signedNames)
    (hv : ∀ field ∈ fields, (Role.ofName field.1).value r time hash = .ok field.2) :
    (fields.map fun field => field.2.toList.count '\n').sum =
      if SigningField.contentType ∈ p.signedNames then r.strayFeeds else 0 := by
  let feeds : FieldName → Nat := fun name =>
    if name = SigningField.contentType then r.strayFeeds else 0
  have hmap : (fields.map fun field => field.2.toList.count '\n') = p.signedNames.map feeds := by
    rw [← hn, List.map_map]
    exact List.map_congr_left fun field hf => Role.count_value hh (hv field hf)
  rw [hmap, List.sum_map_eq_nsmul_single SigningField.contentType feeds fun _ hne _ => if_neg hne,
    List.Nodup.count p.nodup_signedNames]
  show _ • (if SigningField.contentType = SigningField.contentType then r.strayFeeds else 0) = _
  rw [if_pos rfl]
  split
  · exact one_nsmul _
  · exact zero_nsmul _

/-- A profile that signs the content type and the time. -/
def typeSigner : Profile :=
  Trial.profile "us-east-1" ⟨[SigningField.contentType, SigningField.time], by decide⟩ .unsigned

/-- A payload of the given type. -/
def typed (media : String) : Option Payload := some ⟨[], some ⟨media, none⟩⟩

/-- **A block has a line feed for each signed name, and those of a declared content type.** It is
    line by line exactly where there are none of these: where the content type is not signed, is
    given by a field, or is one line. -/
theorem fieldBlock_lines {p : Profile} {r : Request} {c : CanonicalRequest}
    (hc : p.canonicalRequest r = .ok c) :
    c.fieldBlock.toList.count '\n' = p.signedNames.length +
        (if SigningField.contentType ∈ p.signedNames then r.strayFeeds else 0) ∧
      (LineByLine c.fieldBlock p.signedNames ↔ (SigningField.contentType ∈ p.signedNames →
        r.fields.get? SigningField.contentType = none →
          OneLine r.declaredType.text.toList)) := by
  obtain ⟨time, hash, -, hhash, hb⟩ := canonicalRequest_eq_ok_iff.1 hc
  obtain ⟨path, block, -, hblock, rfl⟩ := CanonicalRequest.build_eq_ok_iff.1 hb
  obtain ⟨fields, hn, hv, rfl⟩ := fieldBlock_eq_ok_iff.1 hblock
  have hh : OneLine hash.toList := Request.oneLine_payloadHash hhash
  have hlength : fields.length = p.signedNames.length := by rw [← hn, List.length_map]
  have hcount : (String.join (fields.map line)).toList.count '\n' = p.signedNames.length +
      (if SigningField.contentType ∈ p.signedNames then r.strayFeeds else 0) := by
    rw [count_join_line, sum_count_values hh hn hv, hlength]
  refine ⟨hcount, ?_⟩
  rw [← Request.strayFeeds_eq_zero_iff]
  constructor
  · intro hlines hm
    have := hcount.symm.trans hlines.count
    rw [if_pos hm] at this
    omega
  · intro hnone
    rw [← hn]
    refine lineByLine_join_line fun field hf => ?_
    refine List.count_eq_zero.1 ?_
    rw [Role.count_value hh (hv field hf)]
    split
    · rename_i hcontent
      exact hnone (hn ▸ hcontent ▸ List.mem_map_of_mem hf)
    · rfl

/-- A content type that was declared in one line. -/
theorem fieldBlock_lines_plain : LineByLine
    "content-type:text/plain\nx-amz-date:20150830T123600Z\n" typeSigner.signedNames := by
  have hc : typeSigner.canonicalRequest
      { Trial.request [Trial.timeField] with payload := typed "text/plain" } =
        .ok ⟨"GET", "/", "", "content-type:text/plain\nx-amz-date:20150830T123600Z\n",
          "content-type;x-amz-date", unsignedPayload⟩ := by decide +kernel
  exact (fieldBlock_lines hc).2.2 fun _ _ => by decide

/-- A content type that was declared in two lines brings a line of its own into the block. -/
theorem fieldBlock_not_lineByLine : ¬ ∀ (p : Profile) (head : Head) (payload : Option Payload)
    (r : Request) (c : CanonicalRequest), Request.ofHead head payload = .ok r →
      p.canonicalRequest r = .ok c → LineByLine c.fieldBlock p.signedNames := by
  intro h
  have hc : typeSigner.canonicalRequest
      { Trial.request [Trial.timeField] with payload := typed "text/plain\nhost:elsewhere" } =
        .ok ⟨"GET", "/", "",
          "content-type:text/plain\nhost:elsewhere\nx-amz-date:20150830T123600Z\n",
          "content-type;x-amz-date", unsignedPayload⟩ := by decide +kernel
  have hlines := h typeSigner (Trial.head [Trial.timeField]) (typed "text/plain\nhost:elsewhere")
    _ _ rfl hc
  exact absurd hlines.count (by decide)

end Profile

end Countersign
