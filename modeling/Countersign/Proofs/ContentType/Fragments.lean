import Countersign.Proofs.Canonical.Faults
import Countersign.Proofs.ContentType.Quoted
import Countersign.Proofs.Signing.Stages

/-!
# What is kept and signed of values in quotes

* `KeepsAll`, `ofParameters_fragments_eq_iff` -- parameters in quotes are kept as they are exactly
  where no value that counts holds a semicolon, and no other one a parameter behind its semicolons;
* `quoted_parameters` -- this of a whole content type, and which of them are signed in the same
  line: without semicolons and charsets only those that are the same but for the case of the type.
-/

namespace Countersign

open Countersign.Text Countersign.Calendar Countersign.Http Countersign.Canonical

namespace ContentType

/-! ## 1. What is kept -/

variable {ps : List Parameter}

theorem IsToken.isWhole {name value : List Char} (hn : IsToken name) (hs : ';' ∉ value) :
    Parameter.IsWhole ⟨name, value⟩ := ⟨hn.not_mem (by decide), hn.not_mem (by decide), hs⟩

theorem Parameter.IsQuotable.not_mem {p : Parameter} (h : p.IsQuotable) :
    ';' ∉ p.name ∧ ' ' ∉ p.name ∧ ' ' ∉ p.value :=
  ⟨h.1.not_mem (by decide), h.1.not_mem (by decide),
    fun hm => absurd (h.2 ' ' hm) (by decide)⟩

/-- A fragment is whole and holds no space. -/
theorem Parameter.IsQuotable.of_mem_fragments {p q : Parameter} (h : p.IsQuotable)
    (hq : q ∈ p.fragments) : q.IsWhole ∧ ' ' ∉ q.name ∧ ' ' ∉ q.value := by
  obtain ⟨-, hname, hspace⟩ := h.not_mem
  rcases List.mem_cons.1 hq with rfl | hq
  · have hfirst := headD_mem_splitOn ';' p.value
    exact ⟨h.1.isWhole (not_mem_of_mem_splitOn hfirst), hname,
      fun hm => hspace (mem_of_mem_splitOn hfirst hm)⟩
  · obtain ⟨hsubname, hsubvalue⟩ := mem_of_mem_parameters hq
    exact ⟨isWhole_of_mem_parameters hq, fun hm => hspace (hsubname hm),
      fun hm => hspace (hsubvalue hm)⟩

/-- A parameter without semicolons stays in one piece. -/
theorem Parameter.fragments_eq_self {p : Parameter} (h : ';' ∉ p.value) : p.fragments = [p] := by
  unfold fragments
  rw [parameters_eq_nil h, List.splitOn_eq_singleton h]
  rfl

/-- Every value that is kept is without semicolons, and behind the semicolons of the others no
    parameter begins that would be kept. -/
def KeepsAll (ps : List Parameter) : Prop :=
  (∀ p ∈ kept ps, ';' ∉ p.value) ∧ plain (ps.flatMap fun p => parameters p.value) = []

instance (ps : List Parameter) : Decidable (KeepsAll ps) := by
  unfold KeepsAll
  infer_instance

/-- What is written has a space and a semicolon for each parameter, and the semicolons of the
    values. -/
theorem count_suffix {ps : List Parameter}
    (h : ∀ p ∈ ps, ';' ∉ p.name ∧ ' ' ∉ p.name ∧ ' ' ∉ p.value) :
    (suffix ps).count ';' = (suffix ps).count ' ' + (ps.flatMap Parameter.value).count ';' := by
  induction ps with
  | nil => rfl
  | cons p ps ih =>
    obtain ⟨⟨hsemicolon, hspace, hvalue⟩, hps⟩ := List.forall_mem_cons.1 h
    have htext : p.text.count ';' + 1 = p.text.count ' ' + p.value.count ';' := by
      simp [Parameter.text, List.count_eq_zero.2 hsemicolon, List.count_eq_zero.2 hspace,
        List.count_eq_zero.2 hvalue, Nat.add_comm]
    have hrest := ih hps
    rw [suffix_cons, List.flatMap_cons, List.count_append, List.count_append, List.count_append,
      List.count_cons_self, List.count_cons_of_ne (by decide)]
    omega

/-- Where whole parameters are written like others, the others hold no semicolon either. -/
theorem not_mem_value_of_suffix_eq {ps qs : List Parameter}
    (hp : ∀ p ∈ ps, ';' ∉ p.name ∧ ' ' ∉ p.name ∧ ' ' ∉ p.value)
    (hq : ∀ q ∈ qs, q.IsWhole ∧ ' ' ∉ q.name ∧ ' ' ∉ q.value) (h : suffix qs = suffix ps) :
    ∀ p ∈ ps, ';' ∉ p.value := by
  have hnone : (qs.flatMap Parameter.value).count ';' = 0 := by
    refine List.count_eq_zero.2 fun hm => ?_
    obtain ⟨q, hmem, hm⟩ := List.mem_flatMap.1 hm
    exact (hq q hmem).1.value_semicolon hm
  -- there are as many spaces on either side, and as many semicolons as spaces on one
  have hcount := count_suffix fun q hmem => ⟨(hq q hmem).1.name_semicolon, (hq q hmem).2⟩
  rw [hnone, h, count_suffix hp] at hcount
  have hvalues : ';' ∉ ps.flatMap Parameter.value :=
    List.count_eq_zero.1 (Nat.add_left_cancel hcount)
  exact fun p hmem hm => hvalues (List.mem_flatMap.2 ⟨p, hmem, hm⟩)

theorem length_plain_fragments (ps : List Parameter) :
    (plain (ps.flatMap Parameter.fragments)).length =
      (plain ps).length + (plain (ps.flatMap fun p => parameters p.value)).length := by
  induction ps with
  | nil => rfl
  | cons p ps ih =>
    -- the first fragment has the name of the parameter, and so it is kept where the parameter is
    have hsame : ∀ value, Parameter.isPlain ⟨p.name, value⟩ = p.isPlain := fun _ => rfl
    unfold Parameter.fragments at ih ⊢
    rw [List.flatMap_cons, List.flatMap_cons, List.cons_append, plain_cons, plain_cons, hsame,
      plain_append, plain_append]
    split
    · simp only [List.length_cons, List.length_append]
      omega
    · simp only [List.length_append]
      omega

/-- The last charset stays the last one. -/
theorem charsetOf?_fragments (h : ∀ p ∈ ps, p.IsQuotable) (hk : ∀ p ∈ kept ps, ';' ∉ p.value) :
    charsetOf? (ps.flatMap Parameter.fragments) = charsetOf? ps := by
  -- the induction is from the end, where the charset that counts is met first
  induction ps using List.reverseRecOn with
  | nil => rfl
  | append_singleton ps p ih =>
    have hq := h p (List.mem_append_right _ List.mem_cons_self)
    rw [List.flatMap_append, List.flatMap_singleton]
    cases hcharset : p.isCharset with
    | true =>
      have hvalue : ';' ∉ p.value := by
        refine hk (charsetParameter p.value) (List.mem_append_right _ ?_)
        rw [charsetOf?_concat hcharset]
        exact List.mem_cons_self
      rw [Parameter.fragments_eq_self hvalue, charsetOf?_concat hcharset,
        charsetOf?_concat hcharset]
    | false =>
      have hplain : p.isPlain = true := Parameter.isPlain_eq_true_iff.2 ⟨hcharset, hq.1.1⟩
      have hkept : kept ps ⊆ kept (ps ++ [p]) := by
        unfold kept
        rw [charsetOf?_concat_of_isPlain hplain, plain_append]
        exact ((List.sublist_append_left (plain ps) _).append_right _).subset
      have hvalue : ';' ∉ p.value := by
        refine hk p (List.mem_append_left _ ?_)
        exact mem_plain.2 ⟨List.mem_append_right _ List.mem_cons_self, hplain⟩
      rw [Parameter.fragments_eq_self hvalue, charsetOf?_concat_of_isPlain hplain,
        charsetOf?_concat_of_isPlain hplain]
      exact ih (fun p hp => h p (List.mem_append_left _ hp)) fun p hp => hk p (hkept hp)

/-- Nothing is added to the parameters that stay in the media type. -/
theorem KeepsAll.plain_fragments (hk : KeepsAll ps) :
    plain (ps.flatMap Parameter.fragments) = plain ps := by
  have hnone : ∀ p ∈ ps, plain (parameters p.value) = [] := by
    have hflat := hk.2
    rwa [plain_flatMap, List.flatMap_eq_nil_iff] at hflat
  have hone : ∀ p ∈ ps, plain p.fragments = plain [p] := by
    intro p hp
    cases hplain : p.isPlain with
    | true =>
      have hkept := List.mem_append_left ((charsetOf? ps).toList.map charsetParameter)
        (mem_plain.2 ⟨hp, hplain⟩)
      rw [Parameter.fragments_eq_self (hk.1 p hkept)]
    | false =>
      have hsame : ∀ value, Parameter.isPlain ⟨p.name, value⟩ = false := fun _ => hplain
      unfold Parameter.fragments
      rw [plain_cons, plain_cons, hsame, hplain, hnone p hp]
      rfl
  calc plain (ps.flatMap Parameter.fragments)
      = ps.flatMap fun p => plain p.fragments := plain_flatMap _ ps
    _ = ps.flatMap fun p => plain [p] := List.flatMap_congr hone
    _ = plain (ps.flatMap fun p => [p]) := (plain_flatMap _ ps).symm
    _ = plain ps := by rw [List.flatMap_singleton']

/-- **All of the parameters is kept exactly where no semicolon gets in the way.** -/
theorem ofParameters_fragments_eq_iff {media : List Char} (h : ∀ p ∈ ps, p.IsQuotable) :
    ofParameters media (ps.flatMap Parameter.fragments) = ofParameters media ps ↔ KeepsAll ps := by
  have hfragment : ∀ q ∈ ps.flatMap Parameter.fragments,
      q.IsWhole ∧ ' ' ∉ q.name ∧ ' ' ∉ q.value := by
    intro q hq
    obtain ⟨p, hp, hq⟩ := List.mem_flatMap.1 hq
    exact (h p hp).of_mem_fragments hq
  constructor
  · intro heq
    obtain ⟨hmedia, hcharset⟩ := ContentType.mk.inj heq
    have hsuffix : suffix (plain (ps.flatMap Parameter.fragments)) = suffix (plain ps) :=
      List.append_cancel_left (String.ofList_injective hmedia)
    have hcharset : charsetOf? (ps.flatMap Parameter.fragments) = charsetOf? ps :=
      Option.map_injective (fun _ _ => String.ofList_injective) hcharset
    have hvalue : ∀ p ∈ plain ps, ';' ∉ p.value :=
      not_mem_value_of_suffix_eq (fun p hp => (h p (mem_plain.1 hp).1).not_mem)
        (fun q hq => hfragment q (mem_plain.1 hq).1) hsuffix
    have hwhole : ∀ p ∈ plain ps, p.IsWhole :=
      fun p hp => (h p (mem_plain.1 hp).1).1.isWhole (hvalue p hp)
    have hplain : plain (ps.flatMap Parameter.fragments) = plain ps :=
      eq_of_suffix_eq (fun q hq => (hfragment q (mem_plain.1 hq).1).1) hwhole hsuffix
    refine ⟨fun p hp => ?_, ?_⟩
    · rcases List.mem_append.1 hp with hp | hp
      · exact hvalue p hp
      · obtain ⟨value, hv, rfl⟩ := List.mem_map.1 hp
        obtain ⟨q, hq, -, rfl⟩ := exists_of_charsetOf? (hcharset ▸ Option.mem_toList.1 hv)
        exact (hfragment q hq).1.value_semicolon
    · have hlength := length_plain_fragments ps
      rw [hplain] at hlength
      exact List.eq_nil_of_length_eq_zero (by omega)
  · intro hk
    unfold ofParameters
    rw [hk.plain_fragments, charsetOf?_fragments h hk.1]

/-- There is no charset, and no value holds a semicolon. -/
def QuotedType.IsUncut (q : QuotedType) : Prop :=
  ∀ p ∈ q.parameters, p.isCharset = false ∧ ';' ∉ p.value

instance (q : QuotedType) : Decidable q.IsUncut := by
  unfold QuotedType.IsUncut
  infer_instance

/-- All that is read of such a type is kept. -/
theorem QuotedType.IsUncut.kept_fragments {q : QuotedType} (hu : q.IsUncut) (h : q.IsLegal) :
    kept (q.parameters.flatMap Parameter.fragments) = q.parameters := by
  rw [List.flatMap_congr fun p hp => Parameter.fragments_eq_self (hu p hp).2,
    List.flatMap_singleton']
  exact kept_eq_self fun p hp => Parameter.isPlain_eq_true_iff.2 ⟨(hu p hp).1, (h.2.2 p hp).1.1⟩

end ContentType

/-! ## 2. What is signed -/

/-- The first content type of the fields is the text. -/
def Request.HasContentType (r : Request) (s : String) : Prop :=
  ∃ v, r.fields.get? SigningField.contentType = some v ∧ v.bytes = Utf8.bytes s

/-- The content type of the fields is signed in the form in which it was read. -/
theorem Request.HasContentType.fieldLine_eq {r : Request} {s : String} {t : ContentType}
    (h : r.HasContentType s) (ht : ContentType.parse s = .ok t) (time : Instant)
    (payloadHash : String) :
    fieldLine r time payloadHash SigningField.contentType =
      .ok (line (SigningField.contentType, t.text)) := by
  obtain ⟨v, hv, hbytes⟩ := h
  have htype : r.contentType = .ok t := by
    rw [Request.contentType_eq hv, Request.textOf_eq_ok_iff.2 hbytes]
    exact ht
  have hrole : Role.ofName SigningField.contentType = .contentType := by decide
  rw [Canonical.fieldLine_eq, hrole]
  unfold Role.value
  rw [htype]
  rfl

namespace ContentType

/-- **Parameters whose values are in quotes can be read**, each as its fragments, and that is the
    parameters themselves exactly where no semicolon gets in the way (`KeepsAll`). Two requests with
    such content types have the same line for it exactly where the types are the same but for case
    and the fragments that are kept are the same; and where there is no semicolon and no charset,
    these are the parameters. -/
theorem quoted_parameters {q q' : QuotedType} (h : q.IsLegal) (h' : q'.IsLegal) :
    parse q.text = .ok (ofParameters q.media (q.parameters.flatMap Parameter.fragments)) ∧
      (parse q.text = .ok (ofParameters q.media q.parameters) ↔ KeepsAll q.parameters) ∧
      ∀ {r r' : Request}, r.HasContentType q.text → r'.HasContentType q'.text →
        ∀ (time time' : Instant) (payloadHash payloadHash' : String), ∃ line₁ line₂,
          fieldLine r time payloadHash SigningField.contentType = .ok line₁ ∧
          fieldLine r' time' payloadHash' SigningField.contentType = .ok line₂ ∧
          (line₁ = line₂ ↔ q.media = q'.media ∧
            kept (q.parameters.flatMap Parameter.fragments) =
              kept (q'.parameters.flatMap Parameter.fragments)) ∧
          (q.IsUncut → q'.IsUncut →
            (line₁ = line₂ ↔ q.media = q'.media ∧ q.parameters = q'.parameters)) := by
  have hread := q.parse_quoted h
  have hread' := q'.parse_quoted h'
  refine ⟨hread, ?_, fun hr hr' time time' payloadHash payloadHash' => ?_⟩
  · rw [hread, Except.ok.injEq]
    exact ofParameters_fragments_eq_iff h.2.2
  · have hwhole : ∀ {q : QuotedType}, q.IsLegal →
        ∀ p ∈ q.parameters.flatMap Parameter.fragments, p.IsWhole := by
      intro q h p hp
      obtain ⟨p', hp', hp⟩ := List.mem_flatMap.1 hp
      exact ((h.2.2 p' hp').of_mem_fragments hp).1
    have hlines : ∀ {t t' : ContentType}, line (SigningField.contentType, t.text) =
        line (SigningField.contentType, t'.text) ↔ t.text = t'.text :=
      ⟨value_eq_of_line_eq, fun heq => by rw [heq]⟩
    have hiff := hlines.trans (text_ofParameters_eq_iff h.media_semicolon h'.media_semicolon
      (hwhole h) (hwhole h'))
    refine ⟨_, _, hr.fieldLine_eq hread time payloadHash,
      hr'.fieldLine_eq hread' time' payloadHash', hiff, fun hu hu' => ?_⟩
    rw [hiff, hu.kept_fragments h, hu'.kept_fragments h']

/-- A form whose parts are set apart by the given text. -/
def formType (boundary : String) : QuotedType :=
  ⟨"multipart".toList, "form-data".toList, [⟨"boundary".toList, boundary.toList⟩]⟩

/-- Two boundaries without semicolons are signed in two lines. -/
theorem quoted_parameters_boundary :
    let r := Trial.request [Trial.field SigningField.contentType (formType "a=b").text]
    let r' := Trial.request [Trial.field SigningField.contentType (formType "a").text]
    (formType "a=b").IsLegal ∧ (formType "a").IsLegal ∧
      parse (formType "a=b").text =
        .ok (ofParameters (formType "a=b").media (formType "a=b").parameters) ∧
      ∃ line₁ line₂, fieldLine r Trial.time "" SigningField.contentType = .ok line₁ ∧
        fieldLine r' Trial.time "" SigningField.contentType = .ok line₂ ∧ line₁ ≠ line₂ := by
  intro r r'
  have h : (formType "a=b").IsLegal := by decide +kernel
  have h' : (formType "a").IsLegal := by decide +kernel
  obtain ⟨-, hkeeps, hlines⟩ := quoted_parameters h h'
  have hr : r.HasContentType (formType "a=b").text := ⟨_, rfl, rfl⟩
  have hr' : r'.HasContentType (formType "a").text := ⟨_, rfl, rfl⟩
  obtain ⟨line₁, line₂, hline₁, hline₂, -, hiff⟩ := hlines hr hr' Trial.time Trial.time "" ""
  refine ⟨h, h', hkeeps.2 (by decide +kernel), line₁, line₂, hline₁, hline₂, fun heq => ?_⟩
  have hparameters := ((hiff (by decide +kernel) (by decide +kernel)).1 heq).2
  exact absurd hparameters (by decide +kernel)

/-- A boundary ends at its first semicolon. -/
theorem not_quoted_parameters_semicolon : ¬ ∀ q : QuotedType, q.IsLegal →
    parse q.text = .ok (ofParameters q.media q.parameters) := by
  intro h
  have hlegal : (formType "a;b").IsLegal := by decide +kernel
  have hread : parse (formType "a;b").text = .ok ⟨"multipart/form-data; boundary=a", none⟩ := by
    decide +kernel
  have hkept := h (formType "a;b") hlegal
  rw [hread] at hkept
  exact absurd hkept (by decide +kernel)

end ContentType

end Countersign
