import Countersign.ContentType
import Countersign.Proofs.Text.Alphabet

/-!
# The parameters of a content type

A text is a media type and parameters, with semicolons between them, and this is how a content type
is read and written as a whole.

* `Parameter`, `parameters` -- the parameters that a text spells, whether or not they are kept;
* `kept` -- of these, the ones that a content type holds: those with a name, the last charset behind
  the others;
* `ofParameters` -- the content type that holds them;
* `parse_eq_ok_iff` -- reading a text gives the content type of its parameters;
* `toList_text` -- and writing it writes these that are kept;
* `append_suffix_inj`, `text_ofParameters_eq_iff` -- parameters without semicolons can be told from
  what is written;
* `parameters_append_suffix`, `parameters_text` -- what is written of parameters is read piece by
  piece, and a parameter without semicolons as one (`Parameter.again`).
-/

namespace Countersign.ContentType

open Countersign.Text

/-! ## 1. Parameters -/

/-- A name and a value. -/
structure Parameter where
  name : List Char
  value : List Char
  deriving Repr, DecidableEq

namespace Parameter

/-- The parameter is a charset, in whatever case its name is written. -/
def isCharset (p : Parameter) : Bool := p.name.map Char.toLower == charsetName

/-- The parameter stays in the media type. -/
def isPlain (p : Parameter) : Bool := !p.isCharset && !p.name.isEmpty

/-- The parameter as it is written behind a semicolon. -/
def text (p : Parameter) : List Char := ' ' :: p.name ++ '=' :: p.value

end Parameter

/-- The parameters that stay in the media type. -/
def plain (ps : List Parameter) : List Parameter := ps.filter Parameter.isPlain

/-- The value of the last charset. -/
def charsetOf? (ps : List Parameter) : Option (List Char) :=
  (ps.filter Parameter.isCharset).getLast?.map Parameter.value

/-- The charset of the given value. -/
def charsetParameter (value : List Char) : Parameter := ⟨charsetName, value⟩

/-- The parameters that a content type keeps, in the order in which they are written. -/
def kept (ps : List Parameter) : List Parameter :=
  plain ps ++ (charsetOf? ps).toList.map charsetParameter

/-- What is written of parameters. -/
def suffix (ps : List Parameter) : List Char := ps.flatMap fun p => ';' :: p.text

/-- The content type of a media type and parameters. -/
def ofParameters (media : List Char) (ps : List Parameter) : ContentType :=
  ⟨String.ofList (media ++ suffix (plain ps)), (charsetOf? ps).map String.ofList⟩

@[simp] theorem suffix_nil : suffix [] = [] := rfl

@[simp] theorem suffix_cons (p : Parameter) (ps : List Parameter) :
    suffix (p :: ps) = ';' :: p.text ++ suffix ps := rfl

@[simp] theorem suffix_append (ps qs : List Parameter) :
    suffix (ps ++ qs) = suffix ps ++ suffix qs := List.flatMap_append

/-- **What is written of a content type are the parameters it keeps.** -/
theorem toList_text (media : List Char) (ps : List Parameter) :
    (ofParameters media ps).text.toList = media ++ suffix (kept ps) := by
  have hcharset : "; charset=".toList = ';' :: ' ' :: charsetName ++ ['='] := by decide
  unfold ofParameters text kept
  cases charsetOf? ps with
  | none => simp
  | some value => simp [hcharset, Parameter.text, charsetParameter]

/-! ## 2. Reading -/

theorem mem_of_mem_unquote {c : Char} {cs : List Char} (h : c ∈ unquote cs) : c ∈ cs :=
  (stripEnds_sublist (· == '\x22') cs).subset h

/-- The parameter that a piece behind a semicolon spells; a piece without `=` spells none. -/
def readPiece? (piece : List Char) : Option Parameter :=
  match piece.dropWhile (· != '=') with
  | [] => none
  | _ :: value => some ⟨trim (piece.takeWhile (· != '=')), unquote (trim value)⟩

theorem readPiece?_eq_none {piece : List Char} (h : '=' ∉ piece) : readPiece? piece = none := by
  have hnil : piece.dropWhile (· != '=') = [] :=
    List.dropWhile_eq_nil_iff.2 fun c hc => bne_iff_ne.2 (ne_of_mem_of_not_mem hc h)
  unfold readPiece?
  rw [hnil]

/-- A piece is cut at its first `=`. -/
theorem readPiece?_append {name value : List Char} (h : '=' ∉ name) :
    readPiece? (name ++ '=' :: value) = some ⟨trim name, unquote (trim value)⟩ := by
  have hname : ∀ c ∈ name, (c != '=') = true :=
    fun c hc => bne_iff_ne.2 (ne_of_mem_of_not_mem hc h)
  unfold readPiece?
  rw [List.takeWhile_append_of_pos hname, List.dropWhile_append_of_pos hname]
  simp

theorem exists_cut_of_readPiece? {piece : List Char} {p : Parameter}
    (h : readPiece? piece = some p) : ∃ name value, piece = name ++ '=' :: value ∧
      p = ⟨trim name, unquote (trim value)⟩ ∧ '=' ∉ name := by
  by_cases hm : '=' ∈ piece
  · obtain ⟨name, value, rfl, hname⟩ := List.eq_append_cons_of_mem hm
    rw [readPiece?_append hname, Option.some.injEq] at h
    exact ⟨name, value, rfl, h.symm, hname⟩
  · rw [readPiece?_eq_none hm] at h
    cases h

/-- The media type of a text: its first piece, trimmed and in small letters. -/
def essence (cs : List Char) : List Char := (trim ((cs.splitOn ';').headD [])).map Char.toLower

/-- The parameters that a text spells. -/
def parameters (cs : List Char) : List Parameter := (cs.splitOn ';').tail.filterMap readPiece?

theorem addParameter_ofParameters (media : List Char) (ps : List Parameter) (p : Parameter) :
    (ofParameters media ps).addParameter p.name p.value = ofParameters media (ps ++ [p]) := by
  unfold addParameter ofParameters plain charsetOf?
  rw [List.filter_append, List.filter_append]
  by_cases hc : p.name.map Char.toLower = charsetName
  · have hcharset : p.isCharset = true := beq_iff_eq.2 hc
    have hplain : p.isPlain = false := by simp [Parameter.isPlain, hcharset]
    rw [if_pos hc, List.filter_cons_of_pos hcharset, List.filter_cons_of_neg (by simp [hplain])]
    simp [withCharset]
  · have hcharset : p.isCharset = false := beq_eq_false_iff_ne.2 hc
    rw [if_neg hc, List.filter_cons_of_neg (p := Parameter.isCharset) (by simp [hcharset])]
    cases hname : p.name with
    | nil =>
      have hplain : p.isPlain = false := by simp [Parameter.isPlain, hname]
      simp [hplain]
    | cons c cs =>
      have hplain : p.isPlain = true := by simp [Parameter.isPlain, hname, hcharset]
      simp only [List.isEmpty_cons, Bool.false_eq_true, if_false, List.filter_cons_of_pos hplain,
        List.filter_nil, List.append_nil, suffix_append, ContentType.mk.injEq, and_true]
      rw [← String.toList_inj]
      simp [Parameter.text, hname, List.append_assoc]

theorem addPiece_ofParameters (media : List Char) (ps : List Parameter) (piece : List Char) :
    (ofParameters media ps).addPiece piece =
      ofParameters media (ps ++ (readPiece? piece).toList) := by
  unfold addPiece readPiece?
  cases piece.dropWhile (· != '=') with
  | nil => simp
  | cons mark value => exact addParameter_ofParameters media ps ⟨_, _⟩

theorem foldl_addPiece (media : List Char) (ps : List Parameter) (pieces : List (List Char)) :
    pieces.foldl addPiece (ofParameters media ps) =
      ofParameters media (ps ++ pieces.filterMap readPiece?) := by
  induction pieces generalizing ps with
  | nil => exact congrArg _ (List.append_nil ps).symm
  | cons piece pieces ih =>
    rw [List.foldl_cons, addPiece_ofParameters, ih, List.append_assoc]
    refine congrArg (fun qs => ofParameters media (ps ++ qs)) ?_
    cases hr : readPiece? piece with
    | none => rw [List.filterMap_cons_none hr]; rfl
    | some p => rw [List.filterMap_cons_some hr]; rfl

/-- **Reading a text gives the content type of its parameters.** -/
theorem parse_eq_ok_iff {s : String} {t : ContentType} : parse s = .ok t ↔
    isMediaType (essence s.toList) = true ∧
      t = ofParameters (essence s.toList) (parameters s.toList) := by
  unfold parse essence parameters
  cases hp : s.toList.splitOn ';' with
  | nil => exact absurd hp (List.splitOn_ne_nil ';' s.toList)
  | cons first rest =>
    have hstart : (⟨String.ofList ((trim first).map Char.toLower), none⟩ : ContentType) =
        ofParameters ((trim first).map Char.toLower) [] := by
      simp [ofParameters, plain, charsetOf?]
    simp only [ofPieces?, hstart, foldl_addPiece, List.nil_append, List.headD_cons, List.tail_cons]
    split
    · rename_i t' ht
      split at ht
      · rename_i hmedia
        cases ht
        rw [Except.ok.injEq]
        exact ⟨fun h => ⟨hmedia, h.symm⟩, fun h => h.2.symm⟩
      · cases ht
    · rename_i hnone
      split at hnone
      · cases hnone
      · rename_i hmedia
        exact ⟨fun h => (nomatch h), fun h => absurd h.1 hmedia⟩

/-! ## 3. Telling parameters apart -/

/-- The parameter stays whole when it is written between semicolons: neither part holds one, and the
    name holds no `=`. -/
structure Parameter.IsWhole (p : Parameter) : Prop where
  name_semicolon : ';' ∉ p.name
  name_equals : '=' ∉ p.name
  value_semicolon : ';' ∉ p.value

theorem mem_of_mem_parameters {cs : List Char} {p : Parameter} (h : p ∈ parameters cs) :
    p.name ⊆ cs ∧ p.value ⊆ cs := by
  obtain ⟨piece, hpiece, hread⟩ := List.mem_filterMap.1 h
  have hsub : piece ⊆ cs := fun _ hc => mem_of_mem_splitOn (List.mem_of_mem_tail hpiece) hc
  obtain ⟨name, value, rfl, rfl, -⟩ := exists_cut_of_readPiece? hread
  rw [List.append_subset, List.cons_subset] at hsub
  exact ⟨fun _ hc => hsub.1 (mem_of_mem_trim hc),
    fun _ hc => hsub.2.2 (mem_of_mem_trim (mem_of_mem_unquote hc))⟩

/-- A parameter that was read is whole. -/
theorem isWhole_of_mem_parameters {cs : List Char} {p : Parameter} (h : p ∈ parameters cs) :
    p.IsWhole := by
  obtain ⟨piece, hpiece, hread⟩ := List.mem_filterMap.1 h
  have hsemicolon := not_mem_of_mem_splitOn (List.mem_of_mem_tail hpiece)
  obtain ⟨name, value, rfl, rfl, hname⟩ := exists_cut_of_readPiece? hread
  rw [List.mem_append, List.mem_cons] at hsemicolon
  constructor
  · exact fun hm => hsemicolon (Or.inl (mem_of_mem_trim hm))
  · exact fun hm => hname (mem_of_mem_trim hm)
  · exact fun hm => hsemicolon (Or.inr (Or.inr (mem_of_mem_trim (mem_of_mem_unquote hm))))

theorem Parameter.IsWhole.not_mem_text {p : Parameter} (h : p.IsWhole) : ';' ∉ p.text := by
  simp [Parameter.text, h.name_semicolon, h.value_semicolon]

/-- A piece is cut at its first `=`. -/
theorem Parameter.eq_of_text_eq {p q : Parameter} (hp : p.IsWhole) (hq : q.IsWhole)
    (h : p.text = q.text) : p = q := by
  obtain ⟨name, value⟩ := p
  obtain ⟨name', value'⟩ := q
  obtain ⟨rfl, rfl⟩ :=
    eq_and_eq_of_append_cons hp.name_equals hq.name_equals (List.cons.inj h).2
  rfl

theorem eq_of_map_text_eq : ∀ {ps qs : List Parameter}, (∀ p ∈ ps, p.IsWhole) →
    (∀ q ∈ qs, q.IsWhole) → ps.map Parameter.text = qs.map Parameter.text → ps = qs
  | [], [], _, _, _ => rfl
  | [], q :: qs, _, _, h => nomatch h
  | p :: ps, [], _, _, h => nomatch h
  | p :: ps, q :: qs, hp, hq, h => by
    obtain ⟨hpair, hrest⟩ := List.cons.inj h
    obtain ⟨hp, hps⟩ := List.forall_mem_cons.1 hp
    obtain ⟨hq, hqs⟩ := List.forall_mem_cons.1 hq
    rw [Parameter.eq_of_text_eq hp hq hpair, eq_of_map_text_eq hps hqs hrest]

theorem splitOn_append_suffix {media : List Char} {ps : List Parameter} (hm : ';' ∉ media)
    (hp : ∀ p ∈ ps, p.IsWhole) :
    (media ++ suffix ps).splitOn ';' = media :: ps.map Parameter.text := by
  induction ps generalizing media with
  | nil => rw [suffix_nil, List.append_nil, List.splitOn_eq_singleton hm, List.map_nil]
  | cons p ps ih =>
    obtain ⟨hp, hps⟩ := List.forall_mem_cons.1 hp
    rw [suffix_cons, List.cons_append, List.splitOn_append_cons_self_of_not_mem hm,
      ih hp.not_mem_text hps, List.map_cons]

/-- **A media type and whole parameters can be told from what is written of them.** -/
theorem append_suffix_inj {media media' : List Char} {ps qs : List Parameter} (hm : ';' ∉ media)
    (hm' : ';' ∉ media') (hp : ∀ p ∈ ps, p.IsWhole) (hq : ∀ q ∈ qs, q.IsWhole)
    (h : media ++ suffix ps = media' ++ suffix qs) : media = media' ∧ ps = qs := by
  have hsplit := congrArg (List.splitOn ';') h
  rw [splitOn_append_suffix hm hp, splitOn_append_suffix hm' hq] at hsplit
  obtain ⟨hmedia, htexts⟩ := List.cons.inj hsplit
  exact ⟨hmedia, eq_of_map_text_eq hp hq htexts⟩

theorem eq_of_suffix_eq {ps qs : List Parameter} (hp : ∀ p ∈ ps, p.IsWhole)
    (hq : ∀ q ∈ qs, q.IsWhole) (h : suffix ps = suffix qs) : ps = qs := by
  rw [← List.nil_append (suffix ps), ← List.nil_append (suffix qs)] at h
  exact (append_suffix_inj List.not_mem_nil List.not_mem_nil hp hq h).2

/-! ## 4. Reading what is written -/

theorem parameters_eq_nil {cs : List Char} (h : ';' ∉ cs) : parameters cs = [] := by
  unfold parameters
  rw [List.splitOn_eq_singleton h]
  rfl

theorem parameters_cons (cs : List Char) :
    parameters (';' :: cs) = (cs.splitOn ';').filterMap readPiece? := by
  have hnil : ';' ∉ ([] : List Char) := List.not_mem_nil
  have hstart : (';' :: cs).splitOn ';' = [] :: cs.splitOn ';' :=
    List.splitOn_append_cons_self_of_not_mem hnil cs
  unfold parameters
  rw [hstart, List.tail_cons]

theorem parameters_cons_of_not_mem {piece : List Char} (h : ';' ∉ piece) :
    parameters (';' :: piece) = (readPiece? piece).toList := by
  rw [parameters_cons, List.splitOn_eq_singleton h]
  cases hread : readPiece? piece with
  | none => rw [List.filterMap_cons_none hread]; rfl
  | some p => rw [List.filterMap_cons_some hread]; rfl

/-- A text that is put together at a semicolon spells what its two parts spell. -/
theorem parameters_append (cs ds : List Char) :
    parameters (cs ++ ';' :: ds) = parameters cs ++ parameters (';' :: ds) := by
  rw [parameters_cons]
  unfold parameters
  rw [List.splitOn_append_cons_self, List.tail_append_of_ne_nil (List.splitOn_ne_nil ';' cs),
    List.filterMap_append]

theorem parameters_append_suffix {media : List Char} (ps : List Parameter) (hm : ';' ∉ media) :
    parameters (media ++ suffix ps) = ps.flatMap fun p => parameters (';' :: p.text) := by
  have hsuffix : ∀ cs, parameters (cs ++ suffix ps) =
      parameters cs ++ ps.flatMap fun p => parameters (';' :: p.text) := by
    induction ps with
    | nil => exact fun cs => by simp
    | cons p ps ih =>
      intro cs
      rw [suffix_cons, ← List.append_assoc, ih, parameters_append,
        List.flatMap_cons, List.append_assoc]
  rw [hsuffix, parameters_eq_nil hm, List.nil_append]

theorem essence_append_suffix {media : List Char} (ps : List Parameter) (hm : ';' ∉ media) :
    essence (media ++ suffix ps) = (trim media).map Char.toLower := by
  unfold essence
  cases ps with
  | nil => rw [suffix_nil, List.append_nil, List.splitOn_eq_singleton hm, List.headD_cons]
  | cons p ps =>
    rw [suffix_cons, List.cons_append, List.splitOn_append_cons_self_of_not_mem hm,
      List.headD_cons]

/-- The parameter after it was written and read once more. -/
def Parameter.again (p : Parameter) : Parameter := ⟨trim p.name, unquote (trim p.value)⟩

theorem Parameter.IsWhole.again {p : Parameter} (h : p.IsWhole) : p.again.IsWhole :=
  ⟨fun hm => h.name_semicolon (mem_of_mem_trim hm), fun hm => h.name_equals (mem_of_mem_trim hm),
    fun hm => h.value_semicolon (mem_of_mem_trim (mem_of_mem_unquote hm))⟩

theorem readPiece?_text {p : Parameter} (h : '=' ∉ p.name) : readPiece? p.text = some p.again := by
  have hname : '=' ∉ ' ' :: p.name := by simp [h]
  have htrim : trim (' ' :: p.name) = trim p.name := by
    have hblank : ∀ c ∈ [' '], isBlank c = true := List.forall_mem_singleton.2 (by decide)
    have hnone : ∀ c ∈ ([] : List Char), isBlank c = true :=
      fun _ hc => absurd hc List.not_mem_nil
    rw [← trim_surrounded hblank hnone, List.append_nil]
    rfl
  have htext : p.text = (' ' :: p.name) ++ '=' :: p.value := by simp [Parameter.text]
  rw [htext, readPiece?_append hname, htrim]
  rfl

theorem parameters_text {p : Parameter} (h : p.IsWhole) :
    parameters (';' :: p.text) = [p.again] := by
  rw [parameters_cons_of_not_mem h.not_mem_text, readPiece?_text h.name_equals]
  rfl

/-! ## 5. The parameters that are kept -/

theorem isCharset_charsetParameter (value : List Char) :
    (charsetParameter value).isCharset = true := by
  have hlower : charsetName.map Char.toLower = charsetName := by decide
  exact beq_iff_eq.2 hlower

theorem Parameter.isPlain_eq_true_iff {p : Parameter} :
    p.isPlain = true ↔ p.isCharset = false ∧ p.name ≠ [] := by
  simp [Parameter.isPlain]

theorem mem_plain {p : Parameter} {ps : List Parameter} :
    p ∈ plain ps ↔ p ∈ ps ∧ p.isPlain = true := List.mem_filter

theorem plain_append (ps qs : List Parameter) : plain (ps ++ qs) = plain ps ++ plain qs :=
  List.filter_append ..

theorem plain_cons (p : Parameter) (ps : List Parameter) :
    plain (p :: ps) = if p.isPlain then p :: plain ps else plain ps := List.filter_cons

theorem plain_flatMap (f : Parameter → List Parameter) (ps : List Parameter) :
    plain (ps.flatMap f) = ps.flatMap fun p => plain (f p) := List.filter_flatMap ..

theorem exists_of_charsetOf? {value : List Char} {ps : List Parameter}
    (h : charsetOf? ps = some value) : ∃ p ∈ ps, p.isCharset = true ∧ p.value = value := by
  obtain ⟨p, hp, rfl⟩ := Option.map_eq_some_iff.1 h
  obtain ⟨hmem, hcharset⟩ := List.mem_filter.1 (List.mem_of_getLast? hp)
  exact ⟨p, hmem, hcharset, rfl⟩

/-- A parameter that is kept was there, but for the case in which the name of a charset was
    written. -/
theorem mem_kept {p : Parameter} {ps : List Parameter} (h : p ∈ kept ps) :
    p ∈ ps ∨ ∃ q ∈ ps, p = charsetParameter q.value := by
  rcases List.mem_append.1 h with h | h
  · exact Or.inl (mem_plain.1 h).1
  · obtain ⟨value, hv, rfl⟩ := List.mem_map.1 h
    obtain ⟨q, hq, -, rfl⟩ := exists_of_charsetOf? (Option.mem_toList.1 hv)
    exact Or.inr ⟨q, hq, rfl⟩

theorem isWhole_of_mem_kept {ps : List Parameter} (h : ∀ p ∈ ps, p.IsWhole) :
    ∀ p ∈ kept ps, p.IsWhole := by
  intro p hp
  have hname : ';' ∉ charsetName ∧ '=' ∉ charsetName := by decide
  rcases mem_kept hp with hp | ⟨q, hq, rfl⟩
  · exact h p hp
  · exact ⟨hname.1, hname.2, (h q hq).value_semicolon⟩

theorem charsetOf?_concat {ps : List Parameter} {p : Parameter} (h : p.isCharset = true) :
    charsetOf? (ps ++ [p]) = some p.value := by
  unfold charsetOf?
  rw [List.filter_append, List.filter_cons_of_pos h]
  simp

theorem charsetOf?_concat_of_isPlain {ps : List Parameter} {p : Parameter}
    (h : p.isPlain = true) : charsetOf? (ps ++ [p]) = charsetOf? ps := by
  have hcharset : p.isCharset = false := (Parameter.isPlain_eq_true_iff.1 h).1
  unfold charsetOf?
  rw [List.filter_append, List.filter_cons_of_neg (by simp [hcharset]), List.filter_nil,
    List.append_nil]

theorem plain_kept (ps : List Parameter) : plain (kept ps) = plain ps := by
  have hplain : plain (plain ps) = plain ps :=
    List.filter_eq_self.2 fun _ hp => (mem_plain.1 hp).2
  have hcharset : plain ((charsetOf? ps).toList.map charsetParameter) = [] := by
    refine List.filter_eq_nil_iff.2 fun p hp hplain => ?_
    obtain ⟨value, -, rfl⟩ := List.mem_map.1 hp
    rw [Parameter.isPlain_eq_true_iff, isCharset_charsetParameter] at hplain
    exact Bool.noConfusion hplain.1
  have happend : plain (kept ps) =
      plain (plain ps) ++ plain ((charsetOf? ps).toList.map charsetParameter) :=
    List.filter_append ..
  rw [happend, hplain, hcharset, List.append_nil]

theorem charsetOf?_kept (ps : List Parameter) : charsetOf? (kept ps) = charsetOf? ps := by
  unfold kept
  cases charsetOf? ps with
  | none =>
    have hnone : (plain ps).filter Parameter.isCharset = [] :=
      List.filter_eq_nil_iff.2 fun p hp =>
        Bool.eq_false_iff.1 (Parameter.isPlain_eq_true_iff.1 (mem_plain.1 hp).2).1
    simp [charsetOf?, hnone]
  | some value => exact charsetOf?_concat (isCharset_charsetParameter value)

/-- **All is kept of what is kept.** -/
theorem kept_kept (ps : List Parameter) : kept (kept ps) = kept ps := by
  have hkept : ∀ qs, kept qs = plain qs ++ (charsetOf? qs).toList.map charsetParameter :=
    fun _ => rfl
  rw [hkept (kept ps), plain_kept, charsetOf?_kept, hkept]

/-- Nothing but what is kept counts. -/
theorem ofParameters_kept (media : List Char) (ps : List Parameter) :
    ofParameters media (kept ps) = ofParameters media ps := by
  unfold ofParameters
  rw [plain_kept, charsetOf?_kept]

theorem kept_eq_self {ps : List Parameter} (h : ∀ p ∈ ps, p.isPlain = true) : kept ps = ps := by
  have hnone : ps.filter Parameter.isCharset = [] := by
    refine List.filter_eq_nil_iff.2 fun p hp => ?_
    exact Bool.eq_false_iff.1 (Parameter.isPlain_eq_true_iff.1 (h p hp)).1
  unfold kept plain charsetOf?
  rw [List.filter_eq_self.2 h, hnone]
  exact List.append_nil ps

/-- **The texts of content types are the same where they have the same media type and keep the same
    parameters**, if these are whole. -/
theorem text_ofParameters_eq_iff {media media' : List Char} {ps qs : List Parameter}
    (hm : ';' ∉ media) (hm' : ';' ∉ media') (hp : ∀ p ∈ ps, p.IsWhole) (hq : ∀ q ∈ qs, q.IsWhole) :
    (ofParameters media ps).text = (ofParameters media' qs).text ↔
      media = media' ∧ kept ps = kept qs := by
  rw [← String.toList_inj, toList_text, toList_text]
  refine ⟨append_suffix_inj hm hm' (isWhole_of_mem_kept hp) (isWhole_of_mem_kept hq), fun h => ?_⟩
  rw [h.1, h.2]

end Countersign.ContentType
