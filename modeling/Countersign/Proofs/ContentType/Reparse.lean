import Countersign.Proofs.ContentType.Parameters
import Countersign.Proofs.Text.Case

/-!
# Reading a content type back

What is written of a content type that was read can be read, but not always back. Values are trimmed
before their quotes are taken off and not after it, and they are written without quotes. So the
blanks at the ends of a value that its quotes held in are lost the next time.

* `Parameter.IsRead` -- what holds of a parameter that was read; it is read back where there are no
  blanks around its value (`Parameter.IsRead.again_eq_self_iff`);
* `kept_map_again` -- what is kept is kept when it is read back;
* `parse_text` -- the content type that is read back: it is the same exactly where no value that is
  kept has a blank at an end, and so wherever there was no double quote.
-/

namespace Countersign.ContentType

open Countersign.Text

/-! ## 1. Media types that were read -/

theorem not_mem_essence (cs : List Char) : ';' ∉ essence cs :=
  not_mem_map_toLower (by decide) fun hm =>
    not_mem_of_mem_splitOn (headD_mem_splitOn ';' cs) (mem_of_mem_trim hm)

/-- The media type is in the form in which it is read again. -/
theorem map_toLower_trim_essence (cs : List Char) :
    (trim (essence cs)).map Char.toLower = essence cs := by
  have hlower : Char.toLower ∘ Char.toLower = Char.toLower := funext toLower_toLower
  unfold essence
  rw [trim_map_toLower, trim_trim, List.map_map, hlower]

/-! ## 2. Parameters that were read -/

theorem parameters_append_suffix_of_whole {media : List Char} {ps : List Parameter}
    (hm : ';' ∉ media) (hp : ∀ p ∈ ps, p.IsWhole) :
    parameters (media ++ suffix ps) = ps.map Parameter.again := by
  rw [parameters_append_suffix ps hm, List.map_eq_flatMap]
  exact List.flatMap_congr fun p h => parameters_text (hp p h)

/-- The parameter was read: its name is trimmed and there are no quotes around its value. -/
structure Parameter.IsRead (p : Parameter) : Prop extends p.IsWhole where
  name_trimmed : trim p.name = p.name
  value_bare : IsBare (· == '\x22') p.value

theorem isRead_of_mem_parameters {cs : List Char} {p : Parameter} (h : p ∈ parameters cs) :
    p.IsRead := by
  have hwhole := isWhole_of_mem_parameters h
  obtain ⟨piece, -, hread⟩ := List.mem_filterMap.1 h
  obtain ⟨name, value, -, rfl, -⟩ := exists_cut_of_readPiece? hread
  exact ⟨hwhole, trim_trim name, isBare_stripEnds _ (trim value)⟩

theorem isRead_of_mem_kept {ps : List Parameter} (h : ∀ p ∈ ps, p.IsRead) :
    ∀ p ∈ kept ps, p.IsRead := by
  intro p hp
  have hwhole := isWhole_of_mem_kept (fun q hq => (h q hq).toIsWhole) p hp
  have hname : trim charsetName = charsetName := by decide
  rcases mem_kept hp with hp | ⟨q, hq, rfl⟩
  · exact h p hp
  · exact ⟨hwhole, hname, (h q hq).value_bare⟩

/-- **A parameter that was read is read back where there are no blanks around its value.** -/
theorem Parameter.IsRead.again_eq_self_iff {p : Parameter} (h : p.IsRead) :
    p.again = p ↔ IsBare isBlank p.value := by
  have hfields : p.again = p ↔ unquote (trim p.value) = p.value := by
    obtain ⟨name, value⟩ := p
    rw [again, mk.injEq, and_iff_right h.name_trimmed]
  rw [hfields, ← trim_eq_self_iff]
  constructor
  · intro hvalue
    -- nothing is taken off in the first step, since there is no less after the second
    have hsub : (unquote (trim p.value)).Sublist (trim p.value) := stripEnds_sublist _ _
    rw [hvalue] at hsub
    exact (stripEnds_sublist isBlank p.value).antisymm hsub
  · intro htrim
    rw [htrim]
    exact stripEnds_eq_self_iff.2 h.value_bare

/-- Which parameters are kept goes by their names alone. -/
theorem kept_map_again {ps : List Parameter} (h : ∀ p ∈ ps, p.IsRead) :
    kept (ps.map Parameter.again) = (kept ps).map Parameter.again := by
  have hfilter : ∀ f : Parameter → Bool, (∀ p q : Parameter, p.name = q.name → f p = f q) →
      (ps.map Parameter.again).filter f = (ps.filter f).map Parameter.again := by
    intro f hf
    rw [List.filter_map]
    exact congrArg _ (List.filter_congr fun p hp => hf _ _ (h p hp).name_trimmed)
  have hisCharset : ∀ p q : Parameter, p.name = q.name → p.isCharset = q.isCharset := by
    intro p q hname
    unfold Parameter.isCharset
    rw [hname]
  have hplain : plain (ps.map Parameter.again) = (plain ps).map Parameter.again := by
    refine hfilter _ fun p q hname => ?_
    unfold Parameter.isPlain
    rw [hisCharset p q hname, hname]
  have hcharset : charsetOf? (ps.map Parameter.again) =
      (charsetOf? ps).map fun value => unquote (trim value) := by
    unfold charsetOf?
    rw [hfilter _ hisCharset, List.getLast?_map, Option.map_map, Option.map_map]
    rfl
  have hagain : ∀ value, charsetParameter (unquote (trim value)) =
      (charsetParameter value).again := by
    have hname : trim charsetName = charsetName := by decide
    intro value
    unfold charsetParameter Parameter.again
    rw [hname]
  unfold kept
  rw [hplain, hcharset, List.map_append]
  cases charsetOf? ps with
  | none => rfl
  | some value => simp [hagain]

/-- **All that is kept is read back where no value has a blank at an end.** -/
theorem ofParameters_map_again_eq_iff {media : List Char} {ps : List Parameter} (hm : ';' ∉ media)
    (h : ∀ p ∈ ps, p.IsRead) (hkept : kept ps = ps) :
    ofParameters media (ps.map Parameter.again) = ofParameters media ps ↔
      ∀ p ∈ ps, IsBare isBlank p.value := by
  have hwhole : ∀ p ∈ ps, p.IsWhole := fun p hp => (h p hp).toIsWhole
  have hagain : ∀ p ∈ ps.map Parameter.again, p.IsWhole := by
    intro p hp
    obtain ⟨q, hq, rfl⟩ := List.mem_map.1 hp
    exact (hwhole q hq).again
  have hsame := text_ofParameters_eq_iff hm hm hagain hwhole
  rw [kept_map_again h, hkept, and_iff_right rfl] at hsame
  have hmap : ps.map Parameter.again = ps ↔ ∀ p ∈ ps, p.again = p := by
    have hinj := List.map_inj_left (l := ps) (f := Parameter.again) (g := id)
    rwa [List.map_id] at hinj
  constructor
  · intro heq p hp
    exact (h p hp).again_eq_self_iff.1 (hmap.1 (hsame.1 (congrArg ContentType.text heq)) p hp)
  · intro hbare
    rw [hmap.2 fun p hp => (h p hp).again_eq_self_iff.2 (hbare p hp)]

/-! ## 3. The content type that is read back -/

/-- No blanks are held in where there are no quotes. -/
theorem isBare_of_mem_kept {cs : List Char} (hq : '\x22' ∉ cs) :
    ∀ p ∈ kept (parameters cs), IsBare isBlank p.value := by
  have hread : ∀ p ∈ parameters cs, IsBare isBlank p.value := by
    intro p hp
    obtain ⟨piece, hpiece, hread⟩ := List.mem_filterMap.1 hp
    obtain ⟨name, value, rfl, rfl, -⟩ := exists_cut_of_readPiece? hread
    have hvalue : ∀ c ∈ trim value, (c == '\x22') = false := by
      intro c hc
      refine beq_eq_false_iff_ne.2 (ne_of_mem_of_not_mem ?_ hq)
      refine mem_of_mem_splitOn (List.mem_of_mem_tail hpiece) ?_
      exact List.mem_append_right _ (List.mem_cons_of_mem _ (mem_of_mem_trim hc))
    have hunquote : unquote (trim value) = trim value :=
      stripEnds_eq_self_iff.2 (IsBare.of_forall hvalue)
    rw [hunquote]
    exact isBare_stripEnds isBlank value
  intro p hp
  rcases mem_kept hp with hp | ⟨q, hq, rfl⟩
  · exact hread p hp
  · exact hread q hq

/-- **What is written of a content type that was read can be read**, each parameter that was kept
    once more. The same content type is read back exactly where no value that was kept has a blank
    at an end, and so wherever there was no double quote. -/
theorem parse_text {s : String} {t : ContentType} (h : parse s = .ok t) :
    parse t.text = .ok (ofParameters (essence s.toList)
        ((kept (parameters s.toList)).map Parameter.again)) ∧
      (parse t.text = .ok t ↔ ∀ p ∈ kept (parameters s.toList), IsBare isBlank p.value) ∧
      ('\x22' ∉ s.toList → parse t.text = .ok t) := by
  obtain ⟨hmedia, ht⟩ := parse_eq_ok_iff.1 h
  generalize hps : kept (parameters s.toList) = ps
  have hread : ∀ p ∈ ps, p.IsRead :=
    hps ▸ isRead_of_mem_kept fun p hp => isRead_of_mem_parameters hp
  have hwhole : ∀ p ∈ ps, p.IsWhole := fun p hp => (hread p hp).toIsWhole
  have hkept : kept ps = ps := hps ▸ kept_kept _
  rw [← ofParameters_kept, hps] at ht
  have htext : t.text.toList = essence s.toList ++ suffix ps := by rw [ht, toList_text, hkept]
  have hparse : parse t.text = .ok (ofParameters (essence s.toList) (ps.map Parameter.again)) := by
    rw [parse_eq_ok_iff, htext, essence_append_suffix ps (not_mem_essence _),
      map_toLower_trim_essence, parameters_append_suffix_of_whole (not_mem_essence _) hwhole]
    exact ⟨hmedia, rfl⟩
  have hiff : parse t.text = .ok t ↔ ∀ p ∈ ps, IsBare isBlank p.value := by
    rw [hparse, Except.ok.injEq, ht]
    exact ofParameters_map_again_eq_iff (not_mem_essence _) hread hkept
  exact ⟨hparse, hiff, fun hq => hiff.2 (hps ▸ isBare_of_mem_kept hq)⟩

/-- Quotes around a value without blanks and an `=` in it, and a charset. -/
theorem parse_text_quoted :
    parse "Text/HTML; q=\"a=b\"; Charset=\"utf-8\"" = .ok ⟨"text/html; q=a=b", some "utf-8"⟩ ∧
      parse (text ⟨"text/html; q=a=b", some "utf-8"⟩) = .ok ⟨"text/html; q=a=b", some "utf-8"⟩ :=
  have h : parse "Text/HTML; q=\"a=b\"; Charset=\"utf-8\"" =
      .ok ⟨"text/html; q=a=b", some "utf-8"⟩ := by decide
  ⟨h, (parse_text h).2.1.2 (by decide)⟩

/-- Blanks inside quotes are not read back: what was read as `" y "` is read as `y`. -/
theorem not_parse_text_blanks :
    ¬ ∀ (s : String) (t : ContentType), parse s = .ok t → parse t.text = .ok t := by
  intro h
  have hread : parse "text/plain; x=\" y \"" = .ok ⟨"text/plain; x= y ", none⟩ := by decide
  have hagain : parse (text ⟨"text/plain; x= y ", none⟩) = .ok ⟨"text/plain; x=y", none⟩ := by
    decide
  have hback := h _ _ hread
  rw [hagain] at hback
  exact absurd hback (by decide)

end Countersign.ContentType
