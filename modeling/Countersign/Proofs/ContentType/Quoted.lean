import Countersign.Proofs.ContentType.Parameters
import Countersign.Proofs.Http.Alphabet
import Countersign.Proofs.Text.Case

/-!
# Content types with values in quotes

Between double quotes a value may hold semicolons. But a text is cut at every semicolon before any
quote is looked at. So a value ends at its first semicolon, and what comes behind it in the quotes
is read as parameters of its own.

* `QuotedType` -- a type, a subtype and parameters; `QuotedType.text` -- how they are written, every
  value in quotes;
* `Parameter.fragments`, `parameters_quote` -- what is read of such a parameter;
* `QuotedType.parse_quoted` -- what is read of the whole.
-/

namespace Countersign.ContentType

open Countersign.Text Countersign.Http

/-! ## 1. Types with values in quotes -/

/-- A visible character of ASCII that stands for itself between double quotes. -/
def isQuotable (c : Char) : Bool :=
  decide (33 ≤ c.toNat) && decide (c.toNat ≤ 126) && c != '\x22' && c != '\\'

/-- One token character or more. -/
def IsToken (cs : List Char) : Prop := cs ≠ [] ∧ ∀ c ∈ cs, isTokenChar c = true

instance (cs : List Char) : Decidable (IsToken cs) :=
  decidable_of_iff (cs ≠ [] ∧ cs.all isTokenChar = true) (and_congr_right' List.all_eq_true)

/-- The name is a token, and the value can be put into quotes. -/
def Parameter.IsQuotable (p : Parameter) : Prop :=
  IsToken p.name ∧ ∀ c ∈ p.value, isQuotable c = true

instance (p : Parameter) : Decidable p.IsQuotable :=
  decidable_of_iff (IsToken p.name ∧ p.value.all isQuotable = true)
    (and_congr_right' List.all_eq_true)

/-- A type, a subtype and parameters. -/
structure QuotedType where
  type : List Char
  subtype : List Char
  parameters : List Parameter
  deriving Repr, DecidableEq

/-- The parameter with quotes around its value. -/
def Parameter.quote (p : Parameter) : Parameter := ⟨p.name, ['\x22'] ++ p.value ++ ['\x22']⟩

namespace QuotedType

/-- The type and the subtype are tokens, and so are the names of the parameters. -/
def IsLegal (q : QuotedType) : Prop :=
  IsToken q.type ∧ IsToken q.subtype ∧ ∀ p ∈ q.parameters, p.IsQuotable

instance (q : QuotedType) : Decidable q.IsLegal := by
  unfold IsLegal
  infer_instance

/-- The type and the subtype around a slash. -/
def base (q : QuotedType) : List Char := q.type ++ '/' :: q.subtype

/-- The type and the subtype in small letters. -/
def media (q : QuotedType) : List Char := q.base.map Char.toLower

/-- What is written, with every value in quotes. -/
def text (q : QuotedType) : String :=
  String.ofList (q.base ++ suffix (q.parameters.map Parameter.quote))

end QuotedType

/-! ## 2. What is read -/

/-- What is read of a parameter with its value in quotes: the value up to its first semicolon, and
    behind it what the rest of the value spells. -/
def Parameter.fragments (p : Parameter) : List Parameter :=
  ⟨p.name, (p.value.splitOn ';').headD []⟩ :: parameters p.value

theorem IsToken.not_mem {cs : List Char} (h : IsToken cs) {c : Char} (hc : isTokenChar c = false) :
    c ∉ cs := fun hm => Bool.eq_false_iff.1 hc (h.2 c hm)

theorem IsToken.isBlank_eq_false {cs : List Char} (h : IsToken cs) :
    ∀ c ∈ cs, isBlank c = false := by
  intro c hc
  have hbounds := bounds_of_isTokenChar (h.2 c hc)
  exact isBlank_eq_false_of_bounds hbounds.1 hbounds.2

theorem isQuotable_iff {c : Char} :
    isQuotable c = true ↔ ((33 ≤ c.toNat ∧ c.toNat ≤ 126) ∧ c ≠ '\x22') ∧ c ≠ '\\' := by
  simp [isQuotable]

/-- The quotes around a value are taken off and nothing else is. -/
theorem unquote_trim_surrounded {before value after : List Char}
    (hb : ∀ c ∈ before, (c == '\x22') = true) (hv : ∀ c ∈ value, isQuotable c = true)
    (ha : ∀ c ∈ after, (c == '\x22') = true) :
    unquote (trim (before ++ value ++ after)) = value := by
  have hquote : ∀ c : Char, (c == '\x22') = true → isBlank c = false := by
    intro c hc
    rw [beq_iff_eq.1 hc]
    decide
  have hblank : ∀ c ∈ value, isBlank c = false := fun c hc =>
    have hbounds := (isQuotable_iff.1 (hv c hc)).1.1
    isBlank_eq_false_of_bounds hbounds.1 hbounds.2
  have htrim : trim (before ++ value ++ after) = before ++ value ++ after := by
    refine trim_eq_self_iff.2 (IsBare.of_forall fun c hc => ?_)
    rw [List.mem_append, List.mem_append] at hc
    rcases hc with (hc | hc) | hc
    · exact hquote c (hb c hc)
    · exact hblank c hc
    · exact hquote c (ha c hc)
  have hbare : stripEnds (· == '\x22') value = value :=
    stripEnds_eq_self_iff.2 (IsBare.of_forall fun c hc =>
      beq_eq_false_iff_ne.2 (isQuotable_iff.1 (hv c hc)).1.2)
  rw [htrim]
  exact (stripEnds_surrounded hb ha).trans hbare

/-- A quote that closes a piece does not count. -/
theorem readPiece?_concat_quote {piece : List Char} (h : ∀ c ∈ piece, isQuotable c = true) :
    readPiece? (piece ++ ['\x22']) = readPiece? piece := by
  by_cases hm : '=' ∈ piece
  · obtain ⟨name, value, rfl, hname⟩ := List.eq_append_cons_of_mem hm
    have hv : ∀ c ∈ value, isQuotable c = true := fun c hc => h c (by simp [hc])
    have hnone : ∀ c ∈ ([] : List Char), (c == '\x22') = true :=
      fun _ hc => absurd hc List.not_mem_nil
    have hquote : ∀ c ∈ ['\x22'], (c == '\x22') = true := by simp
    have hclosed := unquote_trim_surrounded hnone hv hquote
    have hopen := unquote_trim_surrounded hnone hv hnone
    rw [List.nil_append] at hclosed hopen
    rw [List.append_nil] at hopen
    rw [List.append_assoc, List.cons_append, readPiece?_append hname, readPiece?_append hname,
      hclosed, hopen]
  · rw [readPiece?_eq_none hm, readPiece?_eq_none]
    simp [hm]

theorem parameters_concat_quote {cs : List Char} (h : ∀ c ∈ cs, isQuotable c = true) :
    parameters (';' :: (cs ++ ['\x22'])) = parameters (';' :: cs) := by
  have hpiece : ∀ piece : List Char, (∀ c ∈ piece, isQuotable c = true) → ';' ∉ piece →
      parameters (';' :: (piece ++ ['\x22'])) = parameters (';' :: piece) := by
    intro piece hp hs
    rw [parameters_cons_of_not_mem hs, parameters_cons_of_not_mem (by simp [hs]),
      readPiece?_concat_quote hp]
  by_cases hs : ';' ∈ cs
  · -- the piece behind the last semicolon is the one that the quote closes
    obtain ⟨last, front, hrev, hlast⟩ := List.eq_append_cons_of_mem (List.mem_reverse.2 hs)
    have hcs : cs = front.reverse ++ ';' :: last.reverse := by
      rw [← List.reverse_reverse cs, hrev]
      simp
    have hq : ∀ c ∈ last.reverse, isQuotable c = true := fun c hc =>
      h c (hcs ▸ List.mem_append_right _ (List.mem_cons_of_mem _ hc))
    rw [hcs, List.append_assoc, List.cons_append, ← List.cons_append, parameters_append,
      hpiece _ hq (by simpa using hlast), ← parameters_append, List.cons_append]
  · exact hpiece cs h hs

/-- A value that is opened by a quote, and closed by one or not. -/
theorem parameters_quoted {name value after : List Char} (hn : IsToken name)
    (hv : ∀ c ∈ value, isQuotable c = true) (hs : ';' ∉ value)
    (ha : ∀ c ∈ after, (c == '\x22') = true) :
    parameters (';' :: Parameter.text ⟨name, ['\x22'] ++ value ++ after⟩) = [⟨name, value⟩] := by
  have hquote : ∀ c ∈ ['\x22'], (c == '\x22') = true := by simp
  have htrim : trim name = name := trim_eq_self_iff.2 (IsBare.of_forall hn.isBlank_eq_false)
  have hafter : ';' ∉ after := fun hm => absurd (ha ';' hm) (by decide)
  have hwhole : Parameter.IsWhole ⟨name, ['\x22'] ++ value ++ after⟩ :=
    ⟨hn.not_mem (by decide), hn.not_mem (by decide), by simp [hs, hafter]⟩
  rw [parameters_text hwhole]
  unfold Parameter.again
  rw [htrim, unquote_trim_surrounded hquote hv ha]

/-- **What is read of a parameter with its value in quotes.** -/
theorem parameters_quote {p : Parameter} (h : p.IsQuotable) :
    parameters (';' :: p.quote.text) = p.fragments := by
  obtain ⟨hname, hvalue⟩ := h
  unfold Parameter.fragments
  by_cases hs : ';' ∈ p.value
  · obtain ⟨first, rest, hcut, hfirst⟩ := List.eq_append_cons_of_mem hs
    have hv : ∀ c ∈ first, isQuotable c = true := fun c hc => hvalue c (by simp [hcut, hc])
    have hr : ∀ c ∈ rest, isQuotable c = true := fun c hc => hvalue c (by simp [hcut, hc])
    have htext : ';' :: p.quote.text =
        ';' :: Parameter.text ⟨p.name, ['\x22'] ++ first ++ []⟩ ++ ';' :: (rest ++ ['\x22']) := by
      simp [Parameter.text, Parameter.quote, hcut]
    have hnone : ∀ c ∈ ([] : List Char), (c == '\x22') = true :=
      fun _ hc => absurd hc List.not_mem_nil
    rw [htext, parameters_append, parameters_quoted hname hv hfirst hnone,
      parameters_concat_quote hr, hcut, parameters_append, parameters_eq_nil hfirst,
      List.splitOn_append_cons_self_of_not_mem hfirst]
    rfl
  · have hquote : ∀ c ∈ ['\x22'], (c == '\x22') = true := by simp
    unfold Parameter.quote
    rw [parameters_quoted hname hvalue hs hquote, parameters_eq_nil hs,
      List.splitOn_eq_singleton hs]
    rfl

theorem IsToken.map_toLower_ne_nil {cs : List Char} (h : IsToken cs) :
    cs.map Char.toLower ≠ [] := by
  simpa using h.1

namespace QuotedType

variable {q : QuotedType}

theorem IsLegal.base_semicolon (h : q.IsLegal) : ';' ∉ q.base := by
  have ht := h.1.not_mem (c := ';') (by decide)
  have hs := h.2.1.not_mem (c := ';') (by decide)
  simp [base, ht, hs]

theorem IsLegal.media_semicolon (h : q.IsLegal) : ';' ∉ q.media :=
  not_mem_map_toLower (by decide) h.base_semicolon

theorem IsLegal.trim_base (h : q.IsLegal) : trim q.base = q.base := by
  refine trim_eq_self_iff.2 (IsBare.of_forall fun c hc => ?_)
  have hslash : isBlank '/' = false := by decide
  rcases List.mem_append.1 hc with hc | hc
  · exact h.1.isBlank_eq_false c hc
  · rcases List.mem_cons.1 hc with rfl | hc
    · exact hslash
    · exact h.2.1.isBlank_eq_false c hc

theorem IsLegal.isMediaType (h : q.IsLegal) : isMediaType q.media = true := by
  have hslash : '/' ∉ q.type.map Char.toLower :=
    not_mem_map_toLower (by decide) (h.1.not_mem (by decide))
  have hbefore : ∀ c ∈ q.type.map Char.toLower, (c != '/') = true :=
    fun c hc => bne_iff_ne.2 (ne_of_mem_of_not_mem hc hslash)
  have hmedia : q.media = q.type.map Char.toLower ++ '/' :: q.subtype.map Char.toLower := by
    unfold media base
    rw [List.map_append, List.map_cons]
    rfl
  obtain ⟨c, cs, hsubtype⟩ := List.exists_cons_of_ne_nil h.2.1.map_toLower_ne_nil
  unfold ContentType.isMediaType
  rw [hmedia, List.dropWhile_append_of_pos hbefore, List.takeWhile_append_of_pos hbefore, hsubtype]
  simpa using h.1.1

/-- **A type whose values are in quotes is read, each parameter as its fragments.** -/
theorem parse_quoted (h : q.IsLegal) :
    parse q.text = .ok (ofParameters q.media (q.parameters.flatMap Parameter.fragments)) := by
  rw [parse_eq_ok_iff]
  unfold text
  rw [String.toList_ofList, essence_append_suffix _ h.base_semicolon, h.trim_base,
    parameters_append_suffix _ h.base_semicolon, List.flatMap_map]
  refine ⟨h.isMediaType, ?_⟩
  rw [List.flatMap_congr fun p hp => parameters_quote (h.2.2 p hp)]
  rfl

end QuotedType

end Countersign.ContentType
