import Countersign.Text.Blank
import Countersign.Proofs.Text.Ends

/-!
# Blanks around a text

* `isBlank_eq_false_of_bounds` -- no visible character of ASCII is a blank;
* `trimStart_eq_iff` -- what is left behind the blanks at the start of a text;
* `trim_eq_self_iff` -- a text is left as it is where it neither starts nor ends with a blank;
* `trim_surrounded`, `trim_eq_nil` -- more blanks around a text change nothing of what is left, and
  nothing is left of blanks alone.
-/

namespace Countersign.Text

/-- A visible character of ASCII is no blank. -/
theorem isBlank_eq_false_of_bounds {c : Char} (hl : 33 ≤ c.toNat) (hu : c.toNat ≤ 126) :
    isBlank c = false := by
  have htable : ∀ n : Nat, n < 127 → 33 ≤ n → inRanges blankRanges n = false := by decide
  exact htable c.toNat (by omega) hl

theorem trimStart_eq_iff {cs ds : List Char} : trimStart cs = ds ↔
    (∃ blanks, cs = blanks ++ ds ∧ ∀ c ∈ blanks, isBlank c = true) ∧
      ∀ c, ds.head? = some c → isBlank c = false := by
  unfold trimStart
  constructor
  · intro h
    refine ⟨⟨cs.takeWhile isBlank, ?_, List.all_eq_true.1 List.all_takeWhile⟩, fun c hc => ?_⟩
    · rw [← h, List.takeWhile_append_dropWhile]
    · rw [← h] at hc
      have hnot := List.head?_dropWhile_not isBlank cs
      rw [hc] at hnot
      simpa using hnot
  · intro h
    obtain ⟨⟨blanks, rfl, hb⟩, hfirst⟩ := h
    rw [List.dropWhile_append_of_pos hb]
    cases ds with
    | nil => rfl
    | cons c ds => simp [hfirst c rfl]

theorem trim_eq_self_iff {cs : List Char} : trim cs = cs ↔ IsBare isBlank cs :=
  stripEnds_eq_self_iff

/-- Nothing is left to trim of what was trimmed. -/
theorem trim_trim (cs : List Char) : trim (trim cs) = trim cs :=
  trim_eq_self_iff.2 (isBare_stripEnds isBlank cs)

/-- Nothing is left of blanks. -/
theorem trim_eq_nil {cs : List Char} (h : ∀ c ∈ cs, isBlank c = true) : trim cs = [] :=
  stripEnds_eq_nil h

/-- **Blanks around a text do not count.** -/
theorem trim_surrounded {before cs after : List Char} (hb : ∀ c ∈ before, isBlank c = true)
    (ha : ∀ c ∈ after, isBlank c = true) : trim (before ++ cs ++ after) = trim cs :=
  stripEnds_surrounded hb ha

end Countersign.Text
