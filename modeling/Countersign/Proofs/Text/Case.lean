import Mathlib
import Countersign.Text.Case

/-!
# What lower case depends on

* `isUpper_of_mem_lowercase` -- no ASCII capital is left in a text in lower case, whatever alphabet
  its capitals came from;
* `lowercase_map_toLower` -- it does not matter in which case the ASCII letters of a text stand, nor
  does it where a capital sigma among them is looked at from;
* `trim_map_toLower` -- so it is for the blanks around a text.
-/

namespace Countersign.Text

/-! ## 1. ASCII capitals -/

theorem isUpper_iff_toNat {c : Char} : c.isUpper = true ↔ 65 ≤ c.toNat ∧ c.toNat ≤ 90 :=
  decide_eq_true_iff

/-- What is the same of the 26 capitals and of their small letters is the same of every character in
    either case. -/
theorem eq_of_capitals {β : Type} {f : Char → β}
    (h : ∀ n < 26, f (Char.ofNat (97 + n)) = f (Char.ofNat (65 + n))) (c : Char) :
    f c.toLower = f c := by
  by_cases hu : c.isUpper = true
  · have hbounds := isUpper_iff_toNat.1 hu
    have hsmall : c.toNat + 32 = 97 + (c.toNat - 65) := by omega
    have hcapital : 65 + (c.toNat - 65) = c.toNat := by omega
    have hc := h (c.toNat - 65) (by omega)
    rw [hcapital, Char.ofNat_toNat] at hc
    rw [Char.toLower_eq_of_isUpper hu, hsmall, hc]
  · rw [Char.toLower_eq_of_not_isUpper hu]

theorem map_toLower_eq_self {cs : List Char} (h : ∀ c ∈ cs, c.isUpper = false) :
    cs.map Char.toLower = cs := by
  have hchar : ∀ c ∈ cs, c.toLower = id c := fun c hc =>
    Char.toLower_eq_of_not_isUpper (Bool.eq_false_iff.1 (h c hc))
  rw [List.map_congr_left hchar, List.map_id]

@[simp] theorem toLower_toLower (c : Char) : c.toLower.toLower = c.toLower :=
  eq_of_capitals (by decide) c

/-- Small letters bring in nothing but letters. -/
theorem not_mem_map_toLower {c : Char} {cs : List Char} (hc : c.isAlpha = false) (h : c ∉ cs) :
    c ∉ cs.map Char.toLower := by
  intro hm
  obtain ⟨d, hd, rfl⟩ := List.mem_map.1 hm
  by_cases hu : d.isUpper = true
  · have hsmall : d.toLower.isLower = true := by simp [Char.isAlpha, hu]
    simp [Char.isAlpha, hsmall] at hc
  · rw [Char.toLower_eq_of_not_isUpper hu] at h
    exact h hd

@[simp] theorem isBlank_toLower (c : Char) : isBlank c.toLower = isBlank c :=
  eq_of_capitals (by decide) c

@[simp] theorem isCased_toLower (c : Char) : isCased c.toLower = isCased c :=
  eq_of_capitals (by decide) c

@[simp] theorem isCaseIgnorable_toLower (c : Char) :
    isCaseIgnorable c.toLower = isCaseIgnorable c :=
  eq_of_capitals (by decide +kernel) c

@[simp] theorem lowerChar_toLower (c : Char) : lowerChar c.toLower = lowerChar c :=
  eq_of_capitals (by decide) c

theorem toLower_eq_sigma_iff (c : Char) : c.toLower = 'Σ' ↔ c = 'Σ' := by
  have h := @eq_of_capitals Bool (· == 'Σ') (by decide) c
  rw [← beq_iff_eq, h, beq_iff_eq]

/-! ## 2. The case of ASCII letters does not matter -/

theorem dropWhile_map_toLower {p : Char → Bool} (h : ∀ c : Char, p c.toLower = p c)
    (cs : List Char) : (cs.map Char.toLower).dropWhile p = (cs.dropWhile p).map Char.toLower := by
  have hp : p ∘ Char.toLower = p := funext h
  rw [List.dropWhile_map, hp]

theorem trim_map_toLower (cs : List Char) :
    trim (cs.map Char.toLower) = (trim cs).map Char.toLower := by
  unfold trim trimStart
  rw [dropWhile_map_toLower isBlank_toLower, ← List.map_reverse,
    dropWhile_map_toLower isBlank_toLower, ← List.map_reverse]

theorem startsCased_map_toLower (cs : List Char) :
    startsCased (cs.map Char.toLower) = startsCased cs := by
  unfold startsCased
  rw [dropWhile_map_toLower isCaseIgnorable_toLower]
  cases cs.dropWhile isCaseIgnorable with
  | nil => rfl
  | cons c cs => exact isCased_toLower c

theorem lowerAfter_map_toLower (before cs : List Char) :
    lowerAfter (before.map Char.toLower) (cs.map Char.toLower) = lowerAfter before cs := by
  induction cs generalizing before with
  | nil => rfl
  | cons c cs ih =>
    -- the letters on both sides of a sigma are looked at for having a case, not for which
    have hend : endsWord (before.map Char.toLower) (cs.map Char.toLower) = endsWord before cs := by
      unfold endsWord
      rw [startsCased_map_toLower, startsCased_map_toLower]
    have hrest := ih (c :: before)
    rw [List.map_cons] at hrest ⊢
    unfold lowerAfter
    rw [hend, hrest, lowerChar_toLower]
    simp only [toLower_eq_sigma_iff]

/-- **Lower case does not depend on the case of ASCII letters.** -/
theorem lowercase_map_toLower (cs : List Char) : lowercase (cs.map Char.toLower) = lowercase cs :=
  lowerAfter_map_toLower [] cs

/-! ## 3. No capital is left -/

/-- A number behind those of the capitals is no capital, nor is the character that stands for a
    number of no character. -/
theorem isUpper_ofNat {n : Nat} (h : 90 < n) : (Char.ofNat n).isUpper = false := by
  have hn : (Char.ofNat n).toNat = n ∨ (Char.ofNat n).toNat = 0 := by
    rw [Char.toNat_ofNat]
    split
    · exact Or.inl rfl
    · exact Or.inr rfl
  rw [Bool.eq_false_iff]
  intro hu
  have hbounds := isUpper_iff_toNat.1 hu
  omega

theorem isUpper_of_mem_lowerSpecials : ∀ e ∈ lowerSpecials, ∀ n ∈ e.2,
    (Char.ofNat n).isUpper = false := by decide

theorem lt_target_of_mem_lowerRuns : ∀ r ∈ lowerRuns, 90 < r.target := by decide +kernel

theorem isUpper_of_mem_lowerChar {c d : Char} (h : d ∈ lowerChar c) : d.isUpper = false := by
  unfold lowerChar at h
  split at h
  · rw [List.mem_singleton.1 h]
    exact Char.isUpper_toLower_eq_false c
  · rename_i hwide
    unfold mapWide at h
    split at h
    · rename_i images hlookup
      obtain ⟨n, hn, rfl⟩ := List.mem_map.1 h
      obtain ⟨before, after, htable, -⟩ := List.lookup_eq_some_iff.1 hlookup
      have hmem : (c.toNat, images) ∈ lowerSpecials :=
        htable ▸ List.mem_append_right _ List.mem_cons_self
      exact isUpper_of_mem_lowerSpecials _ hmem n hn
    · rw [List.mem_singleton.1 h]
      unfold mapRuns
      split
      · rename_i r hfind
        have htarget := lt_target_of_mem_lowerRuns r (List.mem_of_find?_eq_some hfind)
        refine isUpper_ofNat ?_
        unfold CaseRun.image
        omega
      · exact isUpper_ofNat (by omega)

theorem isUpper_of_mem_lowerAfter {d : Char} : ∀ {before cs : List Char},
    d ∈ lowerAfter before cs → d.isUpper = false
  | _, [], h => absurd h List.not_mem_nil
  | before, c :: cs, h => by
    unfold lowerAfter at h
    rcases List.mem_append.1 h with h | h
    · split at h
      · rw [List.mem_singleton.1 h]
        split
        · decide
        · decide
      · exact isUpper_of_mem_lowerChar h
    · exact isUpper_of_mem_lowerAfter h

/-- **No ASCII capital is left in lower case.** -/
theorem isUpper_of_mem_lowercase {d : Char} {cs : List Char} (h : d ∈ lowercase cs) :
    d.isUpper = false := isUpper_of_mem_lowerAfter h

end Countersign.Text
