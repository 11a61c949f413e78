import Mathlib.Data.List.Chain
import Countersign.Proofs.Text.Alphabet

/-!
# Words and their normal form

The value of a field is signed with one space between its words, however it is spaced. Here the
words are said without cutting the text up, and the normal form without writing it.

* `Runs` -- the longest runs of characters that are no ASCII blanks; `runs_iff`: every text has one
  list of them, its words;
* `words_normalize` -- the normal form keeps the words, so it is the same of two texts exactly where
  these are (`normalize_eq_iff`);
* `IsNormal` -- single spaces within a text and no other ASCII blank; `normalize_eq_self_iff`: such
  texts are left as they are, and no others;
* `normalize_unique_form` -- the normal form of a text is the one normal text with its words.
-/

namespace Countersign.Text

variable {a b cs w : List Char} {ws : List (List Char)}

/-! ## 1. Words -/

/-- Some characters, none of them an ASCII blank. -/
def IsWord (w : List Char) : Prop := w ≠ [] ∧ ∀ c ∈ w, isAsciiBlank c = false

theorem isWord_of_mem_words (h : w ∈ words cs) : IsWord w :=
  ⟨by simpa using (List.mem_filter.1 h).2, fun _ hc => (mem_of_mem_words h hc).2⟩

/-- No word goes across a blank. -/
theorem words_append_cons {c : Char} (hc : isAsciiBlank c = true) (xs ys : List Char) :
    words (xs ++ c :: ys) = words xs ++ words ys := by
  unfold words
  rw [List.splitOnP_append_cons xs ys hc, List.filter_append]

theorem words_cons {c : Char} (hc : isAsciiBlank c = true) (cs : List Char) :
    words (c :: cs) = words cs := words_append_cons hc [] cs

theorem IsWord.words_eq (hw : IsWord w) : words w = [w] := by
  unfold words
  rw [List.splitOnP_eq_singleton hw.2]
  exact List.filter_eq_self.2 (by simpa using hw.1)

theorem IsWord.words_append (hw : IsWord w) (cs : List Char) :
    words (w ++ ' ' :: cs) = w :: words cs := by
  rw [words_append_cons (by decide), hw.words_eq, List.singleton_append]

/-! ## 2. The longest runs -/

/-- The text is made of blanks and of these runs in their order, and no run can be made longer: what
    follows it is a blank, and before it nothing stands or a blank. -/
inductive Runs : List Char → List (List Char) → Prop
  | nil : Runs [] []
  | blank {c : Char} {cs : List Char} {ws : List (List Char)} (hc : isAsciiBlank c = true)
      (h : Runs cs ws) : Runs (c :: cs) ws
  | run {w rest : List Char} {ws : List (List Char)} (hw : IsWord w)
      (hend : ∀ c ∈ rest.head?, isAsciiBlank c = true) (h : Runs rest ws) :
      Runs (w ++ rest) (w :: ws)

theorem Runs.words_eq (h : Runs cs ws) : words cs = ws := by
  induction h with
  | nil => rfl
  | blank hc _ ih => rw [words_cons hc, ih]
  | @run w rest ws hw hend _ ih =>
    cases rest with
    | nil => rw [List.append_nil, hw.words_eq, ← ih, words_nil]
    | cons c rest =>
      have hc : isAsciiBlank c = true := hend c rfl
      rw [words_append_cons hc, hw.words_eq, ← ih, words_cons hc]
      rfl

theorem exists_runs (cs : List Char) : ∃ ws, Runs cs ws := by
  induction cs with
  | nil => exact ⟨[], .nil⟩
  | cons c cs ih =>
    obtain ⟨ws, h⟩ := ih
    cases hc : isAsciiBlank c with
    | true => exact ⟨ws, .blank hc h⟩
    | false =>
      have hword : IsWord [c] := ⟨List.cons_ne_nil _ _, List.forall_mem_singleton.2 hc⟩
      -- the character is a run of its own, or makes the first run longer
      cases h with
      | nil => exact ⟨[[c]], .run hword nofun .nil⟩
      | blank hd h => exact ⟨[c] :: ws, .run hword (by simpa using hd) (.blank hd h)⟩
      | @run w rest ws hw hend h =>
        have hlonger : IsWord (c :: w) :=
          ⟨List.cons_ne_nil _ _, List.forall_mem_cons.2 ⟨hc, hw.2⟩⟩
        exact ⟨(c :: w) :: ws, .run hlonger hend h⟩

/-- **The longest runs of a text are its words.** -/
theorem runs_iff : Runs cs ws ↔ words cs = ws := by
  refine ⟨Runs.words_eq, fun h => ?_⟩
  obtain ⟨vs, hvs⟩ := exists_runs cs
  rwa [← h, hvs.words_eq]

theorem exists_runs_iff : (∃ ws, Runs a ws ∧ Runs b ws) ↔ words a = words b := by
  simp only [runs_iff]
  exact ⟨fun ⟨_, ha, hb⟩ => ha.trans hb.symm, fun h => ⟨words b, h, rfl⟩⟩

/-! ## 3. The normal form keeps the words -/

theorem words_intercalate (h : ∀ w ∈ ws, IsWord w) : words ([' '].intercalate ws) = ws := by
  induction ws with
  | nil => rfl
  | cons w ws ih =>
    obtain ⟨hw, hrest⟩ := List.forall_mem_cons.1 h
    cases ws with
    | nil => rw [List.intercalate_singleton, hw.words_eq]
    | cons v vs =>
      rw [List.intercalate_cons_cons, List.append_assoc, List.singleton_append, hw.words_append,
        ih hrest]

/-- **The words of a text are those of its normal form.** -/
@[simp] theorem words_normalize (cs : List Char) : words (normalize cs) = words cs :=
  words_intercalate fun _ => isWord_of_mem_words

theorem normalize_eq_iff : normalize a = normalize b ↔ words a = words b := by
  refine ⟨fun h => ?_, fun h => ?_⟩
  · rw [← words_normalize a, h, words_normalize]
  · unfold normalize
    rw [h]

/-! ## 4. Normal texts -/

/-- The only ASCII blanks are spaces, no space follows another one, and none is at either end. -/
structure IsNormal (cs : List Char) : Prop where
  spaces : ∀ c ∈ cs, isAsciiBlank c = true → c = ' '
  single : cs.IsChain fun c d => c = ' ' → d ≠ ' '
  ends : IsBare isAsciiBlank cs

theorem IsWord.ne_space (hw : IsWord w) {c : Char} (hc : c ∈ w) : c ≠ ' ' := by
  rintro rfl
  exact absurd (hw.2 ' ' hc) (by decide)

theorem IsWord.isNormal (hw : IsWord w) : IsNormal w where
  spaces c hc hb := absurd (hw.2 c hc) (by rw [hb]; decide)
  single := (List.pairwise_of_forall_mem_list fun _ hc _ _ he => absurd he (hw.ne_space hc)).isChain
  ends := .of_forall hw.2

/-- A word and a space may stand before a normal text. -/
theorem IsNormal.word_append (hw : IsWord w) (h : IsNormal cs) (hne : cs ≠ []) :
    IsNormal (w ++ ' ' :: cs) where
  spaces c hc hb := by
    rcases List.mem_append.1 hc with hc | hc
    · exact hw.isNormal.spaces c hc hb
    · rcases List.mem_cons.1 hc with hc | hc
      · exact hc
      · exact h.spaces c hc hb
  single := by
    have hnext : ∀ d ∈ cs.head?, ' ' = ' ' → d ≠ ' ' := by
      rintro d hd - rfl
      exact absurd (h.ends.1 ' ' hd) (by decide)
    refine List.isChain_append.2 ⟨hw.isNormal.single, List.isChain_cons.2 ⟨hnext, h.single⟩, ?_⟩
    exact fun c hc _ _ he => absurd he (hw.ne_space (List.mem_of_getLast? hc))
  ends := by
    refine ⟨fun c hc => ?_, fun c hc => ?_⟩
    · rw [List.head?_append_of_ne_nil _ hw.1] at hc
      exact hw.2 c (List.mem_of_head? hc)
    · rw [List.append_cons, List.getLast?_append_of_ne_nil _ hne] at hc
      exact h.ends.2 c hc

theorem isNormal_intercalate (h : ∀ w ∈ ws, IsWord w) : IsNormal ([' '].intercalate ws) := by
  induction ws with
  | nil => exact ⟨nofun, .nil, nofun, nofun⟩
  | cons w ws ih =>
    obtain ⟨hw, hrest⟩ := List.forall_mem_cons.1 h
    cases ws with
    | nil =>
      rw [List.intercalate_singleton]
      exact hw.isNormal
    | cons v vs =>
      have hne : [' '].intercalate (v :: vs) ≠ [] := by
        intro hnil
        have hwords := words_intercalate hrest
        rw [hnil, words_nil] at hwords
        cases hwords
      rw [List.intercalate_cons_cons, List.append_assoc, List.singleton_append]
      exact .word_append hw (ih hrest) hne

theorem isNormal_normalize (cs : List Char) : IsNormal (normalize cs) :=
  isNormal_intercalate fun _ => isWord_of_mem_words

/-- Behind a space within a normal text there is a normal text. -/
theorem IsNormal.of_append_space (h : IsNormal (w ++ ' ' :: cs)) : IsNormal cs ∧ cs ≠ [] := by
  obtain ⟨hnext, hsingle⟩ := List.isChain_cons.1 (List.isChain_append.1 h.single).2.1
  have hspaces : ∀ c ∈ cs, isAsciiBlank c = true → c = ' ' := fun c hc =>
    h.spaces c (List.mem_append_right _ (List.mem_cons_of_mem _ hc))
  have hlast : ∀ c ∈ (' ' :: cs).getLast?, isAsciiBlank c = false := by
    intro c hc
    rw [← List.getLast?_append_cons w] at hc
    exact h.ends.2 c hc
  have hne : cs ≠ [] := by
    rintro rfl
    exact absurd (hlast ' ' rfl) (by decide)
  refine ⟨⟨hspaces, hsingle, fun c hc => ?_, fun c hc => ?_⟩, hne⟩
  · exact Bool.eq_false_iff.2 fun hb => hnext c hc rfl (hspaces c (List.mem_of_head? hc) hb)
  · rw [← List.getLast?_append_of_ne_nil [' '] hne] at hc
    exact hlast c hc

/-- A normal text is nothing, a word, or a word, a space and a normal text. -/
theorem IsNormal.exists_first (h : IsNormal cs) (hne : cs ≠ []) : ∃ w, IsWord w ∧
    (cs = w ∨ ∃ rest, cs = w ++ ' ' :: rest ∧ IsNormal rest ∧ rest ≠ []) := by
  obtain ⟨ws, hruns⟩ := exists_runs cs
  cases hruns with
  | nil => exact absurd rfl hne
  | @blank c _ _ hc _ => exact absurd (h.ends.1 c rfl) (by rw [hc]; decide)
  | @run w rest _ hw hend _ =>
    refine ⟨w, hw, ?_⟩
    cases rest with
    | nil => exact Or.inl (List.append_nil w)
    | cons c rest =>
      obtain rfl := h.spaces c (List.mem_append_right _ List.mem_cons_self) (hend c rfl)
      exact Or.inr ⟨rest, rfl, h.of_append_space⟩

theorem IsNormal.normalize_eq {cs : List Char} (h : IsNormal cs) : normalize cs = cs := by
  by_cases hne : cs = []
  · rw [hne, normalize_nil]
  · obtain ⟨w, hw, hcs | ⟨rest, hcs, hrest, hr⟩⟩ := h.exists_first hne
    · rw [normalize, hcs, hw.words_eq, List.intercalate_singleton]
    · have ih : [' '].intercalate (words rest) = rest := hrest.normalize_eq
      -- there is a word behind the space, or the space would not be written again
      have hwords : words rest ≠ [] := by
        intro hnil
        rw [hnil] at ih
        exact hr ih.symm
      obtain ⟨v, vs, hv⟩ := List.exists_cons_of_ne_nil hwords
      rw [normalize, hcs, hw.words_append, hv, List.intercalate_cons_cons, ← hv, ih,
        List.append_assoc, List.singleton_append]
termination_by cs.length
decreasing_by
  rw [hcs, List.length_append, List.length_cons]
  omega

/-- **A text is left as it is where it is normal**, and nowhere else. -/
theorem normalize_eq_self_iff : normalize cs = cs ↔ IsNormal cs :=
  ⟨fun h => h ▸ isNormal_normalize cs, IsNormal.normalize_eq⟩

/-! ## 5. One form for one list of words -/

/-- **The normal form of a text is the one normal text with its longest runs**, so it is the same of
    two texts exactly where these have the same runs. -/
theorem normalize_unique_form (a b : List Char) :
    (∃! ws, Runs a ws) ∧
    (normalize a = normalize b ↔ ∃ ws, Runs a ws ∧ Runs b ws) ∧
    normalize (normalize a) = normalize a ∧ IsNormal (normalize a) ∧
    (normalize a = b ↔ IsNormal b ∧ ∃ ws, Runs a ws ∧ Runs b ws) := by
  have hnormal := isNormal_normalize a
  rw [exists_runs_iff]
  refine ⟨⟨words a, runs_iff.2 rfl, fun _ h => h.words_eq.symm⟩, normalize_eq_iff,
    normalize_eq_self_iff.2 hnormal, hnormal, fun h => ?_, fun ⟨hb, hwords⟩ => ?_⟩
  · rw [← h, words_normalize]
    exact ⟨hnormal, rfl⟩
  · rw [normalize_eq_iff.2 hwords, normalize_eq_self_iff.2 hb]

/-- Tabs and runs of blanks come to one space, and the blanks at the ends to nothing. -/
example : normalize "\tfoo\t \tbar\n".toList = "foo bar".toList := by decide

end Countersign.Text
