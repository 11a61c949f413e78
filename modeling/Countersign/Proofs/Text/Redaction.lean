import Countersign.Text.Redaction

/-!
# What a redacted text tells

Of a text below twelve characters its redaction tells whether it is empty; of a longer one it tells
the first and the last three characters. It tells that much and no more.

* `HasEnds` -- a text of twelve characters or more, with its two ends;
* `text_cases` -- a text is empty, short or has ends;
* `RedactedAlike` -- two texts are of one kind, with the same ends where they have ends;
* `redactText_eq_iff` -- these are the texts with one redaction.
-/

namespace Countersign.Text

/-! ## 1. Kinds of texts -/

/-- Between one and eleven characters. -/
def IsShort (s : String) : Prop := 1 ≤ s.length ∧ s.length ≤ 11

/-- Twelve characters or more, the first three of them `first` and the last three `last`. -/
structure HasEnds (first last : List Char) (s : String) : Prop where
  long : 12 ≤ s.length
  length_first : first.length = 3
  length_last : last.length = 3
  starts : first <+: s.toList
  ends : last <:+ s.toList

/-- The texts are both empty, both short, or both long with the same ends. -/
inductive RedactedAlike (s t : String) : Prop
  | empty (hs : s = "") (ht : t = "")
  | short (hs : IsShort s) (ht : IsShort t)
  | long {first last : List Char} (hs : HasEnds first last s) (ht : HasEnds first last t)

theorem hasEnds_of_le {s : String} (h : 12 ≤ s.length) :
    HasEnds (s.toList.take 3) (s.toList.drop (s.toList.length - 3)) s := by
  have hlength : s.toList.length = s.length := String.length_toList
  refine ⟨h, ?_, ?_, List.take_prefix _ _, List.drop_suffix _ _⟩
  · rw [List.length_take]
    omega
  · rw [List.length_drop]
    omega

theorem text_cases (s : String) : s = "" ∨ IsShort s ∨ ∃ first last, HasEnds first last s := by
  by_cases h0 : s.length = 0
  · exact Or.inl (String.length_eq_zero_iff.1 h0)
  · by_cases h12 : 12 ≤ s.length
    · exact Or.inr (Or.inr ⟨_, _, hasEnds_of_le h12⟩)
    · refine Or.inr (Or.inl ⟨?_, ?_⟩) <;> omega

/-! ## 2. Their redactions -/

theorem redactText_of_isShort {s : String} (h : IsShort s) : redactText s = "***" := by
  have hlength : s.toList.length = s.length := String.length_toList
  obtain ⟨h1, h11⟩ := h
  unfold redactText redactedLength
  simp only
  rw [if_neg (by omega), if_pos (by omega)]

theorem redactText_of_hasEnds {first last : List Char} {s : String} (h : HasEnds first last s) :
    redactText s = String.ofList (first ++ ['*', '*', '*'] ++ last) := by
  have hlength : s.toList.length = s.length := String.length_toList
  have hlong := h.long
  unfold redactText redactedLength
  simp only
  rw [if_neg (by omega), if_neg (by omega), ← h.length_first,
    ← List.prefix_iff_eq_take.1 h.starts, h.length_first, ← h.length_last,
    ← List.suffix_iff_eq_drop.1 h.ends]

/-- The kinds have redactions of different lengths. -/
theorem length_redactText (s : String) :
    (s = "" ∧ (redactText s).length = 5) ∨ (IsShort s ∧ (redactText s).length = 3) ∨
      ∃ first last, HasEnds first last s ∧ (redactText s).length = 9 := by
  rcases text_cases s with rfl | h | ⟨first, last, h⟩
  · exact Or.inl ⟨rfl, rfl⟩
  · rw [redactText_of_isShort h]
    exact Or.inr (Or.inl ⟨h, rfl⟩)
  · refine Or.inr (Or.inr ⟨first, last, h, ?_⟩)
    rw [redactText_of_hasEnds h, String.length_ofList]
    simp [h.length_first, h.length_last]

/-- **Texts have one redaction exactly when they are of one kind, with the same ends.** -/
theorem redactText_eq_iff {s t : String} : redactText s = redactText t ↔ RedactedAlike s t := by
  constructor
  · intro h
    have hlength : (redactText s).length = (redactText t).length := congrArg String.length h
    rcases length_redactText s with ⟨hs, hls⟩ | ⟨hs, hls⟩ | ⟨first, last, hs, hls⟩ <;>
      rcases length_redactText t with ⟨ht, hlt⟩ | ⟨ht, hlt⟩ | ⟨first', last', ht, hlt⟩
    -- texts of different kinds have redactions of different lengths
    any_goals omega
    · exact .empty hs ht
    · exact .short hs ht
    · rw [redactText_of_hasEnds hs, redactText_of_hasEnds ht, String.ofList_inj] at h
      obtain ⟨hfirst, hlast⟩ := List.append_inj' h (hs.length_last.trans ht.length_last.symm)
      obtain ⟨rfl, -⟩ := List.append_inj' hfirst rfl
      subst hlast
      exact .long hs ht
  · intro h
    cases h with
    | empty hs ht => rw [hs, ht]
    | short hs ht => rw [redactText_of_isShort hs, redactText_of_isShort ht]
    | long hs ht => rw [redactText_of_hasEnds hs, redactText_of_hasEnds ht]

end Countersign.Text
