import Countersign.Calendar.Timestamp
import Countersign.Digest.Hmac
import Countersign.Text.Percent
import Countersign.Proofs.Text.Join
import Countersign.Proofs.Text.Trim

/-!
# What written text is made of

For each way in which the library writes or cuts text, the characters that can come out of it.

* letters and digits: where their numbers lie (`bounds_of_isAlphanum`);
* cutting: what is trimmed, or is a word of the text, was in the text before (`mem_of_mem_trim`,
  `mem_of_mem_words`);
* writing: percent-encoding (`mem_percentEncode`, `not_mem_percentEncode`), hexadecimal text
  (`mem_hexEncode`), decimal numbers (`isDigit_of_mem_padded`), dates and instants (`mem_dateChars`,
  `mem_instantChars`);
* normal form: a normalized text has spaces and characters that are no ASCII blanks
  (`mem_normalize`).
-/

namespace Countersign.Text

/-! ## 1. Letters and digits -/

/-- Letters and digits lie between `0` and `z`. -/
theorem bounds_of_isAlphanum {c : Char} (h : c.isAlphanum = true) :
    48 ≤ c.toNat ∧ c.toNat ≤ 122 := by
  unfold Char.isAlphanum Char.isAlpha at h
  simp only [Bool.or_eq_true] at h
  rcases h with (hupper | hlower) | hdigit
  · have hbounds : 65 ≤ c.toNat ∧ c.toNat ≤ 90 := decide_eq_true_iff.1 hupper
    omega
  · obtain ⟨hle, hge⟩ := Bool.and_eq_true_iff.1 hlower
    have hle : 97 ≤ c.toNat := decide_eq_true_iff.1 hle
    have hge : c.toNat ≤ 122 := decide_eq_true_iff.1 hge
    omega
  · have hbounds : 48 ≤ c.toNat ∧ c.toNat ≤ 57 := Char.isDigit_iff_toNat.1 hdigit
    omega

/-! ## 2. Trimming and words -/

theorem mem_of_mem_trim {c : Char} {cs : List Char} (h : c ∈ trim cs) : c ∈ cs :=
  (stripEnds_sublist isBlank cs).subset h

theorem mem_of_mem_words {c : Char} {cs w : List Char} (hw : w ∈ words cs) (hc : c ∈ w) :
    c ∈ cs ∧ isAsciiBlank c = false :=
  mem_of_mem_splitOnP (List.mem_filter.1 hw).1 hc

/-- A normalized text holds no ASCII blank but spaces. -/
theorem mem_normalize {c : Char} {cs : List Char} (h : c ∈ normalize cs) :
    c = ' ' ∨ (c ∈ cs ∧ isAsciiBlank c = false) := by
  rcases mem_intercalate h with h | ⟨w, hw, h⟩
  · exact Or.inl (List.mem_singleton.1 h)
  · exact Or.inr (mem_of_mem_words hw h)

/-! ## 3. Hexadecimal text and percent-encoding -/

/-- A digit or a small letter up to `f`. -/
def isLowerHex (c : Char) : Bool := c.isDigit || ('a' ≤ c && c ≤ 'f')

theorem isLowerHex_lowerDigit : ∀ n : Nat, n < 16 → isLowerHex (lowerDigit n) = true := by decide

theorem isUnreserved_upperDigit :
    ∀ n : Nat, n < 16 → Percent.isUnreserved (upperDigit n) = true := by decide

theorem mem_hexEncode {c : Char} {bs : List UInt8} (h : c ∈ Hex.encode bs) :
    isLowerHex c = true := by
  obtain ⟨b, -, h⟩ := List.mem_flatMap.1 h
  have hb : b.toNat < 256 := b.toNat_lt
  unfold Hex.encodeByte at h
  rcases List.mem_cons.1 h with rfl | h
  · exact isLowerHex_lowerDigit _ (by omega)
  · rw [List.mem_singleton.1 h]
    exact isLowerHex_lowerDigit _ (by omega)

theorem mem_percentEncodeByte {c : Char} {b : UInt8} (h : c ∈ Percent.encodeByte b) :
    Percent.isUnreserved c = true ∨ c = '%' := by
  have hb : b.toNat < 256 := b.toNat_lt
  unfold Percent.encodeByte at h
  split at h
  · rename_i hu
    rw [List.mem_singleton.1 h]
    exact Or.inl hu
  · rcases List.mem_cons.1 h with rfl | h
    · exact Or.inr rfl
    · rcases List.mem_cons.1 h with rfl | h
      · exact Or.inl (isUnreserved_upperDigit _ (by omega))
      · rw [List.mem_singleton.1 h]
        exact Or.inl (isUnreserved_upperDigit _ (by omega))

/-- Encoded text is made of unreserved characters and percent signs. -/
theorem mem_percentEncode {c : Char} {cs : List Char} (h : c ∈ Percent.encode cs) :
    Percent.isUnreserved c = true ∨ c = '%' := by
  obtain ⟨b, -, h⟩ := List.mem_flatMap.1 h
  exact mem_percentEncodeByte h

theorem not_mem_percentEncode {c : Char} (hu : Percent.isUnreserved c = false) (hp : c ≠ '%')
    (cs : List Char) : c ∉ Percent.encode cs := by
  intro h
  rcases mem_percentEncode h with h | h
  · rw [hu] at h
    cases h
  · exact hp h

end Countersign.Text

/-! ## 4. Dates and instants -/

namespace Countersign.Calendar.Timestamp

theorem isDigit_of_mem_padded {c : Char} {width n : Nat} (h : c ∈ padded width n) :
    c.isDigit = true := by
  unfold padded at h
  rcases List.mem_append.1 h with h | h
  · rw [List.eq_of_mem_replicate h]
    decide
  · exact Nat.isDigit_of_mem_toDigits (by decide) (by decide) h

theorem mem_year {c : Char} {y : Int} (h : c ∈ year y) : c.isDigit = true ∨ c = '-' ∨ c = '+' := by
  unfold year at h
  split at h
  · exact Or.inl (isDigit_of_mem_padded h)
  · rcases List.mem_cons.1 h with h | h
    · split at h
      · exact Or.inr (Or.inl h)
      · exact Or.inr (Or.inr h)
    · exact Or.inl (isDigit_of_mem_padded h)

/-- A date is written in digits, but for the sign of its year. -/
theorem mem_dateChars {c : Char} {d : Date} (h : c ∈ dateChars d) :
    c.isDigit = true ∨ c = '-' ∨ c = '+' := by
  unfold dateChars at h
  rw [List.mem_append, List.mem_append] at h
  rcases h with (h | h) | h
  · exact mem_year h
  · exact Or.inl (isDigit_of_mem_padded h)
  · exact Or.inl (isDigit_of_mem_padded h)

/-- An instant is written in digits, the two letters, and the sign of its year. -/
theorem mem_instantChars {c : Char} {t : Instant} (h : c ∈ instantChars t) :
    c.isDigit = true ∨ c = '-' ∨ c = '+' ∨ c = 'T' ∨ c = 'Z' := by
  unfold instantChars at h
  simp only [List.mem_append, List.mem_singleton] at h
  rcases h with ((((h | h) | h) | h) | h) | h
  · rcases mem_dateChars h with h | h | h
    · exact Or.inl h
    · exact Or.inr (Or.inl h)
    · exact Or.inr (Or.inr (Or.inl h))
  · exact Or.inr (Or.inr (Or.inr (Or.inl h)))
  · exact Or.inl (isDigit_of_mem_padded h)
  · exact Or.inl (isDigit_of_mem_padded h)
  · exact Or.inl (isDigit_of_mem_padded h)
  · exact Or.inr (Or.inr (Or.inr (Or.inr h)))

end Countersign.Calendar.Timestamp
