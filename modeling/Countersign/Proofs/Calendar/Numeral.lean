import Mathlib
import Countersign.Proofs.Text.Alphabet

/-!
# Decimal numbers of a fixed width

A number is padded with zeros to a width, and read as the value of its digits.

* `valueOf_padded`, `length_padded` -- the padded text has the value of the number, and the width
  where the number fits into it;
* `padded_valueOf` -- digits of the width are the padded text of their value.
-/

namespace Countersign.Calendar.Timestamp

/-- The digits of a number, as many as `width` says. -/
structure IsNumeral (width : Nat) (digits : List Char) : Prop where
  length_eq : digits.length = width
  isDigit : ∀ c ∈ digits, c.isDigit = true

/-! ## 1. Values -/

@[simp] theorem valueOf_append_singleton (digits : List Char) (d : Char) :
    valueOf (digits ++ [d]) = 10 * valueOf digits + (d.toNat - 48) := by
  simp [valueOf]

theorem valueOf_eq (digits : List Char) : valueOf digits = Nat.ofDigitChars 10 digits 0 := rfl

/-- Zeros in front do not count. -/
theorem valueOf_replicate_append (k : Nat) (digits : List Char) :
    valueOf (List.replicate k '0' ++ digits) = valueOf digits := by
  induction k with
  | zero => rfl
  | succ k ih =>
    have hzero : valueOf ('0' :: (List.replicate k '0' ++ digits)) =
        valueOf (List.replicate k '0' ++ digits) := rfl
    rw [List.replicate_succ, List.cons_append, hzero, ih]

/-- A padded number has the value of the number. -/
theorem valueOf_padded (width n : Nat) : valueOf (padded width n) = n := by
  unfold padded
  rw [valueOf_replicate_append, valueOf_eq]
  exact Nat.ofDigitChars_toDigits (by decide) (by decide)

theorem digit_bounds {d : Char} (h : d.isDigit = true) : 48 ≤ d.toNat ∧ d.toNat ≤ 57 :=
  Char.isDigit_iff_toNat.1 h

theorem valueOf_lt {digits : List Char} (h : ∀ c ∈ digits, c.isDigit = true) :
    valueOf digits < 10 ^ digits.length := by
  induction digits using List.reverseRecOn with
  | nil => decide
  | append_singleton digits d ih =>
    have hinit := ih fun c hc => h c (List.mem_append_left _ hc)
    have hd := digit_bounds (h d (List.mem_append_right _ List.mem_cons_self))
    rw [valueOf_append_singleton, List.length_append, List.length_singleton, Nat.pow_succ]
    omega

/-! ## 2. One numeral for each number -/

theorem isNumeral_padded {width n : Nat} (hw : 0 < width) (h : n < 10 ^ width) :
    IsNumeral width (padded width n) := by
  have hlen : (Nat.toDigits 10 n).length ≤ width :=
    (Nat.length_toDigits_le_iff (by decide) hw).2 h
  constructor
  · unfold padded
    simp only [List.length_append, List.length_replicate]
    omega
  · exact fun c hc => isDigit_of_mem_padded hc

/-- Digits of one width with one value are the same digits. -/
theorem eq_of_valueOf_eq {width : Nat} {ds es : List Char} (hd : IsNumeral width ds)
    (he : IsNumeral width es) (h : valueOf ds = valueOf es) : ds = es := by
  induction ds using List.reverseRecOn generalizing width es with
  | nil =>
    have hwidth := hd.length_eq
    have hes := he.length_eq
    rw [List.length_nil] at hwidth
    exact (List.length_eq_zero_iff.1 (by omega)).symm
  | append_singleton ds d ih =>
    have hwidth := hd.length_eq
    rw [List.length_append, List.length_singleton] at hwidth
    rcases List.eq_nil_or_concat es with rfl | ⟨es, e, rfl⟩
    · have hes := he.length_eq
      rw [List.length_nil] at hes
      omega
    · have hes := he.length_eq
      rw [List.concat_eq_append] at *
      rw [List.length_append, List.length_singleton] at hes
      have hbd := digit_bounds (hd.isDigit d (List.mem_append_right _ List.mem_cons_self))
      have hbe := digit_bounds (he.isDigit e (List.mem_append_right _ List.mem_cons_self))
      rw [valueOf_append_singleton, valueOf_append_singleton] at h
      have hds : IsNumeral ds.length ds :=
        ⟨rfl, fun c hc => hd.isDigit c (List.mem_append_left _ hc)⟩
      have hes' : IsNumeral ds.length es :=
        ⟨by omega, fun c hc => he.isDigit c (List.mem_append_left _ hc)⟩
      have hinit : ds = es := ih hds hes' (by omega)
      have hlast : d = e := Char.toNat_inj.1 (by omega)
      rw [hinit, hlast]

/-- **Digits of a width are the padded text of their value.** -/
theorem padded_valueOf {width : Nat} {digits : List Char} (hw : 0 < width)
    (h : IsNumeral width digits) : padded width (valueOf digits) = digits := by
  have hlt : valueOf digits < 10 ^ width := h.length_eq ▸ valueOf_lt h.isDigit
  exact eq_of_valueOf_eq (isNumeral_padded hw hlt) h (valueOf_padded _ _)

end Countersign.Calendar.Timestamp
