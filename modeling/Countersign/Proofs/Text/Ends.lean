import Mathlib.Data.List.TakeWhile

/-!
# What stands at the two ends of a text

Blanks are taken off the ends of a text, and so are the double quotes of a value. Here this is said
of any class of elements (`stripEnds`).

* `IsBare` -- neither end of the list is of the class: so it is of what is left
  (`isBare_stripEnds`), and a list of which this is so is left as it is, and no other
  (`stripEnds_eq_self_iff`);
* `stripEnds_surrounded` -- more elements of the class around a list do not count.
-/

namespace Countersign.Text

variable {α : Type} {p : α → Bool} {xs : List α}

/-- The list without the elements of the class at its two ends. -/
def stripEnds (p : α → Bool) (xs : List α) : List α :=
  ((xs.dropWhile p).reverse.dropWhile p).reverse

/-- Neither end of the list is of the class. -/
def IsBare (p : α → Bool) (xs : List α) : Prop :=
  (∀ x ∈ xs.head?, p x = false) ∧ ∀ x ∈ xs.getLast?, p x = false

instance (p : α → Bool) (xs : List α) : Decidable (IsBare p xs) := by
  unfold IsBare
  infer_instance

theorem IsBare.of_forall (h : ∀ x ∈ xs, p x = false) : IsBare p xs :=
  ⟨fun x hx => h x (List.mem_of_head? hx), fun x hx => h x (List.mem_of_getLast? hx)⟩

theorem stripEnds_sublist (p : α → Bool) (xs : List α) : (stripEnds p xs).Sublist xs := by
  have hback : (stripEnds p xs).Sublist (xs.dropWhile p).reverse.reverse :=
    (List.dropWhile_sublist p).reverse
  rw [List.reverse_reverse] at hback
  exact hback.trans (List.dropWhile_sublist p)

/-- The first of what is left is not of the class. -/
theorem head?_dropWhile_eq_false {x : α} (h : x ∈ (xs.dropWhile p).head?) : p x = false := by
  have hnot := List.head?_dropWhile_not p xs
  rw [Option.mem_def.1 h] at hnot
  simpa using hnot

theorem isBare_stripEnds (p : α → Bool) (xs : List α) : IsBare p (stripEnds p xs) := by
  unfold stripEnds
  constructor
  · intro x hx
    rw [List.head?_reverse] at hx
    -- the last element of what is left was the last one of the reversed list
    have hlast : x ∈ (xs.dropWhile p).reverse.getLast? := by
      rw [← List.takeWhile_append_dropWhile (p := p) (l := (xs.dropWhile p).reverse),
        List.getLast?_append, Option.mem_def.1 hx]
      rfl
    rw [List.getLast?_reverse] at hlast
    exact head?_dropWhile_eq_false hlast
  · intro x hx
    rw [List.getLast?_reverse] at hx
    exact head?_dropWhile_eq_false hx

theorem dropWhile_eq_self (h : ∀ x ∈ xs.head?, p x = false) : xs.dropWhile p = xs := by
  cases xs with
  | nil => rfl
  | cons x xs => rw [List.dropWhile_cons_of_neg (by simp [h x rfl])]

/-- **A list is left as it is where neither end is of the class**, and nowhere else. -/
theorem stripEnds_eq_self_iff : stripEnds p xs = xs ↔ IsBare p xs := by
  constructor
  · intro h
    have hbare := isBare_stripEnds p xs
    rwa [h] at hbare
  · intro ⟨hfirst, hlast⟩
    rw [← List.head?_reverse] at hlast
    unfold stripEnds
    rw [dropWhile_eq_self hfirst, dropWhile_eq_self hlast, List.reverse_reverse]

theorem stripEnds_eq_nil (h : ∀ x ∈ xs, p x = true) : stripEnds p xs = [] := by
  unfold stripEnds
  rw [List.dropWhile_eq_nil_iff.2 h]
  rfl

/-- **More elements of the class around a list do not count.** -/
theorem stripEnds_surrounded {before after : List α} (hb : ∀ x ∈ before, p x = true)
    (ha : ∀ x ∈ after, p x = true) : stripEnds p (before ++ xs ++ after) = stripEnds p xs := by
  unfold stripEnds
  rw [List.append_assoc, List.dropWhile_append_of_pos hb, List.dropWhile_append,
    List.dropWhile_eq_nil_iff.2 ha]
  split
  · rename_i hnil
    rw [List.isEmpty_iff.1 hnil]
  · have hreverse : ∀ x ∈ after.reverse, p x = true := fun x hx => ha x (List.mem_reverse.1 hx)
    rw [List.reverse_append, List.dropWhile_append_of_pos hreverse]

end Countersign.Text
