/-!
# The order of texts that are written piece by piece

Lists are compared by the first place in which they differ. Where each element of a list is written
as some pieces of its own, the order is kept if it is kept by each element alone, and no element is
written as the beginning of another.

* `FirstSmaller` -- two lists differ in a place that both have, and the first has the smaller
  element there: whatever follows does not count then (`FirstSmaller.append_lt`);
* `flatMap_lt_flatMap_iff` -- the order of what is written is the order of the ranks of the
  elements, where elements of different ranks are written in the order of these.
-/

namespace Countersign.Text

section Comparing

variable {α β : Type} [LT α] [LT β] {xs ys : List α}

/-- The lists have the same beginning, and `xs` goes on with the smaller element. -/
def FirstSmaller (xs ys : List α) : Prop :=
  ∃ common a b us vs, xs = common ++ a :: us ∧ ys = common ++ b :: vs ∧ a < b

theorem FirstSmaller.of_lt {a b : α} (h : a < b) (us vs : List α) :
    FirstSmaller (a :: us) (b :: vs) := ⟨[], a, b, us, vs, rfl, rfl, h⟩

theorem FirstSmaller.cons (c : α) (h : FirstSmaller xs ys) : FirstSmaller (c :: xs) (c :: ys) := by
  obtain ⟨common, a, b, us, vs, rfl, rfl, hab⟩ := h
  exact ⟨c :: common, a, b, us, vs, rfl, rfl, hab⟩

/-- **What follows the first difference does not count.** -/
theorem FirstSmaller.append_lt (h : FirstSmaller xs ys) (us vs : List α) : xs ++ us < ys ++ vs := by
  obtain ⟨common, a, b, us', vs', rfl, rfl, hab⟩ := h
  rw [List.append_assoc, List.append_assoc]
  exact List.append_left_lt (List.cons_lt_cons_iff.2 (Or.inl hab))

/-- Elements that are written apart keep lists apart in the same way. -/
theorem FirstSmaller.flatMap {f : α → List β} (h : FirstSmaller xs ys)
    (hf : ∀ a ∈ xs, ∀ b ∈ ys, a < b → FirstSmaller (f a) (f b)) :
    FirstSmaller (xs.flatMap f) (ys.flatMap f) := by
  obtain ⟨common, a, b, us, vs, rfl, rfl, hab⟩ := h
  obtain ⟨common', c, d, us', vs', hc, hd, hcd⟩ := hf a (by simp) b (by simp) hab
  refine ⟨common.flatMap f ++ common', c, d, us' ++ us.flatMap f, vs' ++ vs.flatMap f, ?_, ?_, hcd⟩
  · rw [List.flatMap_append, List.flatMap_cons, hc]
    simp only [List.append_assoc, List.cons_append]
  · rw [List.flatMap_append, List.flatMap_cons, hd]
    simp only [List.append_assoc, List.cons_append]

end Comparing

section Writing

variable {α β : Type} [LT β] {rank : α → Nat} {write : α → List β}
  (hrank : ∀ a b, rank a = rank b → a = b) (hempty : ∀ a, write a ≠ [])
  (hwrite : ∀ a b, rank a < rank b → FirstSmaller (write a) (write b))
include hrank hempty hwrite

theorem flatMap_lt_flatMap : ∀ {as bs : List α}, as.map rank < bs.map rank →
    as.flatMap write < bs.flatMap write
  | _, [], h => absurd h (List.not_lt_nil _)
  | [], b :: bs, _ => by
    obtain ⟨x, xs, hx⟩ := List.exists_cons_of_ne_nil (hempty b)
    rw [List.flatMap_cons, hx]
    exact List.nil_lt_cons _ _
  | a :: as, b :: bs, h => by
    rw [List.map_cons, List.map_cons, List.cons_lt_cons_iff] at h
    rw [List.flatMap_cons, List.flatMap_cons]
    rcases h with hab | ⟨hab, h⟩
    · exact (hwrite a b hab).append_lt _ _
    · rw [hrank a b hab]
      exact List.append_left_lt (flatMap_lt_flatMap h)

/-- **What is written has the order of the ranks.** -/
theorem flatMap_lt_flatMap_iff [Std.Asymm (α := β) (· < ·)] {as bs : List α} :
    as.flatMap write < bs.flatMap write ↔ as.map rank < bs.map rank := by
  refine ⟨fun h => ?_, flatMap_lt_flatMap hrank hempty hwrite⟩
  by_cases heq : as.map rank = bs.map rank
  · have hsame : as = bs := (List.map_inj_right hrank).1 heq
    exact absurd (hsame ▸ h) (List.lt_irrefl _)
  · by_cases hlt : as.map rank < bs.map rank
    · exact hlt
    · rcases List.le_iff_lt_or_eq.1 (List.not_lt.1 hlt) with hge | hge
      · exact absurd (flatMap_lt_flatMap hrank hempty hwrite hge) (List.lt_asymm h)
      · exact absurd hge.symm heq

end Writing

end Countersign.Text
