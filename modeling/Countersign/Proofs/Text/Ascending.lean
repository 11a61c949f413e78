import Mathlib.Data.List.Perm.Basic
import Countersign.Text.Ascending

/-!
# What an ascending list is made of

Where the keys tell all elements apart, the ascending list of some elements has these and no others
(`mem_ascending`), so it depends on nothing but which they are (`ascending_congr`): neither their
order nor how often each is given.
-/

namespace Countersign.Text

variable {α : Type} {key : α → String}

/-- An insertion keeps what is there. -/
theorem mem_insertAscending_of_mem {x z : α} : ∀ {ys : List α}, z ∈ ys →
    z ∈ insertAscending key x ys
  | [], h => absurd h List.not_mem_nil
  | y :: ys, h => by
    unfold insertAscending
    split
    · exact List.mem_cons_of_mem _ h
    · split
      · exact h
      · rcases List.mem_cons.1 h with rfl | h
        · exact List.mem_cons_self
        · exact List.mem_cons_of_mem _ (mem_insertAscending_of_mem h)

/-- The element that is inserted is there, where no other has its key. -/
theorem mem_insertAscending_self (hkey : ∀ a b, key a = key b → a = b) (x : α) : ∀ ys : List α,
    x ∈ insertAscending key x ys
  | [] => List.mem_cons_self
  | y :: ys => by
    unfold insertAscending
    split
    · exact List.mem_cons_self
    · split
      · rename_i hxy
        exact hkey x y hxy ▸ List.mem_cons_self
      · exact List.mem_cons_of_mem _ (mem_insertAscending_self hkey x ys)

/-- **The ascending list has the elements that were given**, and no others. -/
theorem mem_ascending (hkey : ∀ a b, key a = key b → a = b) {z : α} {xs : List α} :
    z ∈ ascending key xs ↔ z ∈ xs := by
  induction xs with
  | nil => rfl
  | cons x xs ih =>
    rw [ascending_cons]
    constructor
    · intro h
      rcases eq_or_mem_of_mem_insertAscending key x h with rfl | h
      · exact List.mem_cons_self
      · exact List.mem_cons_of_mem _ (ih.1 h)
    · intro h
      rcases List.mem_cons.1 h with rfl | h
      · exact mem_insertAscending_self hkey z _
      · exact mem_insertAscending_of_mem (ih.2 h)

theorem ascending_eq_nil_iff (hkey : ∀ a b, key a = key b → a = b) {xs : List α} :
    ascending key xs = [] ↔ xs = [] := by
  rw [List.eq_nil_iff_forall_not_mem, List.eq_nil_iff_forall_not_mem]
  exact forall_congr' fun z => not_congr (mem_ascending hkey)

/-- Strictly ascending lists with the same elements are the same list. -/
theorem eq_of_mem_iff {xs ys : List α} (hx : xs.Pairwise fun a b => key a < key b)
    (hy : ys.Pairwise fun a b => key a < key b) (h : ∀ z, z ∈ xs ↔ z ∈ ys) : xs = ys := by
  have hne : ∀ {a b : α}, key a < key b → a ≠ b := fun hlt heq =>
    String.lt_irrefl _ (heq ▸ hlt)
  have hperm : xs.Perm ys := (List.perm_ext_iff_of_nodup (hx.imp hne) (hy.imp hne)).2 h
  exact hperm.eq_of_pairwise (fun a b _ _ hab hba => absurd hba (String.lt_asymm hab)) hx hy

/-- The ascending list depends on which elements are given, not on their order or number. -/
theorem ascending_congr (hkey : ∀ a b, key a = key b → a = b) {xs ys : List α}
    (h : ∀ z, z ∈ xs ↔ z ∈ ys) : ascending key xs = ascending key ys :=
  eq_of_mem_iff (pairwise_ascending key xs) (pairwise_ascending key ys) fun z => by
    rw [mem_ascending hkey, mem_ascending hkey, h z]

end Countersign.Text
