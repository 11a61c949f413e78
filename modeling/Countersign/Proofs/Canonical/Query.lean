import Mathlib.Data.List.Perm.Basic
import Countersign.Canonical.Query
import Countersign.Request

/-!
# The order of the pairs of a query

Pairs are written in the order `pairLe`, which is a linear order: of two different pairs exactly one
comes first. So there is one list of given pairs in that order (`eq_sortedPairs_of_perm`), and the
order in which a query came is not in its canonical form (`query_eq_of_perm`). Taking the query key
by key, with the values of each key in order, comes to the same list (`query_eq_grouped`).
-/

namespace Countersign.Canonical

open Countersign.Text

/-! ## 1. A linear order -/

theorem pairLe_iff {a b : String × String} :
    pairLe a b = true ↔ a.1 < b.1 ∨ (a.1 = b.1 ∧ a.2 ≤ b.2) := by
  unfold pairLe
  rw [Bool.or_eq_true, Bool.and_eq_true, decide_eq_true_iff, decide_eq_true_iff, beq_iff_eq]

theorem pairLe_trans (a b c : String × String) (hab : pairLe a b = true) (hbc : pairLe b c = true) :
    pairLe a c = true := by
  rw [pairLe_iff] at hab hbc ⊢
  rcases hab with hab | ⟨hab, hv⟩
  · rcases hbc with hbc | ⟨hbc, -⟩
    · exact Or.inl (String.lt_trans hab hbc)
    · exact Or.inl (hbc ▸ hab)
  · rcases hbc with hbc | ⟨hbc, hw⟩
    · exact Or.inl (hab ▸ hbc)
    · exact Or.inr ⟨hab.trans hbc, String.le_trans hv hw⟩

theorem pairLe_total (a b : String × String) : (pairLe a b || pairLe b a) = true := by
  rw [Bool.or_eq_true, pairLe_iff, pairLe_iff]
  by_cases hk : a.1 = b.1
  · rcases String.le_total a.2 b.2 with hv | hv
    · exact Or.inl (Or.inr ⟨hk, hv⟩)
    · exact Or.inr (Or.inr ⟨hk.symm, hv⟩)
  · by_cases hl : a.1 < b.1
    · exact Or.inl (Or.inl hl)
    · exact Or.inr (Or.inl (Std.lt_of_le_of_ne (String.not_lt.1 hl) (Ne.symm hk)))

theorem pairLe_antisymm {a b : String × String} (hab : pairLe a b = true)
    (hba : pairLe b a = true) : a = b := by
  rw [pairLe_iff] at hab hba
  rcases hab with hab | ⟨hk, hv⟩
  · rcases hba with hba | ⟨hk, -⟩
    · exact absurd hba (String.lt_asymm hab)
    · exact absurd (hk ▸ hab) (String.lt_irrefl _)
  · rcases hba with hba | ⟨-, hw⟩
    · exact absurd (hk ▸ hba) (String.lt_irrefl _)
    · exact Prod.ext hk (String.le_antisymm hv hw)

/-! ## 2. Lists in this order -/

theorem pairwise_sortedPairs (pairs : List (String × String)) :
    (sortedPairs pairs).Pairwise fun a b => pairLe a b = true :=
  List.pairwise_mergeSort pairLe_trans pairLe_total pairs

theorem perm_sortedPairs (pairs : List (String × String)) : (sortedPairs pairs).Perm pairs :=
  List.mergeSort_perm pairs pairLe

/-- There is one list of given pairs in order. -/
theorem eq_sortedPairs_of_perm {pairs pairs' : List (String × String)} (h : pairs'.Perm pairs)
    (hs : pairs'.Pairwise fun a b => pairLe a b = true) : pairs' = sortedPairs pairs :=
  (h.trans (perm_sortedPairs pairs).symm).eq_of_pairwise
    (fun _ _ _ _ hab hba => pairLe_antisymm hab hba) hs (pairwise_sortedPairs pairs)

theorem sortedPairs_eq_of_perm {pairs pairs' : List (String × String)} (h : pairs.Perm pairs') :
    sortedPairs pairs = sortedPairs pairs' :=
  eq_sortedPairs_of_perm ((perm_sortedPairs pairs).trans h) (pairwise_sortedPairs pairs)

/-- **The order in which a query came is not in its canonical form.** -/
theorem query_eq_of_perm {pairs pairs' : List (String × String)} (h : pairs.Perm pairs') :
    query pairs = query pairs' := by
  unfold query
  rw [sortedPairs_eq_of_perm h]

/-! ## 3. Key by key -/

/-- The pairs of groups of values, group by group. -/
def ungroup (groups : List (String × List String)) : List (String × String) :=
  groups.flatMap fun g => g.2.map fun v => (g.1, v)

/-- Putting values together loses no pair and moves none. -/
theorem ungroup_gather (pairs : List (String × String)) :
    ungroup (Request.gather pairs) = pairs := by
  induction pairs with
  | nil => rfl
  | cons pair rest ih =>
    obtain ⟨key, value⟩ := pair
    rw [Request.gather]
    cases hg : Request.gather rest with
    | nil =>
      rw [hg] at ih
      exact congrArg _ ih
    | cons g groups =>
      obtain ⟨key', values⟩ := g
      rw [hg] at ih
      dsimp only
      split
      · rename_i hk
        subst hk
        exact congrArg ((key, value) :: ·) ih
      · exact congrArg ((key, value) :: ·) ih

theorem head?_gather (pairs : List (String × String)) :
    (Request.gather pairs).head?.map Prod.fst = pairs.head?.map Prod.fst := by
  cases pairs with
  | nil => rfl
  | cons pair rest =>
    obtain ⟨key, value⟩ := pair
    rw [Request.gather]
    split
    · rfl
    · split <;> rfl

/-- The groups of pairs with keys in order have each key once. -/
theorem pairwise_gather {pairs : List (String × String)}
    (h : pairs.Pairwise fun a b => a.1 ≤ b.1) :
    (Request.gather pairs).Pairwise fun a b => a.1 < b.1 := by
  induction pairs with
  | nil => exact .nil
  | cons pair rest ih =>
    obtain ⟨key, value⟩ := pair
    obtain ⟨hfirst, hrest⟩ := List.pairwise_cons.1 h
    have hgroups := ih hrest
    have hhead := head?_gather rest
    rw [Request.gather]
    cases hg : Request.gather rest with
    | nil => exact List.pairwise_singleton _ _
    | cons g groups =>
      obtain ⟨key', values⟩ := g
      rw [hg] at hgroups hhead
      dsimp only
      split
      · rename_i hk
        subst hk
        exact List.pairwise_cons.2 (List.pairwise_cons.1 hgroups)
      · rename_i hk
        -- the first group has the key of the first pair of the rest
        obtain ⟨first, hmem, (hkey : first.1 = key')⟩ := Option.map_eq_some_iff.1 hhead.symm
        have hle : key ≤ key' := hkey ▸ hfirst first (List.mem_of_head? hmem)
        have hlt : key < key' := Std.lt_of_le_of_ne hle hk
        refine List.pairwise_cons.2 ⟨fun g hmem => ?_, hgroups⟩
        rcases List.mem_cons.1 hmem with rfl | hmem
        · exact hlt
        · exact String.lt_trans hlt ((List.pairwise_cons.1 hgroups).1 g hmem)

/-- A group with its values in order. -/
def sortGroup (group : String × List String) : String × List String :=
  (group.1, group.2.mergeSort fun v w => v ≤ w)

theorem perm_ungroup_sortGroup (groups : List (String × List String)) :
    (ungroup (groups.map sortGroup)).Perm (ungroup groups) := by
  unfold ungroup
  rw [List.flatMap_map]
  exact List.Perm.flatMap_left groups fun g _ => (List.mergeSort_perm g.2 _).map _

theorem pairwise_ungroup_sortGroup {groups : List (String × List String)}
    (h : groups.Pairwise fun a b => a.1 < b.1) :
    (ungroup (groups.map sortGroup)).Pairwise fun a b => pairLe a b = true := by
  unfold ungroup
  rw [List.flatMap_map, List.pairwise_flatMap]
  refine ⟨fun g _ => ?_, h.imp fun hab x hx y hy => ?_⟩
  · have hvalues : (g.2.mergeSort fun v w => v ≤ w).Pairwise fun v w => decide (v ≤ w) = true :=
      List.pairwise_mergeSort (by simpa using fun _ _ _ => String.le_trans)
        (by simpa using String.le_total) g.2
    exact hvalues.map _ fun v w hvw => pairLe_iff.2 (Or.inr ⟨rfl, of_decide_eq_true hvw⟩)
  · obtain ⟨v, -, rfl⟩ := List.mem_map.1 hx
    obtain ⟨w, -, rfl⟩ := List.mem_map.1 hy
    exact pairLe_iff.2 (Or.inl hab)

/-- **The pairs are written key by key**, each key with its values in order. -/
theorem sortedPairs_eq_grouped (r : Request) :
    sortedPairs r.query = ungroup (r.grouped.map sortGroup) := by
  have hkeys : (r.query.mergeSort fun a b => a.1 ≤ b.1).Pairwise fun a b =>
      decide (a.1 ≤ b.1) = true :=
    List.pairwise_mergeSort (by simpa using fun _ _ _ => String.le_trans)
      (by simpa using String.le_total) r.query
  refine (eq_sortedPairs_of_perm ?_ ?_).symm
  · refine (perm_ungroup_sortGroup r.grouped).trans ?_
    unfold Request.grouped
    rw [ungroup_gather]
    exact List.mergeSort_perm _ _
  · exact pairwise_ungroup_sortGroup (pairwise_gather (hkeys.imp fun h => of_decide_eq_true h))

theorem query_eq_grouped (r : Request) : query r.query = String.ofList
    (['&'].intercalate ((ungroup (r.grouped.map sortGroup)).map queryToken)) := by
  unfold query
  rw [sortedPairs_eq_grouped]

end Countersign.Canonical
