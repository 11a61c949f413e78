/-!
# Ascending lists without repetition

A finite set of things that are told apart by a text key is kept as the list in strictly ascending
order of the keys. `ascending` builds it by inserting one element after the other; of two elements
with one key the first inserted stays.
-/

namespace Countersign.Text

variable {α : Type}

/-- `x` put in its place; nothing changes where its key is there already. -/
def insertAscending (key : α → String) (x : α) : List α → List α
  | [] => [x]
  | y :: ys =>
    if key x < key y then x :: y :: ys
    else if key x = key y then y :: ys
    else y :: insertAscending key x ys

/-- The elements in strictly ascending order of their keys, each key once. -/
def ascending (key : α → String) (xs : List α) : List α := xs.foldr (insertAscending key) []

@[simp] theorem ascending_nil (key : α → String) : ascending key [] = [] := rfl

@[simp] theorem ascending_cons (key : α → String) (x : α) (xs : List α) :
    ascending key (x :: xs) = insertAscending key x (ascending key xs) := rfl

/-- Of two keys that are neither equal nor in order, the second is the smaller. -/
theorem lt_of_not_lt_of_ne {s t : String} (h : ¬ s < t) (hne : s ≠ t) : t < s :=
  Std.lt_of_le_of_ne (String.not_lt.1 h) (Ne.symm hne)

/-- An insertion brings in `x` and no other element. -/
theorem eq_or_mem_of_mem_insertAscending (key : α → String) (x : α) : ∀ {ys : List α} {z : α},
    z ∈ insertAscending key x ys → z = x ∨ z ∈ ys
  | [], z, h => by simpa [insertAscending] using h
  | y :: ys, z, h => by
    unfold insertAscending at h
    split at h
    · simpa using h
    · split at h
      · exact Or.inr h
      · rcases List.mem_cons.1 h with h | h
        · exact Or.inr (h ▸ List.mem_cons_self)
        · rcases eq_or_mem_of_mem_insertAscending key x h with h | h
          · exact Or.inl h
          · exact Or.inr (List.mem_cons_of_mem _ h)

/-- An insertion keeps the list strictly ascending. -/
theorem pairwise_insertAscending (key : α → String) (x : α) : ∀ {ys : List α},
    ys.Pairwise (fun a b => key a < key b) →
    (insertAscending key x ys).Pairwise (fun a b => key a < key b)
  | [], _ => by simp [insertAscending]
  | y :: ys, h => by
    obtain ⟨hy, hys⟩ := List.pairwise_cons.1 h
    unfold insertAscending
    split
    · rename_i hlt
      refine List.pairwise_cons.2 ⟨fun z hz => ?_, h⟩
      rcases List.mem_cons.1 hz with rfl | hz
      · exact hlt
      · exact String.lt_trans hlt (hy z hz)
    · split
      · exact h
      · rename_i hnlt hne
        refine List.pairwise_cons.2 ⟨fun z hz => ?_, pairwise_insertAscending key x hys⟩
        rcases eq_or_mem_of_mem_insertAscending key x hz with rfl | hz
        · exact lt_of_not_lt_of_ne hnlt hne
        · exact hy z hz

/-- **The list is strictly ascending**, so no key occurs twice. -/
theorem pairwise_ascending (key : α → String) : ∀ xs : List α,
    (ascending key xs).Pairwise (fun a b => key a < key b)
  | [] => List.Pairwise.nil
  | x :: xs => pairwise_insertAscending key x (pairwise_ascending key xs)

end Countersign.Text
