/-!
# Joining and cutting

Pieces that are joined with a separator between them, and a list that is cut at one. Where no piece
holds the separator, cutting undoes joining.

* `mem_intercalate`, `mem_of_mem_splitOn` -- joining brings nothing in but the separator, and
  cutting nothing at all; `not_mem_of_mem_splitOn` -- the separator is not in what is cut;
* `intercalate_append_cons`, `append_intercalate_cons` -- a join as pieces with a separator behind
  each or before each; `flatMap_intercalate` -- a join of what the pieces are written with;
* `eq_and_eq_of_append_cons` -- a list is cut at its first separator in one way;
* `IsPiece`, `filter_splitOn_intercalate`, `eq_of_intercalate_eq` -- and at all of them, where no
  piece is empty;
* `eq_of_map_eq` -- lists of pieces, or of anything else, that are told apart by their images.
-/

namespace Countersign.Text

/-! ## 1. What is in a join -/

/-- A joined text is made of the separator and the pieces. -/
theorem mem_intercalate {α : Type} {sep : List α} {x : α} : ∀ {ls : List (List α)},
    x ∈ sep.intercalate ls → x ∈ sep ∨ ∃ l ∈ ls, x ∈ l
  | [], h => absurd h List.not_mem_nil
  | [l], h => Or.inr ⟨l, List.mem_cons_self, by simpa using h⟩
  | l :: m :: ls, h => by
    rw [List.intercalate_cons_cons, List.mem_append, List.mem_append] at h
    rcases h with (h | h) | h
    · exact Or.inr ⟨l, List.mem_cons_self, h⟩
    · exact Or.inl h
    · rcases mem_intercalate h with h | ⟨k, hk, h⟩
      · exact Or.inl h
      · exact Or.inr ⟨k, List.mem_cons_of_mem _ hk, h⟩

/-- The pieces before the last one are each followed by a separator. -/
theorem intercalate_append_cons {α : Type} (sep : List α) (ls : List (List α)) (l : List α)
    (rest : List (List α)) : sep.intercalate (ls ++ l :: rest) =
      ls.flatMap (· ++ sep) ++ sep.intercalate (l :: rest) := by
  induction ls with
  | nil => rfl
  | cons m ls ih =>
    have hcons : ∀ k ks, ks ≠ [] → sep.intercalate (k :: ks) = k ++ sep ++ sep.intercalate ks := by
      intro k ks hks
      obtain ⟨a, as, rfl⟩ := List.exists_cons_of_ne_nil hks
      exact List.intercalate_cons_cons
    rw [List.cons_append, hcons m _ (by simp), ih, List.flatMap_cons]
    exact (List.append_assoc ..).symm

/-- With one more separator in front each piece has a separator before it. -/
theorem append_intercalate_cons {α : Type} (sep l : List α) (ls : List (List α)) :
    sep ++ sep.intercalate (l :: ls) = (l :: ls).flatMap (sep ++ ·) := by
  induction ls generalizing l with
  | nil => simp
  | cons m ls ih =>
    rw [List.flatMap_cons, ← ih, List.intercalate_cons_cons]
    simp only [List.append_assoc]

/-- Writing each element of a join is joining what is written. -/
theorem flatMap_intercalate {α β : Type} (f : α → List β) (sep : List α) (ls : List (List α)) :
    (sep.intercalate ls).flatMap f = (sep.flatMap f).intercalate (ls.map fun l => l.flatMap f) := by
  induction ls with
  | nil => rfl
  | cons l ls ih =>
    cases ls with
    | nil => simp
    | cons m ls =>
      rw [List.intercalate_cons_cons, List.flatMap_append, List.flatMap_append, ih]
      simp only [List.map_cons, List.intercalate_cons_cons]

/-! ## 2. What is between separators -/

/-- What lies between two separators was in the text and is no separator. -/
theorem mem_of_mem_splitOnP {α : Type} {p : α → Bool} {x : α} {xs piece : List α}
    (hp : piece ∈ xs.splitOnP p) (hx : x ∈ piece) : x ∈ xs ∧ p x = false := by
  induction xs generalizing piece with
  | nil =>
    rw [List.splitOnP_nil, List.mem_singleton] at hp
    rw [hp] at hx
    exact absurd hx List.not_mem_nil
  | cons y ys ih =>
    have later : ∀ {q : List α}, q ∈ ys.splitOnP p → x ∈ q → x ∈ y :: ys ∧ p x = false :=
      fun hq hxq => ⟨List.mem_cons_of_mem _ (ih hq hxq).1, (ih hq hxq).2⟩
    rw [List.splitOnP_cons_eq_if_modifyHead] at hp
    cases hy : p y with
    | true =>
      rw [hy, if_pos rfl, List.mem_cons] at hp
      rcases hp with hp | hp
      · rw [hp] at hx
        exact absurd hx List.not_mem_nil
      · exact later hp hx
    | false =>
      rw [hy, if_neg Bool.false_ne_true] at hp
      cases hs : ys.splitOnP p with
      | nil => exact absurd hs (List.splitOnP_ne_nil p ys)
      | cons q qs =>
        rw [hs, List.modifyHead_cons, List.mem_cons] at hp
        rcases hp with hp | hp
        · rw [hp, List.mem_cons] at hx
          rcases hx with hx | hx
          · exact ⟨hx ▸ List.mem_cons_self, hx ▸ hy⟩
          · exact later (hs ▸ List.mem_cons_self) hx
        · exact later (hs ▸ List.mem_cons_of_mem _ hp) hx

theorem mem_of_mem_splitOn {sep x : Char} {xs piece : List Char} (hp : piece ∈ xs.splitOn sep)
    (hx : x ∈ piece) : x ∈ xs := by
  rw [List.splitOn_eq_splitOnP] at hp
  exact (mem_of_mem_splitOnP hp hx).1

theorem not_mem_of_mem_splitOn {sep : Char} {xs piece : List Char} (hp : piece ∈ xs.splitOn sep) :
    sep ∉ piece := by
  rw [List.splitOn_eq_splitOnP] at hp
  intro hm
  have hno := (mem_of_mem_splitOnP hp hm).2
  rw [beq_self_eq_true] at hno
  exact Bool.noConfusion hno

/-- There is a first piece, be it the whole text. -/
theorem headD_mem_splitOn (sep : Char) (xs : List Char) :
    (xs.splitOn sep).headD [] ∈ xs.splitOn sep := by
  cases hs : xs.splitOn sep with
  | nil => exact absurd hs (List.splitOn_ne_nil sep xs)
  | cons first rest => exact List.mem_cons_self

/-! ## 3. One way to cut -/

/-- A list is cut at a separator in one way where neither first part holds it. -/
theorem eq_and_eq_of_append_cons {α : Type} {sep : α} : ∀ {xs ys us vs : List α}, sep ∉ xs →
    sep ∉ ys → xs ++ sep :: us = ys ++ sep :: vs → xs = ys ∧ us = vs
  | [], [], _, _, _, _, h => ⟨rfl, (List.cons.inj h).2⟩
  | [], y :: ys, _, _, _, hy, h => absurd ((List.cons.inj h).1 ▸ List.mem_cons_self) hy
  | x :: xs, [], _, _, hx, _, h => absurd ((List.cons.inj h).1 ▸ List.mem_cons_self) hx
  | x :: xs, y :: ys, us, vs, hx, hy, h => by
    obtain ⟨rfl, ht⟩ := List.cons.inj h
    obtain ⟨rfl, rfl⟩ := eq_and_eq_of_append_cons (fun hm => hx (List.mem_cons_of_mem _ hm))
      (fun hm => hy (List.mem_cons_of_mem _ hm)) ht
    exact ⟨rfl, rfl⟩

/-- What lies between two separators, if it is not empty. -/
def IsPiece {α : Type} (sep : α) (piece : List α) : Prop := sep ∉ piece ∧ piece ≠ []

/-- Cutting a join of pieces at its separators gives them back. -/
theorem filter_splitOn_intercalate {α : Type} [BEq α] [LawfulBEq α] {sep : α} {ls : List (List α)}
    (h : ∀ l ∈ ls, IsPiece sep l) :
    (([sep].intercalate ls).splitOn sep).filter (fun l => !l.isEmpty) = ls := by
  cases hl : ls with
  | nil => rfl
  | cons l rest =>
    rw [← hl, List.splitOn_intercalate sep (fun l hm => (h l hm).1) (hl ▸ List.cons_ne_nil _ _),
      List.filter_eq_self]
    intro l hm
    cases l with
    | nil => exact absurd rfl (h [] hm).2
    | cons x xs => rfl

/-- Joins of pieces are the same only where the pieces are. -/
theorem eq_of_intercalate_eq {α : Type} [BEq α] [LawfulBEq α] {sep : α} {ls ms : List (List α)}
    (hl : ∀ l ∈ ls, IsPiece sep l) (hm : ∀ m ∈ ms, IsPiece sep m)
    (h : [sep].intercalate ls = [sep].intercalate ms) : ls = ms := by
  rw [← filter_splitOn_intercalate hl, h, filter_splitOn_intercalate hm]

/-! ## 4. Lists of the same images -/

/-- Lists with the same images in the same places are the same where these tell the elements
    apart. -/
theorem eq_of_map_eq {α β : Type} {f : α → β} : ∀ {xs ys : List α}, xs.map f = ys.map f →
    (∀ x ∈ xs, ∀ y ∈ ys, f x = f y → x = y) → xs = ys
  | [], [], _, _ => rfl
  | [], _ :: _, h, _ => nomatch h
  | _ :: _, [], h, _ => nomatch h
  | x :: xs, y :: ys, h, hapart => by
    obtain ⟨hhead, htail⟩ := List.cons.inj h
    rw [hapart x List.mem_cons_self y List.mem_cons_self hhead, eq_of_map_eq htail
      fun x' hx y' hy => hapart x' (List.mem_cons_of_mem _ hx) y' (List.mem_cons_of_mem _ hy)]

end Countersign.Text
