import Countersign.Fault

/-!
# Steps that may fail

How a chain of steps in `Except` comes to a result: every step of it does (`bind_eq_ok_iff`,
`map_eq_ok_iff`, `mapError_eq_ok_iff`); and how it fails: one step does, after the others came to a
result (`bind_eq_error_iff`, `map_eq_error_iff`). The same for a step on each element of a list
(`exists_mapM_iff`, `mapM_eq_ok_iff`, `exists_of_mapM_eq_error`). Chains whose steps are alike come
to the same (`bind_congr`, `mapM_congr`). Two results can be compared, so runs on given inputs can
be checked.

`kindOf?` is the kind of the fault of a step that fails. `FailsIff` says of a step when it fails and
with which kind, and that it comes to a result otherwise; it goes through chains whose faults are
all of one kind.

`Alike` compares two steps: both fail with one fault, or both come to results that are related. It
goes through chains too.
-/

namespace Countersign

instance decidableEqExcept {ε α : Type} [DecidableEq ε] [DecidableEq α] :
    DecidableEq (Except ε α)
  | .ok a, .ok b => decidable_of_iff (a = b) ⟨congrArg _, Except.ok.inj⟩
  | .error d, .error e => decidable_of_iff (d = e) ⟨congrArg _, Except.error.inj⟩
  | .ok _, .error _ => isFalse nofun
  | .error _, .ok _ => isFalse nofun

instance decidableExistsOk {ε α : Type} : (x : Except ε α) → Decidable (∃ a, x = .ok a)
  | .ok a => isTrue ⟨a, rfl⟩
  | .error _ => isFalse nofun

namespace Fallible

/-! ## 1. Chains -/

variable {ε α β : Type}

theorem bind_eq_ok_iff {x : Except ε α} {f : α → Except ε β} {b : β} :
    (x >>= f) = .ok b ↔ ∃ a, x = .ok a ∧ f a = .ok b := by
  cases x with
  | error e => exact ⟨nofun, fun ⟨_, h, _⟩ => nomatch h⟩
  | ok a => exact ⟨fun h => ⟨a, rfl, h⟩, fun ⟨_, h, hb⟩ => by cases h; exact hb⟩

theorem map_eq_ok_iff {x : Except ε α} {f : α → β} {b : β} :
    x.map f = .ok b ↔ ∃ a, x = .ok a ∧ f a = b := by
  cases x with
  | error e => exact ⟨nofun, fun ⟨_, h, _⟩ => nomatch h⟩
  | ok a =>
    exact ⟨fun h => ⟨a, rfl, Except.ok.inj h⟩, fun ⟨_, h, hb⟩ => by cases h; exact congrArg _ hb⟩

theorem mapError_eq_ok_iff {δ : Type} {x : Except ε α} {f : ε → δ} {a : α} :
    x.mapError f = .ok a ↔ x = .ok a := by
  cases x with
  | error e => exact ⟨nofun, nofun⟩
  | ok b => exact ⟨fun h => congrArg _ (Except.ok.inj h), fun h => congrArg _ (Except.ok.inj h)⟩

theorem bind_eq_error_iff {x : Except ε α} {f : α → Except ε β} {e : ε} :
    (x >>= f) = .error e ↔ x = .error e ∨ ∃ a, x = .ok a ∧ f a = .error e := by
  cases x with
  | error d =>
    constructor
    · exact fun h => Or.inl (congrArg _ (Except.error.inj h))
    · rintro (h | ⟨_, h, -⟩)
      · exact congrArg _ (Except.error.inj h)
      · cases h
  | ok a =>
    constructor
    · exact fun h => Or.inr ⟨a, rfl, h⟩
    · rintro (h | ⟨_, h, he⟩)
      · cases h
      · cases h
        exact he

theorem map_eq_error_iff {x : Except ε α} {f : α → β} {e : ε} :
    x.map f = .error e ↔ x = .error e := by
  cases x with
  | error d =>
    exact ⟨fun h => congrArg _ (Except.error.inj h), fun h => congrArg _ (Except.error.inj h)⟩
  | ok a => exact ⟨nofun, nofun⟩

/-- Chains that begin alike and go on alike after a result are alike. -/
theorem bind_congr {x y : Except ε α} {f g : α → Except ε β} (hx : x = y)
    (hf : ∀ a, y = .ok a → f a = g a) : (x >>= f) = (y >>= g) := by
  subst hx
  cases x with
  | error e => rfl
  | ok a => exact hf a rfl

theorem mapM_congr {f g : α → Except ε β} {xs : List α} (h : ∀ x ∈ xs, f x = g x) :
    xs.mapM f = xs.mapM g := by
  induction xs with
  | nil => rfl
  | cons x xs ih =>
    rw [List.mapM_cons, List.mapM_cons, h x List.mem_cons_self,
      ih fun y hy => h y (List.mem_cons_of_mem _ hy)]

theorem exists_map_iff {x : Except ε α} {f : α → β} :
    (∃ b, x.map f = .ok b) ↔ ∃ a, x = .ok a := by
  cases x with
  | error e => exact ⟨nofun, nofun⟩
  | ok a => exact ⟨fun _ => ⟨a, rfl⟩, fun _ => ⟨f a, rfl⟩⟩

/-- Steps for the elements of a list come to a result exactly when each of them does. -/
theorem exists_mapM_iff {f : α → Except ε β} : ∀ {xs : List α},
    (∃ bs, xs.mapM f = .ok bs) ↔ ∀ x ∈ xs, ∃ b, f x = .ok b
  | [] => ⟨fun _ _ hx => absurd hx List.not_mem_nil, fun _ => ⟨[], rfl⟩⟩
  | x :: xs => by
    rw [List.mapM_cons, List.forall_mem_cons, ← exists_mapM_iff]
    constructor
    · rintro ⟨bs, h⟩
      obtain ⟨b, hb, h⟩ := bind_eq_ok_iff.1 h
      obtain ⟨rest, hrest, -⟩ := bind_eq_ok_iff.1 h
      exact ⟨⟨b, hb⟩, rest, hrest⟩
    · rintro ⟨⟨b, hb⟩, rest, hrest⟩
      exact ⟨b :: rest, bind_eq_ok_iff.2 ⟨b, hb, bind_eq_ok_iff.2 ⟨rest, hrest, rfl⟩⟩⟩

/-- Their results are the results of each. When a step comes to which result is told by `g` and
    `k`. -/
theorem mapM_eq_ok_iff {γ : Type} {f : α → Except ε β} {g : α → γ} {k : β → γ}
    (h : ∀ x y, f x = .ok y ↔ g x = k y) {xs : List α} {ys : List β} :
    xs.mapM f = .ok ys ↔ xs.map g = ys.map k := by
  induction xs generalizing ys with
  | nil =>
    rw [List.mapM_nil, List.map_nil, eq_comm (a := []), List.map_eq_nil_iff]
    exact ⟨fun hy => (Except.ok.inj hy).symm, fun hy => congrArg _ hy.symm⟩
  | cons x xs ih =>
    rw [List.mapM_cons, bind_eq_ok_iff]
    constructor
    · rintro ⟨y, hy, hrest⟩
      obtain ⟨zs, hzs, hys⟩ := bind_eq_ok_iff.1 hrest
      cases hys
      rw [List.map_cons, List.map_cons, (h x y).1 hy, ih.1 hzs]
    · intro hmap
      cases ys with
      | nil => cases hmap
      | cons y ys =>
        obtain ⟨hy, hys⟩ := List.cons.inj hmap
        exact ⟨y, (h x y).2 hy, bind_eq_ok_iff.2 ⟨ys, ih.2 hys, rfl⟩⟩

/-- The fault of such steps is the fault of one of them. -/
theorem exists_of_mapM_eq_error {f : α → Except ε β} {e : ε} : ∀ {xs : List α},
    xs.mapM f = .error e → ∃ x ∈ xs, f x = .error e
  | [], h => nomatch h
  | x :: xs, h => by
    rw [List.mapM_cons] at h
    rcases bind_eq_error_iff.1 h with hx | ⟨b, -, h⟩
    · exact ⟨x, List.mem_cons_self, hx⟩
    rcases bind_eq_error_iff.1 h with hxs | ⟨_, -, h⟩
    · obtain ⟨y, hy, hf⟩ := exists_of_mapM_eq_error hxs
      exact ⟨y, List.mem_cons_of_mem _ hy, hf⟩
    · cases h

/-! ## 2. When a step fails -/

/-- The kind of the fault with which a step fails; none where it comes to a result. -/
def kindOf? : Except Fault α → Option Kind
  | .error fault => some fault.kind
  | .ok _ => none

theorem kindOf?_eq_some_iff {x : Except Fault α} {kind : Kind} :
    kindOf? x = some kind ↔ ∃ fault, x = .error fault ∧ fault.kind = kind := by
  cases x with
  | error fault =>
    constructor
    · exact fun h => ⟨fault, rfl, Option.some.inj h⟩
    · rintro ⟨found, hf, hk⟩
      cases hf
      exact congrArg _ hk
  | ok a => exact ⟨nofun, fun ⟨_, h, _⟩ => nomatch h⟩

theorem kindOf?_eq_none_iff {x : Except Fault α} : kindOf? x = none ↔ ∃ a, x = .ok a := by
  cases x with
  | error fault => exact ⟨nofun, nofun⟩
  | ok a => exact ⟨fun _ => ⟨a, rfl⟩, fun _ => rfl⟩

/-- The step fails where `bad` holds, with a fault of this kind, and comes to a result elsewhere. -/
structure FailsIff (kind : Kind) (bad : Prop) (x : Except Fault α) : Prop where
  fails : bad → ∃ fault, x = .error fault ∧ fault.kind = kind
  succeeds : ¬ bad → ∃ a, x = .ok a

namespace FailsIff

variable {kind : Kind} {bad worse : Prop} {x : Except Fault α}

theorem ok (a : α) : FailsIff kind False (.ok a : Except Fault α) := ⟨nofun, fun _ => ⟨a, rfl⟩⟩

/-- Every fault of the step is of this kind. -/
theorem kind_eq (h : FailsIff kind bad x) {fault : Fault} (hx : x = .error fault) :
    fault.kind = kind := by
  by_cases hbad : bad
  · obtain ⟨found, hf, hk⟩ := h.fails hbad
    rw [Except.error.inj (hx.symm.trans hf), hk]
  · obtain ⟨a, ha⟩ := h.succeeds hbad
    cases hx.symm.trans ha

theorem congr (h : FailsIff kind bad x) (hb : worse ↔ bad) : FailsIff kind worse x :=
  ⟨fun hw => h.fails (hb.1 hw), fun hw => h.succeeds fun hbad => hw (hb.2 hbad)⟩

theorem map (h : FailsIff kind bad x) (f : α → β) : FailsIff kind bad (x.map f) := by
  constructor
  · intro hbad
    obtain ⟨fault, hx, hk⟩ := h.fails hbad
    exact ⟨fault, map_eq_error_iff.2 hx, hk⟩
  · intro hgood
    obtain ⟨a, hx⟩ := h.succeeds hgood
    exact ⟨f a, map_eq_ok_iff.2 ⟨a, hx, rfl⟩⟩

/-- A step fails where it has no result, with this kind if all its faults are of it. -/
theorem of_kind (h : ∀ fault, x = .error fault → fault.kind = kind) :
    FailsIff kind (¬ ∃ a, x = .ok a) x := by
  cases x with
  | error fault => exact ⟨fun _ => ⟨fault, rfl, h fault rfl⟩, fun hn => absurd nofun hn⟩
  | ok a => exact (ok a).congr ⟨fun hn => hn ⟨a, rfl⟩, False.elim⟩

/-- A chain of two steps fails where either does, if when the second one fails does not depend on
    the result of the first. -/
theorem bind (h : FailsIff kind bad x) {f : α → Except Fault β}
    (hf : ∀ a, FailsIff kind worse (f a)) : FailsIff kind (bad ∨ worse) (x >>= f) := by
  constructor
  · intro hor
    by_cases hbad : bad
    · obtain ⟨fault, hx, hk⟩ := h.fails hbad
      exact ⟨fault, bind_eq_error_iff.2 (Or.inl hx), hk⟩
    · obtain ⟨a, hx⟩ := h.succeeds hbad
      obtain ⟨fault, hfa, hk⟩ := (hf a).fails (hor.resolve_left hbad)
      exact ⟨fault, bind_eq_error_iff.2 (Or.inr ⟨a, hx, hfa⟩), hk⟩
  · intro hor
    obtain ⟨a, hx⟩ := h.succeeds fun hbad => hor (Or.inl hbad)
    obtain ⟨b, hfa⟩ := (hf a).succeeds fun hworse => hor (Or.inr hworse)
    exact ⟨b, bind_eq_ok_iff.2 ⟨a, hx, hfa⟩⟩

/-- A step for each element of a list fails where one of them does. -/
theorem mapM {f : α → Except Fault β} {bad : α → Prop} {xs : List α}
    (h : ∀ a ∈ xs, FailsIff kind (bad a) (f a)) :
    FailsIff kind (∃ a ∈ xs, bad a) (xs.mapM f) := by
  constructor
  · rintro ⟨a, ha, hbad⟩
    cases hm : xs.mapM f with
    | error fault =>
      obtain ⟨b, hb, hf⟩ := exists_of_mapM_eq_error hm
      exact ⟨fault, rfl, (h b hb).kind_eq hf⟩
    | ok bs =>
      obtain ⟨c, hc⟩ := exists_mapM_iff.1 ⟨bs, hm⟩ a ha
      obtain ⟨fault, hf, -⟩ := (h a ha).fails hbad
      cases hc.symm.trans hf
  · exact fun hgood => exists_mapM_iff.2 fun a ha => (h a ha).succeeds fun hbad =>
      hgood ⟨a, ha, hbad⟩

end FailsIff

/-! ## 3. Two steps -/

/-- The two steps fail with one fault, or come to results that are related. -/
inductive Alike {ε α β : Type} (R : α → β → Prop) : Except ε α → Except ε β → Prop
  | error (e : ε) : Alike R (.error e) (.error e)
  | ok {a : α} {b : β} (h : R a b) : Alike R (.ok a) (.ok b)

namespace Alike

variable {ε α β γ δ : Type} {R S : α → β → Prop} {x : Except ε α} {y : Except ε β}

theorem of_eq {x y : Except ε α} (h : x = y) : Alike Eq x y := by
  subst h
  cases x with
  | error e => exact .error e
  | ok a => exact .ok rfl

theorem imp (h : Alike R x y) (hrs : ∀ a b, R a b → S a b) : Alike S x y := by
  cases h with
  | error e => exact .error e
  | ok h => exact .ok (hrs _ _ h)

theorem map {T : γ → δ → Prop} (h : Alike R x y) {f : α → γ} {g : β → δ}
    (hf : ∀ a b, R a b → T (f a) (g b)) : Alike T (x.map f) (y.map g) := by
  cases h with
  | error e => exact .error e
  | ok h => exact .ok (hf _ _ h)

theorem bind {T : γ → δ → Prop} (h : Alike R x y) {f : α → Except ε γ} {g : β → Except ε δ}
    (hf : ∀ a b, R a b → Alike T (f a) (g b)) : Alike T (x >>= f) (y >>= g) := by
  cases h with
  | error e => exact .error e
  | ok h => exact hf _ _ h

end Alike

end Fallible

end Countersign
