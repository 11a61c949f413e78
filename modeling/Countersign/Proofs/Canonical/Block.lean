import Countersign.Canonical.Request
import Countersign.Proofs.Fallible

/-!
# The block of fields, line by line

The block of signed fields seen as the list of its names with their values.

* `fieldBlock_eq_ok_iff`, `exists_fieldBlock_iff` -- a block is made exactly when every name has a
  value, and it is the lines of the names with these values, in the order of the names;
* `value_eq_of_fieldBlock_eq` -- a block shows the value of each of its names;
* `build_eq_ok_iff` -- a canonical request is made exactly when its path and its block are;
* `fieldBlock_congr`, `build_congr` -- both depend on the request by the values of the names alone.
-/

namespace Countersign

open Countersign.Text Countersign.Calendar Countersign.Http

namespace Canonical

/-- The line of a name and its value. -/
def line (field : FieldName × String) : String := field.1.text ++ ":" ++ field.2 ++ "\n"

theorem value_eq_of_line_eq {name : FieldName} {v w : String}
    (h : line (name, v) = line (name, w)) : v = w := by
  unfold line at h
  exact (String.append_right_inj _).1 ((String.append_left_inj _).1 h)

theorem fieldLine_eq (r : Request) (time : Instant) (payloadHash : String) (name : FieldName) :
    fieldLine r time payloadHash name =
      ((Role.ofName name).value r time payloadHash).map fun value => line (name, value) := rfl

theorem fieldBlock_cons (r : Request) (time : Instant) (payloadHash : String) (name : FieldName)
    (names : List FieldName) : fieldBlock r time payloadHash (name :: names) = (do
      let first ← fieldLine r time payloadHash name
      let rest ← fieldBlock r time payloadHash names
      .ok (first ++ rest)) := by
  unfold fieldBlock
  rw [List.mapM_cons]
  cases fieldLine r time payloadHash name with
  | error fault => rfl
  | ok first =>
    cases names.mapM (fieldLine r time payloadHash) with
    | error fault => rfl
    | ok rest =>
      show Except.ok (String.join (first :: rest)) = .ok (first ++ String.join rest)
      rw [String.join_cons]

/-- **A block is the lines of its names with their values**, and it is made exactly when every name
    has a value. -/
theorem fieldBlock_eq_ok_iff {r : Request} {time : Instant} {payloadHash : String} :
    ∀ {names : List FieldName} {block : String},
    fieldBlock r time payloadHash names = .ok block ↔
      ∃ fields : List (FieldName × String), fields.map Prod.fst = names ∧
        (∀ field ∈ fields, (Role.ofName field.1).value r time payloadHash = .ok field.2) ∧
        block = String.join (fields.map line)
  | [], block => by
    constructor
    · intro h
      cases h
      exact ⟨[], rfl, fun _ h => absurd h List.not_mem_nil, rfl⟩
    · intro h
      obtain ⟨fields, hn, -, rfl⟩ := h
      rw [List.map_eq_nil_iff.1 hn]
      rfl
  | name :: names, block => by
    rw [fieldBlock_cons, Fallible.bind_eq_ok_iff]
    constructor
    · intro h
      obtain ⟨first, hfirst, hrest⟩ := h
      obtain ⟨rest, hrest, hblock⟩ := Fallible.bind_eq_ok_iff.1 hrest
      obtain ⟨fields, hn, hv, hr⟩ := fieldBlock_eq_ok_iff.1 hrest
      rw [fieldLine_eq, Fallible.map_eq_ok_iff] at hfirst
      obtain ⟨value, hvalue, rfl⟩ := hfirst
      cases hblock
      refine ⟨(name, value) :: fields, by rw [List.map_cons, hn], fun field hm => ?_,
        by rw [List.map_cons, String.join_cons, hr]⟩
      rcases List.mem_cons.1 hm with rfl | hm
      · exact hvalue
      · exact hv field hm
    · intro h
      obtain ⟨fields, hn, hv, rfl⟩ := h
      cases fields with
      | nil => cases hn
      | cons field fields =>
        rw [List.map_cons, List.cons.injEq] at hn
        obtain ⟨rfl, hn⟩ := hn
        have hrest := fieldBlock_eq_ok_iff.2
          ⟨fields, hn, fun f hf => hv f (List.mem_cons_of_mem _ hf), rfl⟩
        refine ⟨line field, ?_, Fallible.bind_eq_ok_iff.2 ⟨_, hrest, ?_⟩⟩
        · rw [fieldLine_eq, hv field List.mem_cons_self]
          rfl
        · rw [List.map_cons, String.join_cons]

/-- A block is made exactly when every name has a value. -/
theorem exists_fieldBlock_iff {r : Request} {time : Instant} {payloadHash : String}
    {names : List FieldName} : (∃ block, fieldBlock r time payloadHash names = .ok block) ↔
      ∀ name ∈ names, ∃ value, (Role.ofName name).value r time payloadHash = .ok value := by
  unfold fieldBlock
  rw [Fallible.exists_map_iff, Fallible.exists_mapM_iff]
  refine forall_congr' fun name => imp_congr_right fun _ => ?_
  rw [fieldLine_eq, Fallible.exists_map_iff]

theorem fieldBlock_congr {r₁ r₂ : Request} {time : Instant} {payloadHash : String}
    {names : List FieldName}
    (h : ∀ name ∈ names, (Role.ofName name).value r₁ time payloadHash =
      (Role.ofName name).value r₂ time payloadHash) :
    fieldBlock r₁ time payloadHash names = fieldBlock r₂ time payloadHash names := by
  unfold fieldBlock
  congr 1
  refine Fallible.mapM_congr fun name hn => ?_
  rw [fieldLine_eq, fieldLine_eq, h name hn]

/-- Blocks of the same names that differ by the value of one name at most are the same only where
    this value is. -/
theorem value_eq_of_fieldBlock_eq {r₁ r₂ : Request} {time : Instant} {payloadHash : String}
    {name : FieldName} : ∀ {names : List FieldName} {block : String}, names.Nodup → name ∈ names →
    (∀ n ∈ names, n ≠ name → (Role.ofName n).value r₁ time payloadHash =
      (Role.ofName n).value r₂ time payloadHash) →
    fieldBlock r₁ time payloadHash names = .ok block →
    fieldBlock r₂ time payloadHash names = .ok block →
      (Role.ofName name).value r₁ time payloadHash = (Role.ofName name).value r₂ time payloadHash
  | [], _, _, hname, _, _, _ => absurd hname List.not_mem_nil
  | n :: names, block, hnodup, hname, hothers, h₁, h₂ => by
    obtain ⟨hn, hnodup⟩ := List.nodup_cons.1 hnodup
    rw [fieldBlock_cons, Fallible.bind_eq_ok_iff] at h₁ h₂
    obtain ⟨first₁, hf₁, h₁⟩ := h₁
    obtain ⟨first₂, hf₂, h₂⟩ := h₂
    obtain ⟨rest₁, hr₁, hb₁⟩ := Fallible.bind_eq_ok_iff.1 h₁
    obtain ⟨rest₂, hr₂, hb₂⟩ := Fallible.bind_eq_ok_iff.1 h₂
    have hcut : first₁ ++ rest₁ = first₂ ++ rest₂ := Except.ok.inj (hb₁.trans hb₂.symm)
    by_cases he : n = name
    · -- the lines behind this one do not have the name
      subst he
      have hrest : rest₁ = rest₂ := by
        rw [fieldBlock_congr fun m hm => hothers m (List.mem_cons_of_mem _ hm)
          fun hmn => hn (hmn ▸ hm), hr₂] at hr₁
        exact (Except.ok.inj hr₁).symm
      rw [hrest] at hcut
      rw [fieldLine_eq, Fallible.map_eq_ok_iff] at hf₁ hf₂
      obtain ⟨v₁, hv₁, rfl⟩ := hf₁
      obtain ⟨v₂, hv₂, rfl⟩ := hf₂
      rw [hv₁, hv₂, value_eq_of_line_eq ((String.append_left_inj _).1 hcut)]
    · have hfirst : first₁ = first₂ := by
        rw [fieldLine_eq, hothers n List.mem_cons_self he, ← fieldLine_eq, hf₂] at hf₁
        exact (Except.ok.inj hf₁).symm
      rw [hfirst] at hcut
      rw [(String.append_right_inj _).1 hcut] at hr₁
      exact value_eq_of_fieldBlock_eq hnodup
        ((List.mem_cons.1 hname).resolve_left fun h => he h.symm)
        (fun m hm => hothers m (List.mem_cons_of_mem _ hm)) hr₁ hr₂

end Canonical

namespace CanonicalRequest

theorem build_eq_ok_iff {p : Profile} {r : Request} {time : Instant} {payloadHash : String}
    {c : CanonicalRequest} : build p r time payloadHash = .ok c ↔
      ∃ path block, Canonical.path p.doubleEncodePath r.path = .ok path ∧
        Canonical.fieldBlock r time payloadHash p.signedNames = .ok block ∧
        c = ⟨methodText r.method, path, Canonical.query r.query, block, p.signedFields,
          payloadHash⟩ := by
  unfold build
  rw [Fallible.bind_eq_ok_iff]
  constructor
  · intro h
    obtain ⟨path, hp, h⟩ := h
    obtain ⟨block, hb, h⟩ := Fallible.bind_eq_ok_iff.1 h
    exact ⟨path, block, hp, hb, (Except.ok.inj h).symm⟩
  · intro h
    obtain ⟨path, block, hp, hb, rfl⟩ := h
    exact ⟨path, hp, Fallible.bind_eq_ok_iff.2 ⟨block, hb, rfl⟩⟩

/-- Requests with the same method, path and query and the same values of the signed names have the
    same canonical request, or the same fault. -/
theorem build_congr {p : Profile} {r₁ r₂ : Request} {time : Instant} {payloadHash : String}
    (hm : methodText r₁.method = methodText r₂.method) (hp : r₁.path = r₂.path)
    (hq : Canonical.query r₁.query = Canonical.query r₂.query)
    (hv : ∀ name ∈ p.signedNames, (Role.ofName name).value r₁ time payloadHash =
      (Role.ofName name).value r₂ time payloadHash) :
    build p r₁ time payloadHash = build p r₂ time payloadHash := by
  unfold build
  rw [hm, hp, hq, Canonical.fieldBlock_congr hv]

end CanonicalRequest

end Countersign
