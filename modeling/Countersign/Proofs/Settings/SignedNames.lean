import Mathlib
import Countersign.Profile
import Countersign.Proofs.Fallible
import Countersign.Proofs.Http.Alphabet
import Countersign.Proofs.Text.Ascending
import Countersign.Proofs.Text.Case
import Countersign.Proofs.Text.Trim

/-!
# The names to sign

The names to sign are given as a list of texts, and kept as a set of field names: what a name looks
like, where it stands in the list and how often it is given does not matter.

* `FieldName.lowercase_text`, `FieldName.ofText?_eq_some_iff` -- a field name is in lower case, and
  a text without capitals spells the name with this text;
* `Profile.failsIff_nameSet` -- which lists of names are accepted;
* `Profile.mem_of_nameSet` -- the names that are kept are the normal forms of those that were given;
* `Profile.nameSet_eq_of_rewritten` -- changes of the list that leave these alone (`Rewritten`) lead
  to the same set, or to the same fault.
-/

namespace Countersign

open Countersign.Text Countersign.Http

/-! ## 1. Field names -/

namespace Http.FieldName

theorem text_injective : ∀ m n : FieldName, m.text = n.text → m = n := fun _ _ => eq_of_text_eq

theorem bounds_of_mem (n : FieldName) {c : Char} (h : c ∈ n.text.toList) :
    c.toNat < 128 ∧ c.isUpper = false := by
  have hname := n.isNameChar_of_mem h
  unfold isNameChar at hname
  rw [Bool.and_eq_true, Bool.not_eq_true'] at hname
  have hbounds := bounds_of_isTokenChar hname.1
  exact ⟨by omega, hname.2⟩

/-- A field name is its own lower case. -/
theorem lowercase_text (n : FieldName) : lowercase n.text.toList = n.text.toList := by
  rw [lowercase_of_ascii fun c hc => (n.bounds_of_mem hc).1]
  exact map_toLower_eq_self fun c hc => (n.bounds_of_mem hc).2

/-- A text without capitals spells the name with this text. -/
theorem ofText?_eq_some_iff {s : String} {n : FieldName} (h : ∀ c ∈ s.toList, c.isUpper = false) :
    ofText? s = some n ↔ n.text = s := by
  have hlower := map_toLower_eq_self h
  unfold ofText? ofChars?
  simp only [hlower, String.ofList_toList]
  constructor
  · intro hsome
    split at hsome
    · cases hsome
      rfl
    · cases hsome
  · intro htext
    subst htext
    exact dif_pos n.legal

theorem exists_ofText?_iff {s : String} (h : ∀ c ∈ s.toList, c.isUpper = false) :
    (∃ n, ofText? s = some n) ↔ isFieldName s.toList = true := by
  constructor
  · intro hsome
    obtain ⟨n, hn⟩ := hsome
    rw [← (ofText?_eq_some_iff h).1 hn]
    exact n.legal
  · exact fun hlegal => ⟨⟨s, hlegal⟩, (ofText?_eq_some_iff h).2 rfl⟩

end Http.FieldName

namespace Profile

/-! ## 2. Names in normal form -/

@[simp] theorem toList_normalName (x : String) :
    (normalName x).toList = lowercase (trim x.toList) := String.toList_ofList

theorem isUpper_of_mem_normalName {x : String} {c : Char} (h : c ∈ (normalName x).toList) :
    c.isUpper = false := by
  rw [toList_normalName] at h
  exact isUpper_of_mem_lowercase h

theorem mem_normalNames {given : List String} {s : String} :
    s ∈ normalNames given ↔ s ≠ "" ∧ ∃ x ∈ given, normalName x = s := by
  unfold normalNames
  rw [List.mem_filter, List.mem_map, decide_eq_true_iff, and_comm]

theorem isUpper_of_mem_normalNames {given : List String} {s : String}
    (h : s ∈ normalNames given) : ∀ c ∈ s.toList, c.isUpper = false := by
  obtain ⟨-, x, -, rfl⟩ := mem_normalNames.1 h
  exact fun c hc => isUpper_of_mem_normalName hc

/-! ## 3. The set of the given names -/

/-- The given names in normal form that are no field names. -/
def badNames (given : List String) : List String :=
  (normalNames given).filter fun s => (FieldName.ofText? s).isNone

/-- The field names that the given names spell. -/
def keptNames (given : List String) : List FieldName :=
  Text.ascending FieldName.text ((normalNames given).filterMap FieldName.ofText?)

theorem pairwise_keptNames (given : List String) :
    (keptNames given).Pairwise fun a b => a.text < b.text := pairwise_ascending _ _

/-- The least bad name is the fault; where there is none, the field names are kept. -/
theorem nameSet_eq (given : List String) : nameSet given =
    match Text.ascending id (badNames given) with
    | bad :: _ => .error (.badSignedName bad)
    | [] => .ok ⟨keptNames given, pairwise_keptNames given⟩ := rfl

theorem ascending_badNames_eq_nil_iff {given : List String} :
    Text.ascending id (badNames given) = [] ↔
      ∀ s ∈ normalNames given, isFieldName s.toList = true := by
  have hkey : ∀ a b : String, id a = id b → a = b := fun _ _ h => h
  unfold badNames
  rw [ascending_eq_nil_iff hkey, List.filter_eq_nil_iff]
  refine forall₂_congr fun s hs => ?_
  rw [← FieldName.exists_ofText?_iff (isUpper_of_mem_normalNames hs), Option.isNone_iff_eq_none,
    ← ne_eq, Option.ne_none_iff_exists']

/-- **A list of names is accepted where every one of them, in its normal form, is empty or a field
    name.** -/
theorem failsIff_nameSet (given : List String) : Fallible.FailsIff .invalidSettings
    (¬ ∀ s ∈ normalNames given, isFieldName s.toList = true) (nameSet given) := by
  rw [← ascending_badNames_eq_nil_iff, nameSet_eq]
  cases Text.ascending id (badNames given) with
  | nil => exact (Fallible.FailsIff.ok _).congr ⟨fun h => h rfl, False.elim⟩
  | cons bad others => exact ⟨fun _ => ⟨.badSignedName bad, rfl, rfl⟩, fun h => absurd nofun h⟩

theorem nameSet_eq_ok_iff {given : List String} {names : NameSet} : nameSet given = .ok names ↔
    (∀ s ∈ normalNames given, isFieldName s.toList = true) ∧ names.1 = keptNames given := by
  rw [← ascending_badNames_eq_nil_iff, nameSet_eq]
  cases Text.ascending id (badNames given) with
  | nil =>
    constructor
    · intro h
      cases h
      exact ⟨rfl, rfl⟩
    · exact fun h => congrArg Except.ok (Subtype.ext h.2.symm)
  | cons bad others => exact ⟨nofun, fun h => absurd h.1 nofun⟩

/-- **The names that are kept are the normal forms of the given ones**, but for the empty one. -/
theorem mem_of_nameSet {given : List String} {names : NameSet} (h : nameSet given = .ok names)
    {s : String} : s ∈ names.1.map FieldName.text ↔ s ∈ normalNames given := by
  obtain ⟨hlegal, hkept⟩ := nameSet_eq_ok_iff.1 h
  rw [hkept]
  constructor
  · intro hs
    obtain ⟨n, hn, rfl⟩ := List.mem_map.1 hs
    obtain ⟨t, ht, hsome⟩ := List.mem_filterMap.1 ((mem_ascending FieldName.text_injective).1 hn)
    rw [(FieldName.ofText?_eq_some_iff (isUpper_of_mem_normalNames ht)).1 hsome]
    exact ht
  · intro hs
    have hsome : FieldName.ofText? s = some ⟨s, hlegal s hs⟩ :=
      (FieldName.ofText?_eq_some_iff (isUpper_of_mem_normalNames hs)).2 rfl
    have hmem := (mem_ascending FieldName.text_injective).2 (List.mem_filterMap.2 ⟨s, hs, hsome⟩)
    exact List.mem_map.2 ⟨_, hmem, rfl⟩

/-- Which names are kept, and which fault is found, depends on the normal forms alone. -/
theorem nameSet_congr {given given' : List String}
    (h : ∀ s, s ∈ normalNames given ↔ s ∈ normalNames given') : nameSet given = nameSet given' := by
  have hbad : Text.ascending id (badNames given) = Text.ascending id (badNames given') := by
    refine ascending_congr (fun _ _ h => h) fun s => ?_
    unfold badNames
    rw [List.mem_filter, List.mem_filter, h s]
  have hkept : keptNames given = keptNames given' := by
    refine ascending_congr FieldName.text_injective fun n => ?_
    rw [List.mem_filterMap, List.mem_filterMap]
    exact exists_congr fun s => and_congr_left' (h s)
  rw [nameSet_eq, nameSet_eq, hbad]
  simp only [hkept]

/-! ## 4. Names that are given in another way -/

/-- One change to a list of names that leaves the names that are meant as they are. -/
inductive Rewritten : List String → List String → Prop
  /-- The names stand in another order. -/
  | reordered {given given' : List String} (h : given.Perm given') : Rewritten given given'
  /-- One of the names is given once more. -/
  | repeated {x : String} {given : List String} (h : x ∈ given) : Rewritten given (x :: given)
  /-- A name has some of its ASCII letters in the other case. -/
  | recased {x y : String} {given : List String}
      (h : x.toList.map Char.toLower = y.toList.map Char.toLower) :
      Rewritten (x :: given) (y :: given)
  /-- A name has more blanks around it. -/
  | indented {x : String} {before after : List Char} {given : List String}
      (hb : ∀ c ∈ before, isBlank c = true) (ha : ∀ c ∈ after, isBlank c = true) :
      Rewritten (x :: given) (String.ofList (before ++ x.toList ++ after) :: given)
  /-- There is a blank name more. -/
  | blank {x : String} {given : List String} (h : ∀ c ∈ x.toList, isBlank c = true) :
      Rewritten given (x :: given)

theorem normalName_eq_of_recased {x y : String}
    (h : x.toList.map Char.toLower = y.toList.map Char.toLower) : normalName x = normalName y := by
  have htrim : (trim x.toList).map Char.toLower = (trim y.toList).map Char.toLower := by
    rw [← trim_map_toLower, ← trim_map_toLower, h]
  unfold normalName
  rw [← lowercase_map_toLower (trim x.toList), htrim, lowercase_map_toLower]

theorem normalName_surrounded {x : String} {before after : List Char}
    (hb : ∀ c ∈ before, isBlank c = true) (ha : ∀ c ∈ after, isBlank c = true) :
    normalName (String.ofList (before ++ x.toList ++ after)) = normalName x := by
  unfold normalName
  rw [String.toList_ofList, trim_surrounded hb ha]

theorem normalName_eq_empty {x : String} (h : ∀ c ∈ x.toList, isBlank c = true) :
    normalName x = "" := by
  unfold normalName
  rw [trim_eq_nil h]
  rfl

theorem normalNames_cons (x : String) (given : List String) : normalNames (x :: given) =
    if normalName x = "" then normalNames given else normalName x :: normalNames given := by
  unfold normalNames
  rw [List.map_cons, List.filter_cons]
  simp only [decide_not, Bool.not_eq_true', decide_eq_false_iff_not, ite_not]

/-- None of these changes has a part in the normal forms. -/
theorem Rewritten.mem_normalNames_iff {given given' : List String} (h : Rewritten given given')
    (s : String) : s ∈ normalNames given ↔ s ∈ normalNames given' := by
  cases h with
  | reordered h =>
    -- the list is not taken apart here: no name stands at a known place
    rw [mem_normalNames, mem_normalNames]
    exact and_congr_right' (exists_congr fun x => and_congr_left' h.mem_iff)
  | @repeated x given h =>
    rw [normalNames_cons]
    split
    · exact Iff.rfl
    · rename_i hne
      have hx : normalName x ∈ normalNames given := mem_normalNames.2 ⟨hne, x, h, rfl⟩
      rw [List.mem_cons]
      constructor
      · exact Or.inr
      · intro hs
        rcases hs with rfl | hs
        · exact hx
        · exact hs
  | recased h => rw [normalNames_cons, normalNames_cons, normalName_eq_of_recased h]
  | indented hb ha => rw [normalNames_cons, normalNames_cons, normalName_surrounded hb ha]
  | blank h => rw [normalNames_cons, if_pos (normalName_eq_empty h)]

/-- **Changes of this kind, one after the other and to and fro, lead to the same names or to the
    same fault.** -/
theorem nameSet_eq_of_rewritten {given given' : List String}
    (h : Relation.EqvGen Rewritten given given') : nameSet given = nameSet given' := by
  refine nameSet_congr fun s => ?_
  induction h with
  | rel given given' h => exact h.mem_normalNames_iff s
  | refl given => exact Iff.rfl
  | symm given given' _ ih => exact ih.symm
  | trans given given' given'' _ _ ih ih' => exact ih.trans ih'

end Profile

end Countersign
