import Countersign.Proofs.Settings.SignedNames

/-!
# Which settings are accepted

Settings make a profile exactly where they are acceptable (`Settings.Acceptable`), and there is one
kind of fault elsewhere. The profile keeps the names to sign as a set in one form (`KeepsNames`).

* `Profile.failsIff_required`, `Profile.failsIff_chosenNames` -- each look at a setting;
* `Profile.failsIff_ofSettings` -- all of them;
* `Profile.keepsNames_of_ofSettings` -- what the profile keeps of the names to sign;
* `Profile.ofSettings_normalises` -- so the profile does not depend on how the names are given.
-/

namespace Countersign

open Countersign.Text Countersign.Http

/-! ## 1. Acceptable settings -/

/-- The setting is there and not empty. -/
def IsGiven (setting : Option String) : Prop := ∃ v, setting = some v ∧ v ≠ ""

/-- The four parts of the credential are given, and every name to sign, without the blanks around it
    and in small letters, is empty or a field name. -/
structure Settings.Acceptable (s : Settings) : Prop where
  region : IsGiven s.region
  service : IsGiven s.service
  accessKeyId : IsGiven s.accessKeyId
  secretAccessKey : IsGiven s.secretAccessKey
  names : ∀ given, s.signedNames = some given → ∀ x ∈ given,
    String.ofList (lowercase (trim x.toList)) = "" ∨
      isFieldName (lowercase (trim x.toList)) = true

namespace Profile

theorem failsIff_required (name : String) (setting : Option String) :
    Fallible.FailsIff .invalidSettings (¬ IsGiven setting) (required name setting) := by
  cases setting with
  | none => exact ⟨fun _ => ⟨.missingSetting name, rfl, rfl⟩, fun h => absurd nofun h⟩
  | some v =>
    by_cases hv : v = ""
    · have hempty : required name (some v) = .error (.emptySetting name) := dif_pos hv
      have hgiven : ¬ IsGiven (some v) := fun ⟨w, hw, hne⟩ => hne (Option.some.inj hw ▸ hv)
      exact ⟨fun _ => ⟨_, hempty, rfl⟩, fun h => absurd hgiven h⟩
    · have hkept : required name (some v) = .ok ⟨v, hv⟩ := dif_neg hv
      exact ⟨fun h => absurd ⟨v, rfl, hv⟩ h, fun _ => ⟨_, hkept⟩⟩

theorem failsIff_chosenNames (names : Option (List String)) : Fallible.FailsIff .invalidSettings
    (¬ ∀ given, names = some given → ∀ x ∈ given,
      String.ofList (lowercase (trim x.toList)) = "" ∨
        isFieldName (lowercase (trim x.toList)) = true) (chosenNames names) := by
  cases names with
  | none => exact (Fallible.FailsIff.ok _).congr ⟨fun h => h nofun, False.elim⟩
  | some given =>
    refine (failsIff_nameSet given).congr (not_congr ?_)
    constructor
    · intro h s hs
      obtain ⟨hne, x, hx, rfl⟩ := mem_normalNames.1 hs
      rw [toList_normalName]
      exact (h given rfl x hx).resolve_left hne
    · intro h found hfound x hx
      cases hfound
      by_cases hempty : normalName x = ""
      · exact Or.inl hempty
      · have hlegal := h _ (mem_normalNames.2 ⟨hempty, x, hx, rfl⟩)
        rw [toList_normalName] at hlegal
        exact Or.inr hlegal

/-- **Settings are refused where they are not acceptable**, and with one kind of fault. -/
theorem failsIff_ofSettings (s : Settings) :
    Fallible.FailsIff .invalidSettings (¬ s.Acceptable) (ofSettings s) := by
  have hchain := (failsIff_chosenNames s.signedNames).bind fun names =>
    (failsIff_required "region" s.region).bind fun region =>
    (failsIff_required "service" s.service).bind fun service =>
    (failsIff_required "access_key_id" s.accessKeyId).bind fun accessKeyId =>
    (failsIff_required "secret_access_key" s.secretAccessKey).bind fun secretAccessKey =>
    Fallible.FailsIff.ok (Profile.mk region.1 service.1 accessKeyId.1 secretAccessKey.1
      (chosenAlgorithm s.algorithm) (s.doubleEncodePath.getD true) names.1
      (s.payloadMode.getD .included) region.2 service.2 accessKeyId.2 secretAccessKey.2 names.2)
  -- the chain fails where one of the five looks does
  refine hchain.congr ?_
  constructor
  · intro h
    by_contra hnone
    simp only [not_or, not_not] at hnone
    obtain ⟨hn, hr, hs, ha, hk, -⟩ := hnone
    exact h ⟨hr, hs, ha, hk, hn⟩
  · intro h hacceptable
    obtain ⟨hr, hs, ha, hk, hn⟩ := hacceptable
    rcases h with h | h | h | h | h | h
    · exact h hn
    · exact h hr
    · exact h hs
    · exact h ha
    · exact h hk
    · exact h

/-! ## 2. The names that are kept -/

theorem chosenNames_of_ofSettings {s : Settings} {p : Profile} (h : ofSettings s = .ok p) :
    ∃ names, chosenNames s.signedNames = .ok names ∧ p.signedNames = names.1 := by
  obtain ⟨names, hnames, h⟩ := Fallible.bind_eq_ok_iff.1 h
  obtain ⟨_, -, h⟩ := Fallible.bind_eq_ok_iff.1 h
  obtain ⟨_, -, h⟩ := Fallible.bind_eq_ok_iff.1 h
  obtain ⟨_, -, h⟩ := Fallible.bind_eq_ok_iff.1 h
  obtain ⟨_, -, h⟩ := Fallible.bind_eq_ok_iff.1 h
  cases h
  exact ⟨names, hnames, rfl⟩

/-- The names of a profile can be cut out of their joined text, unless there are none. -/
theorem splitOn_signedFields {p : Profile} (h : p.signedNames ≠ []) :
    p.signedFields.toList.splitOn ';' = p.signedNames.map fun n => n.text.toList := by
  have hjoined : p.signedFields.toList =
      [';'].intercalate (p.signedNames.map fun n => n.text.toList) := by
    unfold signedFields
    rw [String.toList_intercalate, List.map_map]
    rfl
  rw [hjoined]
  refine List.splitOn_intercalate ';' (fun text htext => ?_) (mt List.map_eq_nil_iff.1 h)
  obtain ⟨n, -, rfl⟩ := List.mem_map.1 htext
  exact fun hmem => absurd (n.isNameChar_of_mem hmem) (by decide)

/-- The profile keeps the names in one form: in strictly ascending order, each of them a field name
    in small letters, and as a set the given ones without the blanks around them and in small letters,
    but for the empty one. -/
structure KeepsNames (p : Profile) (given : List String) : Prop where
  ascending : p.signedNames.Pairwise fun a b => a.text < b.text
  legal : ∀ n ∈ p.signedNames, n.text ≠ "" ∧ isFieldName n.text.toList = true ∧
    lowercase n.text.toList = n.text.toList
  mem_iff : ∀ text, text ∈ p.signedNames.map FieldName.text ↔
    text ≠ "" ∧ ∃ x ∈ given, String.ofList (lowercase (trim x.toList)) = text
  cut : p.signedNames ≠ [] →
    p.signedFields.toList.splitOn ';' = p.signedNames.map fun n => n.text.toList

theorem keepsNames_of_ofSettings {s : Settings} {p : Profile} {given : List String}
    (hgiven : s.signedNames = some given) (h : ofSettings s = .ok p) : p.KeepsNames given := by
  obtain ⟨names, hnames, hp⟩ := chosenNames_of_ofSettings h
  rw [hgiven] at hnames
  refine ⟨p.ascending, fun n _ => ⟨?_, n.legal, n.lowercase_text⟩, fun text => ?_,
    splitOn_signedFields⟩
  · intro hempty
    have hlegal := n.legal
    rw [hempty] at hlegal
    exact absurd hlegal (by decide)
  · rw [hp, mem_of_nameSet hnames, mem_normalNames]
    rfl

/-- The names to sign have a part in the profile by the set that is kept of them. -/
theorem ofSettings_congr {s : Settings} {names : Option (List String)}
    (h : chosenNames names = chosenNames s.signedNames) :
    ofSettings { s with signedNames := names } = ofSettings s := by
  unfold ofSettings
  rw [h]

/-- **Settings are accepted exactly where they are acceptable, and their names come to one form.**
    However the names are put in order, repeated, written in capitals or small letters of ASCII, or
    surrounded by blanks, and with whatever blank names between them: they make the same profile,
    which signs every request the same, or they are refused with the same fault. -/
theorem ofSettings_normalises (s : Settings) :
    ((∃ p, ofSettings s = .ok p) ↔ s.Acceptable) ∧
    (∀ fault, ofSettings s = .error fault → fault.kind = .invalidSettings) ∧
    ∀ given, s.signedNames = some given →
      (∀ p, ofSettings s = .ok p → p.KeepsNames given) ∧
      ∀ given', Relation.EqvGen Rewritten given given' →
        ofSettings { s with signedNames := some given' } = ofSettings s := by
  have hfails := failsIff_ofSettings s
  refine ⟨?_, fun fault hfault => hfails.kind_eq hfault, fun given hgiven => ⟨?_, ?_⟩⟩
  · constructor
    · intro h
      obtain ⟨p, hp⟩ := h
      by_contra hbad
      obtain ⟨fault, hfault, -⟩ := hfails.fails hbad
      cases hp.symm.trans hfault
    · exact fun h => hfails.succeeds (not_not_intro h)
  · exact fun p hp => keepsNames_of_ofSettings hgiven hp
  · intro given' hrewritten
    refine ofSettings_congr ?_
    rw [hgiven]
    exact (nameSet_eq_of_rewritten hrewritten).symm

/-- Two names that are given anew, with a blank name before them: the host and the time are kept. -/
theorem ofSettings_normalises_anew :
    let s : Settings := ⟨some "us-east-1", some "s3", some "a", some "k", none, none,
      some ["X-Amz-Date", "Host"], none⟩
    ∃ p, ofSettings s = .ok p ∧ p.signedNames = [SigningField.host, SigningField.time] ∧
      p.KeepsNames ["X-Amz-Date", "Host"] ∧
      ofSettings { s with signedNames := some ["", "HOST", "X-Amz-Date"] } = .ok p := by
  intro s
  obtain ⟨haccepts, -, hnames⟩ := ofSettings_normalises s
  have hacceptable : s.Acceptable := by
    refine ⟨⟨_, rfl, by decide⟩, ⟨_, rfl, by decide⟩, ⟨_, rfl, by decide⟩, ⟨_, rfl, by decide⟩, ?_⟩
    intro given hgiven
    cases hgiven
    decide
  obtain ⟨p, hp⟩ := haccepts.2 hacceptable
  obtain ⟨hkeeps, hsame⟩ := hnames _ rfl
  have hkept : nameSet ["X-Amz-Date", "Host"] =
      .ok ⟨[SigningField.host, SigningField.time], by decide⟩ := rfl
  obtain ⟨names, hchosen, hsigned⟩ := chosenNames_of_ofSettings hp
  rw [← Except.ok.inj (hkept.symm.trans hchosen)] at hsigned
  have hrewritten : Relation.EqvGen Rewritten ["X-Amz-Date", "Host"] ["", "HOST", "X-Amz-Date"] :=
    .trans _ _ _ (.rel _ _ (.reordered (List.Perm.swap _ _ _)))
      (.trans _ _ _ (.rel _ _ (.recased (by decide))) (.rel _ _ (.blank nofun)))
  exact ⟨p, hp, hsigned, hkeeps p hp, (hsame _ hrewritten).trans hp⟩

end Profile

end Countersign
