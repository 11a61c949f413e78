import Mathlib.Data.List.Chain
import Countersign.Canonical.Path
import Countersign.Proofs.Fallible
import Countersign.Proofs.Text.Alphabet
import Countersign.Proofs.Text.Percent

/-!
# What the normal form of a path says

A path in normal form is written with slashes, percent signs and unreserved characters, and has one
slash before each segment. It is the same for two paths exactly where they spell the same segments
and end alike: an escaped slash is not taken for one between segments, an escape that is none stands
for itself, and no segment is lost but an empty one.

* `normalPath_eq_ok_iff` -- the normal form is rendered from the texts that the segments spell;
* `segments_render` -- its segments are these texts, encoded twice;
* `infix_render`, `getLast?_render` -- where it has its slashes;
* `path_faithful` -- all of it.
-/

namespace Countersign

open Countersign.Text

/-! ## 1. Decoding and encoding -/

namespace Text.Percent

/-- Decoding loses no byte altogether. -/
theorem decode_ne_nil : ∀ {bs : List UInt8}, bs ≠ [] → decode bs ≠ []
  | [], h => absurd rfl h
  | [_], _ => List.cons_ne_nil _ _
  | [_, _], _ => List.cons_ne_nil _ _
  | a :: b :: c :: rest, _ => by
    rw [decode]
    split
    · exact List.cons_ne_nil _ _
    · exact List.cons_ne_nil _ _

end Text.Percent

namespace Canonical

/-- The bytes that a segment spells by its escapes. -/
def spelled (segment : List Char) : List UInt8 := Percent.decode (Utf8.encode segment)

theorem spelled_ne_nil {segment : List Char} (h : segment ≠ []) : spelled segment ≠ [] :=
  Percent.decode_ne_nil fun hb => h (Utf8.encode_injective (hb.trans Utf8.encode_nil.symm))

theorem decodeSegment_eq_ok_iff (segment cs : List Char) :
    decodeSegment segment = .ok cs ↔ spelled segment = Utf8.encode cs := by
  unfold decodeSegment
  rw [Fallible.map_eq_ok_iff]
  simp only [Fallible.mapError_eq_ok_iff, Utf8.decode_eq_ok_iff]
  constructor
  · rintro ⟨s, hs, rfl⟩
    exact hs
  · intro h
    exact ⟨String.ofList cs, h.trans (Utf8.bytes_ofList cs).symm, String.toList_ofList⟩

theorem encodeTwice_injective : Function.Injective encodeTwice :=
  Percent.encode_injective.comp Percent.encode_injective

/-- Decoding twice undoes encoding twice. -/
theorem decode_spelled_encodeTwice (cs : List Char) :
    Percent.decode (spelled (encodeTwice cs)) = Utf8.encode cs := by
  unfold spelled encodeTwice
  rw [Percent.decode_encode, Percent.decode_encode]

/-- A text that was encoded twice has no slash, and is not empty where the text is not. -/
theorem slash_not_mem_encodeTwice (cs : List Char) : '/' ∉ encodeTwice cs :=
  not_mem_percentEncode (by decide) (by decide) _

theorem encodeTwice_ne_nil {cs : List Char} (h : cs ≠ []) : encodeTwice cs ≠ [] :=
  fun he => h (encodeTwice_injective (he.trans rfl))

/-! ## 2. Segments -/

@[simp] theorem segments_nil : segments [] = [] := rfl

theorem ne_nil_of_mem_segments {path segment : List Char} (h : segment ∈ segments path) :
    segment ≠ [] := by
  rintro rfl
  exact absurd (List.mem_filter.1 h).2 (by decide)

/-- A slash is between segments wherever it stands. -/
theorem segments_append_cons (xs ys : List Char) :
    segments (xs ++ '/' :: ys) = segments xs ++ segments ys := by
  unfold segments
  rw [List.splitOn_eq_splitOnP, List.splitOnP_append_cons _ _ (by decide), List.filter_append]
  rfl

theorem isPiece_of_mem {decoded : List (List Char)} (h : ∀ cs ∈ decoded, cs ≠ [])
    {piece : List Char} (hp : piece ∈ decoded.map encodeTwice) : IsPiece '/' piece := by
  obtain ⟨cs, hcs, rfl⟩ := List.mem_map.1 hp
  exact ⟨slash_not_mem_encodeTwice cs, encodeTwice_ne_nil (h cs hcs)⟩

/-- Pieces with a slash before each. -/
def slashed (pieces : List (List Char)) : List Char := pieces.flatMap ('/' :: ·)

theorem slashed_cons (piece : List Char) (pieces : List (List Char)) :
    slashed (piece :: pieces) = '/' :: (piece ++ slashed pieces) := List.flatMap_cons

theorem trailing_eq (given : List Char) : trailing given = [] ∨ trailing given = ['/'] := by
  unfold trailing
  split
  · exact Or.inr rfl
  · exact Or.inl rfl

theorem render_eq {decoded : List (List Char)} (h : decoded ≠ []) (tail : List Char) :
    render decoded tail = slashed (decoded.map encodeTwice) ++ tail := by
  obtain ⟨s, ss, rfl⟩ := List.exists_cons_of_ne_nil h
  exact congrArg (· ++ tail) (append_intercalate_cons ['/'] (encodeTwice s) (ss.map encodeTwice))

/-- **The segments of a rendered path are what it was rendered from.** -/
theorem segments_render {decoded : List (List Char)} (h : ∀ cs ∈ decoded, cs ≠ [])
    {tail : List Char} (ht : tail = [] ∨ tail = ['/']) :
    segments (render decoded tail) = decoded.map encodeTwice := by
  cases decoded with
  | nil => rfl
  | cons s ss =>
    have hpieces : segments (['/'].intercalate ((s :: ss).map encodeTwice)) =
        (s :: ss).map encodeTwice := filter_splitOn_intercalate fun _ hl => isPiece_of_mem h hl
    have htail : segments (['/'].intercalate ((s :: ss).map encodeTwice) ++ tail) =
        (s :: ss).map encodeTwice := by
      rcases ht with rfl | rfl
      · rw [List.append_nil, hpieces]
      · rw [segments_append_cons, segments_nil, List.append_nil, hpieces]
    exact (segments_append_cons [] _).trans htail

/-! ## 3. Slashes -/

/-- Not both are slashes. -/
def NotBothSlash (a b : Char) : Prop := a = '/' → b ≠ '/'

/-- Pieces with a slash before each have no two in a row: after a slash comes a piece, and at the
    end of a piece there is none. -/
theorem isChain_slashed {tail : List Char} (ht : tail.IsChain NotBothSlash) :
    ∀ {pieces : List (List Char)}, (∀ piece ∈ pieces, IsPiece '/' piece) →
      (slashed pieces ++ tail).IsChain NotBothSlash
  | [], _ => ht
  | piece :: pieces, h => by
    obtain ⟨hslash, hne⟩ := h piece List.mem_cons_self
    have hno : ∀ {c}, c ∈ piece → c ≠ '/' := fun hc he => hslash (he ▸ hc)
    have hrest := isChain_slashed ht fun q hq => h q (List.mem_cons_of_mem _ hq)
    have hpiece : piece.IsChain NotBothSlash :=
      (List.pairwise_of_forall_mem_list fun a ha _ _ he => absurd he (hno ha)).isChain
    have hlast : ∀ a ∈ piece.getLast?, ∀ b ∈ (slashed pieces ++ tail).head?, NotBothSlash a b :=
      fun a ha _ _ he => absurd he (hno (List.mem_of_getLast? ha))
    rw [slashed_cons, List.cons_append, List.append_assoc, List.isChain_cons]
    refine ⟨fun b hb _ => ?_, List.isChain_append.2 ⟨hpiece, hrest, hlast⟩⟩
    rw [List.head?_append_of_ne_nil _ hne] at hb
    exact hno (List.mem_of_head? hb)

/-- A rendered path has no two slashes in a row. -/
theorem infix_render {decoded : List (List Char)} (h : ∀ cs ∈ decoded, cs ≠ []) {tail : List Char}
    (ht : tail = [] ∨ tail = ['/']) : ¬ ['/', '/'] <:+: render decoded tail := by
  have hchain : (render decoded tail).IsChain NotBothSlash := by
    by_cases hd : decoded = []
    · subst hd
      exact List.isChain_singleton _
    · have htail : tail.IsChain NotBothSlash := by
        rcases ht with rfl | rfl
        · exact List.isChain_nil
        · exact List.isChain_singleton _
      rw [render_eq hd]
      exact isChain_slashed htail fun _ hp => isPiece_of_mem h hp
  intro hinfix
  have hpair : ['/', '/'].IsChain NotBothSlash := List.IsChain.infix hchain hinfix
  exact List.isChain_pair.1 hpair rfl rfl

/-- Pieces with a slash before each do not end with one. -/
theorem getLast?_slashed {pieces : List (List Char)} (h : ∀ piece ∈ pieces, IsPiece '/' piece) :
    (slashed pieces).getLast? ≠ some '/' := by
  rcases List.eq_nil_or_concat' pieces with rfl | ⟨before, piece, rfl⟩
  · exact nofun
  · obtain ⟨hslash, hne⟩ := h piece (List.mem_append_right _ List.mem_cons_self)
    intro hlast
    have hend : slashed (before ++ [piece]) = (slashed before ++ ['/']) ++ piece := by
      unfold slashed
      rw [List.flatMap_append, List.append_assoc, List.flatMap_cons, List.flatMap_nil,
        List.append_nil]
      rfl
    rw [hend, List.getLast?_append_of_ne_nil _ hne] at hlast
    exact hslash (List.mem_of_getLast? hlast)

/-- A rendered path ends with a slash where it is told to, or is nothing else. -/
theorem getLast?_render {decoded : List (List Char)} (h : ∀ cs ∈ decoded, cs ≠ [])
    (given : List Char) : (render decoded (trailing given)).getLast? = some '/' ↔
      given.getLast? = some '/' ∨ decoded = [] := by
  by_cases hd : decoded = []
  · subst hd
    exact iff_of_true rfl (Or.inr rfl)
  · rw [render_eq hd, or_iff_left hd]
    unfold trailing
    split
    · rename_i hg
      exact iff_of_true (List.getLast?_concat ..) hg
    · rename_i hg
      rw [List.append_nil]
      exact iff_of_false (getLast?_slashed fun _ hp => isPiece_of_mem h hp) hg

/-- It is written with slashes and what encoding writes. -/
theorem mem_render {c : Char} {decoded : List (List Char)} {tail : List Char}
    (ht : tail = [] ∨ tail = ['/']) (h : c ∈ render decoded tail) :
    c = '/' ∨ c = '%' ∨ Percent.isUnreserved c = true := by
  by_cases hd : decoded = []
  · subst hd
    exact Or.inl (List.mem_singleton.1 h)
  · rw [render_eq hd, List.mem_append] at h
    rcases h with h | h
    · obtain ⟨piece, hp, hc⟩ := List.mem_flatMap.1 h
      obtain ⟨cs, -, rfl⟩ := List.mem_map.1 hp
      rcases List.mem_cons.1 hc with hc | hc
      · exact Or.inl hc
      · exact Or.inr (mem_percentEncode hc).symm
    · rcases ht with rfl | rfl
      · exact absurd h List.not_mem_nil
      · exact Or.inl (List.mem_singleton.1 h)

theorem head?_render (decoded : List (List Char)) (tail : List Char) :
    (render decoded tail).head? = some '/' := by
  cases decoded with
  | nil => rfl
  | cons s ss => rfl

/-! ## 4. The normal form -/

/-- **The normal form of a path is rendered from the texts that its segments spell.** -/
theorem normalPath_eq_ok_iff {given path : List Char} : normalPath given = .ok path ↔
    ∃ decoded : List (List Char), (segments given).map spelled = decoded.map Utf8.encode ∧
      render decoded (trailing given) = path := by
  unfold normalPath
  rw [Fallible.map_eq_ok_iff]
  simp only [Fallible.mapM_eq_ok_iff decodeSegment_eq_ok_iff]

theorem path_eq_ok_iff {given path : String} :
    Canonical.path true given = .ok path ↔ normalPath given.toList = .ok path.toList := by
  unfold Canonical.path
  rw [if_pos rfl, Fallible.map_eq_ok_iff]
  constructor
  · rintro ⟨cs, hcs, rfl⟩
    rw [String.toList_ofList]
    exact hcs
  · exact fun h => ⟨_, h, String.ofList_toList⟩

/-- Texts that segments spell are not empty. -/
theorem ne_nil_of_spelled {given : List Char} {decoded : List (List Char)}
    (h : (segments given).map spelled = decoded.map Utf8.encode) : ∀ cs ∈ decoded, cs ≠ [] := by
  rintro _ hcs rfl
  have hnil : Utf8.encode [] ∈ (segments given).map spelled := h ▸ List.mem_map_of_mem hcs
  obtain ⟨segment, hs, he⟩ := List.mem_map.1 hnil
  exact spelled_ne_nil (ne_nil_of_mem_segments hs) he

/-- The path spells in normal form what the given one does. -/
structure IsNormalForm (given path : List Char) : Prop where
  begins : path.head? = some '/'
  written : ∀ c ∈ path, c = '/' ∨ c = '%' ∨ Percent.isUnreserved c = true
  single : ¬ ['/', '/'] <:+: path
  ends : path.getLast? = some '/' ↔ given.getLast? = some '/' ∨ segments given = []
  spells : (segments path).map (fun segment => Percent.decode (spelled segment)) =
    (segments given).map spelled

theorem isNormalForm_of_normalPath {given path : List Char} (h : normalPath given = .ok path) :
    IsNormalForm given path := by
  obtain ⟨decoded, hd, rfl⟩ := normalPath_eq_ok_iff.1 h
  have hne := ne_nil_of_spelled hd
  have ht := trailing_eq given
  refine ⟨head?_render _ _, fun c hc => mem_render ht hc, infix_render hne ht, ?_, ?_⟩
  · have hnil : segments given = [] ↔ decoded = [] := by
      rw [← List.map_eq_nil_iff (f := spelled), hd, List.map_eq_nil_iff]
    rw [getLast?_render hne, hnil]
  · rw [segments_render hne ht, hd, List.map_map]
    exact List.map_congr_left fun cs _ => decode_spelled_encodeTwice cs

/-- Two given paths have the same normal form exactly where they spell the same segments and, if
    there are any, end alike. -/
theorem normalPath_eq_iff {given given' path path' : List Char} (h : normalPath given = .ok path)
    (h' : normalPath given' = .ok path') : path = path' ↔
      (segments given).map spelled = (segments given').map spelled ∧
        (segments given ≠ [] → (given.getLast? = some '/' ↔ given'.getLast? = some '/')) := by
  constructor
  · rintro rfl
    have hform := isNormalForm_of_normalPath h
    have hform' := isNormalForm_of_normalPath h'
    have hsame := hform.spells.symm.trans hform'.spells
    refine ⟨hsame, fun hne => ?_⟩
    have hne' : segments given' ≠ [] := by
      rwa [Ne, ← List.map_eq_nil_iff (f := spelled), ← hsame, List.map_eq_nil_iff]
    exact (or_iff_left hne).symm.trans
      (hform.ends.symm.trans (hform'.ends.trans (or_iff_left hne')))
  · rintro ⟨hsame, hends⟩
    obtain ⟨decoded, hd, rfl⟩ := normalPath_eq_ok_iff.1 h
    obtain ⟨decoded', hd', rfl⟩ := normalPath_eq_ok_iff.1 h'
    have heq : decoded = decoded' :=
      List.map_injective_iff.2 Utf8.encode_injective (hd.symm.trans (hsame.trans hd'))
    subst heq
    by_cases hnil : decoded = []
    · subst hnil
      rfl
    · have hne : segments given ≠ [] := by
        rwa [Ne, ← List.map_eq_nil_iff (f := spelled), hd, List.map_eq_nil_iff]
      unfold trailing
      simp only [hends hne]

/-- **A path that is encoded twice is a faithful normal form.** There is one exactly where each
    segment spells a text; it spells the same segments when it is decoded twice; and two given
    paths have the same one exactly where they spell the same segments and end alike. -/
theorem path_faithful :
    (∀ given, (∃ path, Canonical.path true given = .ok path) ↔
      ∀ segment ∈ segments given.toList, Utf8.IsText (spelled segment)) ∧
    (∀ given path, Canonical.path true given = .ok path →
      IsNormalForm given.toList path.toList) ∧
    ∀ given given' path path', Canonical.path true given = .ok path →
      Canonical.path true given' = .ok path' → (path = path' ↔
        (segments given.toList).map spelled = (segments given'.toList).map spelled ∧
          (segments given.toList ≠ [] →
            (given.toList.getLast? = some '/' ↔ given'.toList.getLast? = some '/'))) := by
  refine ⟨fun given => ?_, fun given path h => ?_, fun given given' path path' h h' => ?_⟩
  · unfold Canonical.path normalPath
    rw [if_pos rfl, Fallible.exists_map_iff, Fallible.exists_map_iff, Fallible.exists_mapM_iff]
    refine forall₂_congr fun segment _ => ?_
    simp only [decodeSegment_eq_ok_iff]
    constructor
    · rintro ⟨cs, hcs⟩
      exact ⟨String.ofList cs, hcs.trans (Utf8.bytes_ofList cs).symm⟩
    · rintro ⟨s, hs⟩
      exact ⟨s.toList, hs⟩
  · exact isNormalForm_of_normalPath (path_eq_ok_iff.1 h)
  · rw [← normalPath_eq_iff (path_eq_ok_iff.1 h) (path_eq_ok_iff.1 h'), String.toList_inj]

/-- An escaped slash is kept apart, and an escape that is none stands for itself. -/
theorem path_faithful_escaped : Canonical.path true "/a%2fb//50%/" = .ok "/a%252Fb/50%2525/" ∧
    IsNormalForm "/a%2fb//50%/".toList "/a%252Fb/50%2525/".toList ∧
    segments "/a%252Fb/50%2525/".toList = ["a%252Fb".toList, "50%2525".toList] := by
  have h : Canonical.path true "/a%2fb//50%/" = .ok "/a%252Fb/50%2525/" := by decide +kernel
  exact ⟨h, path_faithful.2.1 _ _ h, by decide⟩

end Canonical

end Countersign
