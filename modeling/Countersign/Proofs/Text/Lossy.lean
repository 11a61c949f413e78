import Countersign.Text.Utf8.RoundTrip
import Mathlib.Data.List.Forall2

/-!
# What a lossy reading loses

`Utf8.decodeLossy` reads any bytes: it puts U+FFFD for each faulty stretch. It loses which bytes the
stretch had, and that it was one, for U+FFFD is a character that may have been written.

* `Piece.Replaced`, `ReadAlike` -- the pieces that read as U+FFFD, and the byte strings that differ
  in such pieces alone;
* `decodeLossy_eq_iff` -- these are the byte strings with one reading;
* `stretches`, `eq_of_stretches_eq` -- the reading and the bytes behind each U+FFFD of it determine
  the bytes;
* `decodeLossy_bytes`, `IsText.eq_of_decodeLossy_eq` -- of what was written from a text nothing is
  lost;
* `forall_eq_iff` -- a reading determines the bytes exactly where it holds no U+FFFD.
-/

namespace Countersign.Text.Utf8

/-! ## 1. Byte strings with one reading -/

/-- The piece reads as U+FFFD. -/
inductive Piece.Replaced : Piece → Prop
  | char : Replaced (.char '\uFFFD')
  | broken (stretch : List UInt8) : Replaced (.broken stretch)
  | cut (stretch : List UInt8) : Replaced (.cut stretch)

/-- Piece by piece the byte strings are the same, or both read as U+FFFD. -/
def ReadAlike (a b : List UInt8) : Prop :=
  List.Forall₂ (fun p q => p = q ∨ p.Replaced ∧ q.Replaced) (pieces a) (pieces b)

theorem Piece.mark_eq_replacement_iff {p : Piece} : p.mark = '\uFFFD' ↔ p.Replaced := by
  constructor
  · intro h
    cases p with
    | char c =>
      have hc : c = '\uFFFD' := h
      subst hc
      exact .char
    | broken stretch => exact .broken stretch
    | cut stretch => exact .cut stretch
  · intro h
    cases h <;> rfl

/-- A piece that is not replaced is a character. -/
theorem Piece.eq_char_of_mark_ne {p : Piece} (h : p.mark ≠ '\uFFFD') : p = .char p.mark := by
  cases p with
  | char c => rfl
  | broken stretch => exact absurd rfl h
  | cut stretch => exact absurd rfl h

theorem Piece.mark_eq_iff {p q : Piece} :
    p.mark = q.mark ↔ p = q ∨ p.Replaced ∧ q.Replaced := by
  rw [← mark_eq_replacement_iff, ← mark_eq_replacement_iff]
  constructor
  · intro h
    by_cases hp : p.mark = '\uFFFD'
    · exact Or.inr ⟨hp, h ▸ hp⟩
    · left
      rw [eq_char_of_mark_ne hp, h, ← eq_char_of_mark_ne (h ▸ hp)]
  · rintro (rfl | ⟨hp, hq⟩)
    · rfl
    · rw [hp, hq]

theorem decodeLossy_eq_iff_map {a b : List UInt8} :
    decodeLossy a = decodeLossy b ↔ (pieces a).map Piece.mark = (pieces b).map Piece.mark :=
  String.ofList_inj

/-- **Byte strings have one reading exactly where they differ in replaced pieces alone.** -/
theorem decodeLossy_eq_iff {a b : List UInt8} :
    decodeLossy a = decodeLossy b ↔ ReadAlike a b := by
  rw [decodeLossy_eq_iff_map, ← List.forall₂_eq_eq_eq, List.forall₂_map_left_iff,
    List.forall₂_map_right_iff]
  unfold ReadAlike
  simp only [Piece.mark_eq_iff]

/-! ## 2. What was replaced -/

/-- The bytes behind each U+FFFD of the reading, in their order. -/
def stretches (bs : List UInt8) : List (List UInt8) :=
  ((pieces bs).filter fun p => p.mark = '\uFFFD').map Piece.bytes

/-- Pieces with the same marks, and the same bytes where they are replaced, have the same bytes:
    where they are not replaced, the mark is the character that was read. -/
theorem flatMap_bytes_eq : ∀ {ps qs : List Piece}, ps.map Piece.mark = qs.map Piece.mark →
    (ps.filter fun p => p.mark = '\uFFFD').map Piece.bytes =
      (qs.filter fun q => q.mark = '\uFFFD').map Piece.bytes →
    ps.flatMap Piece.bytes = qs.flatMap Piece.bytes
  | [], [], _, _ => rfl
  | [], _ :: _, h, _ => nomatch h
  | _ :: _, [], h, _ => nomatch h
  | p :: ps, q :: qs, h, hs => by
    obtain ⟨hmark, hmarks⟩ := List.cons.inj h
    rw [List.flatMap_cons, List.flatMap_cons]
    by_cases hp : p.mark = '\uFFFD'
    · have hq : q.mark = '\uFFFD' := hmark ▸ hp
      rw [List.filter_cons_of_pos (by simpa using hp), List.filter_cons_of_pos (by simpa using hq)]
        at hs
      obtain ⟨hbytes, hrest⟩ := List.cons.inj hs
      rw [hbytes, flatMap_bytes_eq hmarks hrest]
    · have hq : ¬ q.mark = '\uFFFD' := hmark ▸ hp
      rw [List.filter_cons_of_neg (by simpa using hp), List.filter_cons_of_neg (by simpa using hq)]
        at hs
      rw [Piece.eq_char_of_mark_ne hp, hmark, ← Piece.eq_char_of_mark_ne hq,
        flatMap_bytes_eq hmarks hs]

/-- **The reading and what was replaced in it determine the bytes.** -/
theorem eq_of_stretches_eq {a b : List UInt8} (h : decodeLossy a = decodeLossy b)
    (hs : stretches a = stretches b) : a = b := by
  rw [← flatMap_bytes_pieces a, ← flatMap_bytes_pieces b]
  exact flatMap_bytes_eq (decodeLossy_eq_iff_map.1 h) hs

/-- Nothing was replaced where the reading holds no U+FFFD. -/
theorem stretches_eq_nil {bs : List UInt8} (h : '\uFFFD' ∉ (decodeLossy bs).toList) :
    stretches bs = [] := by
  unfold decodeLossy at h
  rw [String.toList_ofList] at h
  refine List.map_eq_nil_iff.2 (List.filter_eq_nil_iff.2 fun p hp hmark => h ?_)
  exact List.mem_map.2 ⟨p, hp, by simpa using hmark⟩

/-! ## 3. Where nothing is lost -/

/-- The reading of what was written from characters, and of what follows it. -/
theorem map_mark_pieces_encode_append (cs : List Char) (rest : List UInt8) :
    (pieces (encode cs ++ rest)).map Piece.mark = cs ++ (pieces rest).map Piece.mark := by
  rw [pieces_encode_append, List.map_append, List.map_map]
  exact congrArg (· ++ _) (List.map_id cs)

/-- A text that was written is read back. -/
@[simp] theorem decodeLossy_bytes (s : String) : decodeLossy (bytes s) = s := by
  have hmarks := map_mark_pieces_encode_append s.toList []
  rw [List.append_nil, pieces_nil, List.map_nil, List.append_nil] at hmarks
  unfold decodeLossy bytes
  rw [hmarks, String.ofList_toList]

theorem IsText.eq_of_decodeLossy_eq {a b : List UInt8} (ha : IsText a) (hb : IsText b)
    (h : decodeLossy a = decodeLossy b) : a = b := by
  obtain ⟨s, rfl⟩ := ha
  obtain ⟨t, rfl⟩ := hb
  rw [decodeLossy_bytes, decodeLossy_bytes] at h
  rw [h]

/-- A U+FFFD may be read from a byte that begins no sequence. -/
theorem exists_ne_bytes {s : String} (h : '\uFFFD' ∈ s.toList) :
    ∃ bs, decodeLossy bs = s ∧ bs ≠ bytes s := by
  obtain ⟨us, vs, hs⟩ := List.append_of_mem h
  refine ⟨encode us ++ 0xFF :: encode vs, ?_, ?_⟩
  · have hbroken : pieces (0xFF :: encode vs) = .broken [0xFF] :: pieces (encode vs ++ []) := by
      rw [List.append_nil, pieces, piecesFrom, start_none (by decide)]
      rfl
    have hmarks : (pieces (encode us ++ 0xFF :: encode vs)).map Piece.mark = s.toList := by
      rw [map_mark_pieces_encode_append, hbroken, List.map_cons, map_mark_pieces_encode_append, hs,
        pieces_nil, List.map_nil, List.append_nil]
      rfl
    unfold decodeLossy
    rw [hmarks, String.ofList_toList]
  · intro heq
    unfold bytes at heq
    rw [hs, encode_append] at heq
    have hhead := List.append_cancel_left heq
    exact absurd (List.cons.inj hhead).1 (by decide)

/-- **A reading determines the bytes exactly where it holds no U+FFFD.** -/
theorem forall_eq_iff {a : List UInt8} :
    (∀ b, decodeLossy b = decodeLossy a → b = a) ↔ '\uFFFD' ∉ (decodeLossy a).toList := by
  constructor
  · intro hall hmem
    -- the text that was read is written in one way, and read from some other bytes as well
    obtain ⟨bs, hread, hne⟩ := exists_ne_bytes hmem
    exact hne ((hall bs hread).trans (hall _ (decodeLossy_bytes _)).symm)
  · intro hno b hread
    refine eq_of_stretches_eq hread ?_
    rw [stretches_eq_nil (by rwa [hread]), stretches_eq_nil hno]

end Countersign.Text.Utf8
