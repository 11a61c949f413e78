import Countersign.Http.Form
import Countersign.Http.Uri
import Countersign.Proofs.Text.Join
import Countersign.Proofs.Text.Lossy
import Countersign.Proofs.Text.Percent

/-!
# The bytes behind form pairs

The pairs of a query are read from pairs of bytes, keys and values alike by a lossy reading. Any
pairs of bytes can be written as a query, so all that this reading loses is lost on some query.

* `write`, `bytePairs_write` -- pairs of bytes as a query, and back;
* `ReadAlike`, `map_read_eq_iff` -- the pairs of bytes that read as one pair of texts;
* `eq_of_stretches_eq` -- what was replaced in the reading tells them apart;
* `forall_pairs_eq_iff` -- a query is alone with its pairs, as far as bytes go, exactly where no key
  and no value holds U+FFFD.
-/

namespace Countersign.Http.Form

open Countersign.Text

/-! ## 1. Writing pairs of bytes -/

/-- A key and a value around an equals sign, both encoded. -/
def token (pair : List UInt8 × List UInt8) : List Char :=
  Percent.encodeBytes pair.1 ++ '=' :: Percent.encodeBytes pair.2

/-- A query that is read as the given pairs of bytes. -/
def write (ps : List (List UInt8 × List UInt8)) : String :=
  String.ofList (['&'].intercalate (ps.map token))

/-- The byte is none of the three marks of a query. -/
def isUnmarked (b : UInt8) : Bool := b != 0x26 && b != 0x3D && b != 0x2B

theorem isUnmarked_encodeByte : ∀ n : Nat, n < 256 →
    (Utf8.encode (Percent.encodeByte (UInt8.ofNat n))).all isUnmarked = true := by decide +kernel

/-- The bytes that bytes are encoded with are none of the marks. -/
theorem unmarked_of_mem {bs : List UInt8} {x : UInt8}
    (h : x ∈ Utf8.encode (Percent.encodeBytes bs)) : x ≠ 0x26 ∧ x ≠ 0x3D ∧ x ≠ 0x2B := by
  unfold Utf8.encode Percent.encodeBytes at h
  rw [List.flatMap_assoc] at h
  obtain ⟨b, -, hx⟩ := List.mem_flatMap.1 h
  have hb := isUnmarked_encodeByte b.toNat b.toNat_lt
  rw [UInt8.ofNat_toNat] at hb
  have hunmarked := List.all_eq_true.1 hb x hx
  simpa [isUnmarked, and_assoc] using hunmarked

theorem encode_token (pair : List UInt8 × List UInt8) : Utf8.encode (token pair) =
    Utf8.encode (Percent.encodeBytes pair.1) ++
      0x3D :: Utf8.encode (Percent.encodeBytes pair.2) := by
  unfold token
  rw [Utf8.encode_append, Utf8.encode_cons]
  rfl

theorem isPiece_encode_token (pair : List UInt8 × List UInt8) :
    IsPiece 0x26 (Utf8.encode (token pair)) := by
  rw [encode_token]
  constructor
  · intro h
    rcases List.mem_append.1 h with h | h
    · exact (unmarked_of_mem h).1 rfl
    · rcases List.mem_cons.1 h with h | h
      · exact absurd h (by decide)
      · exact (unmarked_of_mem h).1 rfl
  · exact List.append_ne_nil_of_right_ne_nil _ (List.cons_ne_nil _ _)

/-- A token is cut at its only equals sign. -/
theorem cut_encode_token (pair : List UInt8 × List UInt8) : cut (Utf8.encode (token pair)) =
    (Utf8.encode (Percent.encodeBytes pair.1), Utf8.encode (Percent.encodeBytes pair.2)) := by
  have hkey : ∀ x ∈ Utf8.encode (Percent.encodeBytes pair.1), (x != 0x3D) = true := by
    intro x hx
    exact bne_iff_ne.2 (unmarked_of_mem hx).2.1
  unfold cut
  rw [encode_token, List.takeWhile_append_of_pos hkey, List.dropWhile_append_of_pos hkey,
    List.takeWhile_cons_of_neg (by decide), List.dropWhile_cons_of_neg (by decide),
    List.append_nil]
  rfl

theorem unescape_encode (bs : List UInt8) :
    unescape (Utf8.encode (Percent.encodeBytes bs)) = bs := by
  have hplus : ∀ x ∈ Utf8.encode (Percent.encodeBytes bs),
      (if x = 0x2B then (0x20 : UInt8) else x) = id x := by
    intro x hx
    exact if_neg (unmarked_of_mem hx).2.2
  unfold unescape
  rw [List.map_congr_left hplus, List.map_id, Percent.decode_encodeBytes]

/-- **Any pairs of bytes can be written**, and are read back. -/
theorem bytePairs_write (ps : List (List UInt8 × List UInt8)) :
    bytePairs (Utf8.bytes (write ps)) = ps := by
  have hbytes : Utf8.bytes (write ps) =
      [0x26].intercalate ((ps.map token).map Utf8.encode) := by
    unfold write
    rw [Utf8.bytes_ofList]
    exact flatMap_intercalate String.utf8EncodeChar ['&'] _
  have hpieces : ∀ l ∈ (ps.map token).map Utf8.encode, IsPiece 0x26 l := by
    intro l hl
    obtain ⟨cs, hcs, rfl⟩ := List.mem_map.1 hl
    obtain ⟨pair, -, rfl⟩ := List.mem_map.1 hcs
    exact isPiece_encode_token pair
  unfold bytePairs
  rw [hbytes, filter_splitOn_intercalate hpieces, List.map_map, List.map_map]
  have hpair : ∀ pair : List UInt8 × List UInt8,
      (unescape (cut (Utf8.encode (token pair))).1, unescape (cut (Utf8.encode (token pair))).2) =
        pair := by
    intro pair
    rw [cut_encode_token, unescape_encode, unescape_encode]
  exact (List.map_congr_left fun pair _ => hpair pair).trans (List.map_id ps)

theorem isQueryChar_encodeByte : ∀ n : Nat, n < 256 →
    (Percent.encodeByte (UInt8.ofNat n)).all isQueryChar = true := by decide +kernel

theorem isQueryChar_of_mem_encodeBytes {bs : List UInt8} {c : Char}
    (h : c ∈ Percent.encodeBytes bs) : isQueryChar c = true := by
  obtain ⟨b, -, hc⟩ := List.mem_flatMap.1 h
  have hb := isQueryChar_encodeByte b.toNat b.toNat_lt
  rw [UInt8.ofNat_toNat] at hb
  exact List.all_eq_true.1 hb c hc

/-- What is written may stand in a target. -/
theorem all_isQueryChar_write (ps : List (List UInt8 × List UInt8)) :
    (write ps).toList.all isQueryChar = true := by
  unfold write
  rw [String.toList_ofList, List.all_eq_true]
  intro c hc
  rcases mem_intercalate hc with hsep | ⟨cs, hcs, hc⟩
  · rw [List.mem_singleton.1 hsep]
    decide
  · obtain ⟨pair, -, rfl⟩ := List.mem_map.1 hcs
    rcases List.mem_append.1 hc with hkey | hrest
    · exact isQueryChar_of_mem_encodeBytes hkey
    · rcases List.mem_cons.1 hrest with rfl | hvalue
      · decide
      · exact isQueryChar_of_mem_encodeBytes hvalue

/-! ## 2. Pairs that read as one -/

/-- What a pair of bytes reads as. -/
def read (pair : List UInt8 × List UInt8) : String × String :=
  (Utf8.decodeLossy pair.1, Utf8.decodeLossy pair.2)

theorem pairs_eq_map_read (query : String) :
    pairs query = (bytePairs (Utf8.bytes query)).map read := rfl

/-- The keys read as one text, and so do the values. -/
def ReadAlike (p q : List UInt8 × List UInt8) : Prop :=
  Utf8.ReadAlike p.1 q.1 ∧ Utf8.ReadAlike p.2 q.2

/-- What was replaced in the key and in the value. -/
def stretches (pair : List UInt8 × List UInt8) : List (List UInt8) × List (List UInt8) :=
  (Utf8.stretches pair.1, Utf8.stretches pair.2)

/-- No key and no value holds U+FFFD. -/
def Unreplaced (pairs : List (String × String)) : Prop :=
  ∀ pair ∈ pairs, '\uFFFD' ∉ pair.1.toList ∧ '\uFFFD' ∉ pair.2.toList

instance (pairs : List (String × String)) : Decidable (Unreplaced pairs) :=
  inferInstanceAs
    (Decidable (∀ pair ∈ pairs, '\uFFFD' ∉ pair.1.toList ∧ '\uFFFD' ∉ pair.2.toList))

/-- The keys and the values are UTF-8. -/
def AllText (ps : List (List UInt8 × List UInt8)) : Prop :=
  ∀ pair ∈ ps, Utf8.IsText pair.1 ∧ Utf8.IsText pair.2

theorem read_eq_iff {p q : List UInt8 × List UInt8} : read p = read q ↔ ReadAlike p q := by
  unfold read ReadAlike
  rw [Prod.mk.injEq, Utf8.decodeLossy_eq_iff, Utf8.decodeLossy_eq_iff]

theorem map_read_eq_iff {ps qs : List (List UInt8 × List UInt8)} :
    ps.map read = qs.map read ↔ List.Forall₂ ReadAlike ps qs := by
  rw [← List.forall₂_eq_eq_eq, List.forall₂_map_left_iff, List.forall₂_map_right_iff]
  simp only [read_eq_iff]

theorem read_stretches_injective :
    Function.Injective fun p : List UInt8 × List UInt8 => (read p, stretches p) := by
  intro p q h
  obtain ⟨hread, hstretches⟩ := Prod.mk.inj h
  obtain ⟨hkey, hvalue⟩ := Prod.mk.inj hread
  obtain ⟨hkey', hvalue'⟩ := Prod.mk.inj hstretches
  exact Prod.ext (Utf8.eq_of_stretches_eq hkey hkey') (Utf8.eq_of_stretches_eq hvalue hvalue')

/-- **The reading and what was replaced in it determine the pairs.** -/
theorem eq_of_stretches_eq {ps qs : List (List UInt8 × List UInt8)}
    (h : ps.map read = qs.map read) (hs : ps.map stretches = qs.map stretches) : ps = qs := by
  refine List.map_injective_iff.2 read_stretches_injective ?_
  calc ps.map (fun p => (read p, stretches p))
      = (ps.map read).zip (ps.map stretches) := List.zip_map'.symm
    _ = (qs.map read).zip (qs.map stretches) := by rw [h, hs]
    _ = qs.map (fun p => (read p, stretches p)) := List.zip_map'

/-- UTF-8 is told apart by its reading. -/
theorem AllText.eq_of_map_read_eq {ps qs : List (List UInt8 × List UInt8)} (hp : AllText ps)
    (hq : AllText qs) (h : ps.map read = qs.map read) : ps = qs := by
  refine eq_of_map_eq h fun p hmem q hmem' hpair => ?_
  obtain ⟨hkey, hvalue⟩ := Prod.mk.inj hpair
  exact Prod.ext ((hp p hmem).1.eq_of_decodeLossy_eq (hq q hmem').1 hkey)
    ((hp p hmem).2.eq_of_decodeLossy_eq (hq q hmem').2 hvalue)

/-! ## 3. Where nothing is lost -/

/-- A pair of bytes is alone with its reading exactly where nothing in it reads as U+FFFD. -/
theorem forall_read_eq_iff {p : List UInt8 × List UInt8} : (∀ q, read q = read p → q = p) ↔
    '\uFFFD' ∉ (read p).1.toList ∧ '\uFFFD' ∉ (read p).2.toList := by
  obtain ⟨key, value⟩ := p
  unfold read
  rw [← Utf8.forall_eq_iff, ← Utf8.forall_eq_iff]
  constructor
  · intro hall
    refine ⟨fun b hb => ?_, fun b hb => ?_⟩
    · exact congrArg Prod.fst (hall (b, value) (congrArg (·, Utf8.decodeLossy value) hb))
    · exact congrArg Prod.snd (hall (key, b) (congrArg (Utf8.decodeLossy key, ·) hb))
  · rintro ⟨hkey, hvalue⟩ ⟨a, b⟩ h
    obtain ⟨ha, hb⟩ := Prod.mk.inj h
    rw [hkey a ha, hvalue b hb]

/-- So are the pairs of a list, one by one. -/
theorem forall_map_read_eq_iff {ps : List (List UInt8 × List UInt8)} :
    (∀ qs, qs.map read = ps.map read → qs = ps) ↔ Unreplaced (ps.map read) := by
  have halone : Unreplaced (ps.map read) ↔ ∀ p ∈ ps, ∀ q, read q = read p → q = p := by
    unfold Unreplaced
    rw [List.forall_mem_map]
    exact forall₂_congr fun _ _ => forall_read_eq_iff.symm
  rw [halone]
  constructor
  · intro hall p hp q hq
    obtain ⟨us, vs, rfl⟩ := List.append_of_mem hp
    have hput : us ++ q :: vs = us ++ p :: vs := by
      refine hall _ ?_
      rw [List.map_append, List.map_append, List.map_cons, List.map_cons, hq]
    exact (List.cons.inj (List.append_cancel_left hput)).1
  · exact fun hall qs h => eq_of_map_eq h fun q _ p hp hq => hall p hp q hq

/-- **A query is alone with its pairs**, as far as bytes go, exactly where no key and no value holds
    U+FFFD. -/
theorem forall_pairs_eq_iff {ps : List (List UInt8 × List UInt8)} :
    (∀ query : String, query.toList.all isQueryChar = true → pairs query = ps.map read →
      bytePairs (Utf8.bytes query) = ps) ↔ Unreplaced (ps.map read) := by
  rw [← forall_map_read_eq_iff]
  constructor
  · intro hall qs h
    have hwrite := hall (write qs) (all_isQueryChar_write qs)
    rw [pairs_eq_map_read, bytePairs_write] at hwrite
    exact hwrite h
  · exact fun hall query _ h => hall _ h

end Countersign.Http.Form
