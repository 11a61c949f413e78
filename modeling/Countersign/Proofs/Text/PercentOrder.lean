import Countersign.Proofs.Text.Alphabet
import Countersign.Proofs.Text.Lexicographic
import Countersign.Proofs.Text.Percent

/-!
# The order of percent-encoded texts

The percent sign comes before every unreserved character. So an encoded text does not stand where
the text stood: characters that are escaped come before those that are not, whatever their code
points are, and within either kind the code points count (`escapedFirst`).

* `firstSmaller_utf8EncodeChar` -- the bytes of characters have the order of the code points;
* `firstSmaller_writtenBytes` -- the bytes of encoded characters have the order `escapedFirst`;
* `encode_lt_encode_iff` -- and so have encoded texts, byte by byte.
-/

namespace Countersign.Text

/-! ## 1. The bytes of a character -/

/-- The greatest code point is 0x10FFFF. -/
theorem toNat_lt (c : Char) : c.toNat < 0x110000 := by
  have hv : c.toNat < 0xD800 ∨ (0xDFFF < c.toNat ∧ c.toNat < 0x110000) := c.valid
  omega

namespace Utf8

theorem ofNat_lt_ofNat {m n : Nat} (h : m < n) (hn : n < 256) : UInt8.ofNat m < UInt8.ofNat n := by
  rw [UInt8.lt_iff_toNat_lt, toNat_ofNat_of_lt (Nat.lt_trans h hn), toNat_ofNat_of_lt hn]
  exact h

/-- Bytes that are not the same come in the order of their numbers; else the rest is looked at. -/
theorem firstSmaller_ofNat_cons {m n : Nat} {us vs : List UInt8} (h : m ≤ n) (hn : n < 256)
    (hrest : m = n → FirstSmaller us vs) :
    FirstSmaller (UInt8.ofNat m :: us) (UInt8.ofNat n :: vs) := by
  by_cases heq : m = n
  · subst heq
    exact (hrest rfl).cons _
  · exact .of_lt (ofNat_lt_ofNat (Nat.lt_of_le_of_ne h heq) hn) _ _

/-- **The bytes of characters have the order of the code points.** -/
theorem firstSmaller_utf8EncodeChar {c d : Char} (h : c.toNat < d.toNat) :
    FirstSmaller (String.utf8EncodeChar c) (String.utf8EncodeChar d) := by
  have hd : d.toNat < 0x110000 := toNat_lt d
  have hc0 : c.val.toNat = c.toNat := rfl
  have hd0 : d.val.toNat = d.toNat := rfl
  unfold String.utf8EncodeChar
  simp only [hc0, hd0]
  -- sequences of different lengths differ in their first bytes, those of one length in the first
  -- of the digits to the base 64 that differs
  split
  · split
    · exact .of_lt (ofNat_lt_ofNat h (by omega)) _ _
    · split
      · exact .of_lt (ofNat_lt_ofNat (by omega) (by omega)) _ _
      · split
        · exact .of_lt (ofNat_lt_ofNat (by omega) (by omega)) _ _
        · exact .of_lt (ofNat_lt_ofNat (by omega) (by omega)) _ _
  · rw [if_neg (show ¬ d.toNat ≤ 0x7f by omega)]
    split
    · split
      · refine firstSmaller_ofNat_cons (by omega) (by omega) fun h1 => ?_
        exact .of_lt (ofNat_lt_ofNat (by omega) (by omega)) _ _
      · split
        · exact .of_lt (ofNat_lt_ofNat (by omega) (by omega)) _ _
        · exact .of_lt (ofNat_lt_ofNat (by omega) (by omega)) _ _
    · rw [if_neg (show ¬ d.toNat ≤ 0x7ff by omega)]
      split
      · split
        · refine firstSmaller_ofNat_cons (by omega) (by omega) fun h1 => ?_
          refine firstSmaller_ofNat_cons (by omega) (by omega) fun h2 => ?_
          exact .of_lt (ofNat_lt_ofNat (by omega) (by omega)) _ _
        · exact .of_lt (ofNat_lt_ofNat (by omega) (by omega)) _ _
      · rw [if_neg (show ¬ d.toNat ≤ 0xffff by omega)]
        refine firstSmaller_ofNat_cons (by omega) (by omega) fun h1 => ?_
        refine firstSmaller_ofNat_cons (by omega) (by omega) fun h2 => ?_
        refine firstSmaller_ofNat_cons (by omega) (by omega) fun h3 => ?_
        exact .of_lt (ofNat_lt_ofNat (by omega) (by omega)) _ _

end Utf8

/-! ## 2. The bytes of an encoded character -/

namespace Percent

/-- The place of a character in encoded text: those that are escaped come first, and else the code
    points count. -/
def escapedFirst (c : Char) : Nat := if isUnreserved c then 0x110000 + c.toNat else c.toNat

/-- The bytes of an encoded character. -/
def writtenBytes (c : Char) : List UInt8 := Utf8.encode (encode [c])

/-- The bytes of an encoded byte. -/
def writtenByte (b : UInt8) : List UInt8 := Utf8.encode (encodeByte b)

theorem writtenBytes_eq (c : Char) :
    writtenBytes c = (String.utf8EncodeChar c).flatMap writtenByte := by
  have hc : Utf8.encode [c] = String.utf8EncodeChar c := List.append_nil _
  unfold writtenBytes encode
  rw [hc]
  exact List.flatMap_assoc

theorem encode_encode (cs : List Char) : Utf8.encode (encode cs) = cs.flatMap writtenBytes := by
  induction cs with
  | nil => rfl
  | cons c cs ih =>
    have hcons : encode (c :: cs) = encode [c] ++ encode cs := encode_append [c] cs
    rw [hcons, Utf8.encode_append, ih]
    rfl

theorem bounds_of_isUnreserved {c : Char} (h : isUnreserved c = true) :
    0x25 < c.toNat ∧ c.toNat < 0x80 := by
  unfold isUnreserved at h
  simp only [Bool.or_eq_true, beq_iff_eq] at h
  rcases h with (((hletter | rfl) | rfl) | rfl) | rfl
  · have hbounds := bounds_of_isAlphanum hletter
    omega
  all_goals decide

/-- An unreserved character is its own byte. -/
theorem writtenBytes_of_isUnreserved {c : Char} (h : isUnreserved c = true) :
    writtenBytes c = [UInt8.ofNat c.toNat] := by
  have hlt := (bounds_of_isUnreserved h).2
  have hn : (UInt8.ofNat c.toNat).toNat = c.toNat := Utf8.toNat_ofNat_of_lt (by omega)
  have hbyte : writtenByte (UInt8.ofNat c.toNat) = [UInt8.ofNat c.toNat] :=
    encode_encodeByte_of_isUnreserved (by rw [hn, Char.ofNat_toNat]; exact h)
  rw [writtenBytes_eq, Utf8.utf8EncodeChar_of_ascii hlt, List.flatMap_singleton, hbyte]

/-- No byte of a character that is escaped could be left unescaped. -/
theorem isUnreserved_of_mem {c : Char} (h : isUnreserved c = false) {b : UInt8}
    (hb : b ∈ String.utf8EncodeChar c) : isUnreserved (Char.ofNat b.toNat) = false := by
  by_cases hlt : c.toNat < 0x80
  · rw [Utf8.utf8EncodeChar_of_ascii hlt, List.mem_singleton] at hb
    rw [hb, Utf8.toNat_ofNat_of_lt (by omega), Char.ofNat_toNat]
    exact h
  · have hwide := Utf8.le_of_mem_utf8EncodeChar (Nat.le_of_not_lt hlt) hb
    rw [Bool.eq_false_iff]
    intro hu
    have hlow := lt_of_isUnreserved b.toNat b.toNat_lt hu
    omega

theorem writtenByte_of_escaped {b : UInt8} (h : isUnreserved (Char.ofNat b.toNat) = false) :
    writtenByte b = [0x25, UInt8.ofNat (upperDigit (b.toNat / 16)).toNat,
      UInt8.ofNat (upperDigit (b.toNat % 16)).toNat] := by
  have hb : b.toNat < 256 := b.toNat_lt
  unfold writtenByte encodeByte
  rw [if_neg (Bool.eq_false_iff.1 h), encode_escape (by omega) (by omega)]

theorem upperDigit_lt_upperDigit : ∀ n : Nat, n < 16 → ∀ m : Nat, m < n →
    (upperDigit m).toNat < (upperDigit n).toNat := by decide

/-- Escapes have the order of the bytes that they stand for. -/
theorem firstSmaller_writtenByte {a b : UInt8} (ha : isUnreserved (Char.ofNat a.toNat) = false)
    (hb : isUnreserved (Char.ofNat b.toNat) = false) (h : a < b) :
    FirstSmaller (writtenByte a) (writtenByte b) := by
  have hlt : a.toNat < b.toNat := UInt8.lt_iff_toNat_lt.1 h
  have hbyte : b.toNat < 256 := b.toNat_lt
  have hdigit : ∀ {m n : Nat}, n < 16 → m < n →
      UInt8.ofNat (upperDigit m).toNat < UInt8.ofNat (upperDigit n).toNat := fun hn hm =>
    Utf8.ofNat_lt_ofNat (upperDigit_lt_upperDigit _ hn _ hm)
      (Nat.lt_trans (upperDigit_lt _ hn) (by decide))
  rw [writtenByte_of_escaped ha, writtenByte_of_escaped hb]
  refine .cons _ ?_
  by_cases hhigh : a.toNat / 16 = b.toNat / 16
  · rw [hhigh]
    exact .cons _ (.of_lt (hdigit (by omega) (by omega)) _ _)
  · exact .of_lt (hdigit (by omega) (by omega)) _ _

theorem writtenBytes_of_escaped {c : Char} (h : isUnreserved c = false) :
    ∃ rest, writtenBytes c = 0x25 :: rest := by
  have hne : String.utf8EncodeChar c ≠ [] := by
    intro hnil
    have hlen := String.length_utf8EncodeChar c
    rw [hnil, List.length_nil] at hlen
    exact absurd hlen (Nat.ne_of_lt c.utf8Size_pos)
  obtain ⟨b, bs, hbytes⟩ := List.exists_cons_of_ne_nil hne
  have hb := isUnreserved_of_mem h (hbytes ▸ List.mem_cons_self)
  rw [writtenBytes_eq, hbytes, List.flatMap_cons, writtenByte_of_escaped hb]
  exact ⟨_, rfl⟩

/-- **Encoded characters have the order `escapedFirst`**: a percent sign comes before all that
    needs none. -/
theorem firstSmaller_writtenBytes {c d : Char} (h : escapedFirst c < escapedFirst d) :
    FirstSmaller (writtenBytes c) (writtenBytes d) := by
  unfold escapedFirst at h
  cases huc : isUnreserved c with
  | true =>
    cases hud : isUnreserved d with
    | true =>
      have hd := (bounds_of_isUnreserved hud).2
      simp only [huc, hud, if_true] at h
      rw [writtenBytes_of_isUnreserved huc, writtenBytes_of_isUnreserved hud]
      exact .of_lt (Utf8.ofNat_lt_ofNat (by omega) (by omega)) _ _
    | false =>
      have hd := toNat_lt d
      simp only [huc, hud, if_true, Bool.false_eq_true, if_false] at h
      omega
  | false =>
    cases hud : isUnreserved d with
    | true =>
      have hd := bounds_of_isUnreserved hud
      obtain ⟨rest, hrest⟩ := writtenBytes_of_escaped huc
      rw [hrest, writtenBytes_of_isUnreserved hud]
      exact .of_lt (Utf8.ofNat_lt_ofNat hd.1 (by omega)) _ _
    | false =>
      simp only [huc, hud, Bool.false_eq_true, if_false] at h
      rw [writtenBytes_eq, writtenBytes_eq]
      exact (Utf8.firstSmaller_utf8EncodeChar h).flatMap fun a ha b hb =>
        firstSmaller_writtenByte (isUnreserved_of_mem huc ha) (isUnreserved_of_mem hud hb)

/-! ## 3. Texts -/

theorem eq_of_escapedFirst_eq {c d : Char} (h : escapedFirst c = escapedFirst d) : c = d := by
  have hc := toNat_lt c
  have hd := toNat_lt d
  unfold escapedFirst at h
  refine Char.toNat_inj.1 ?_
  split at h
  · split at h <;> omega
  · split at h <;> omega

/-- **Encoded texts have the order of their characters by `escapedFirst`**, byte by byte. -/
theorem encode_lt_encode_iff {cs ds : List Char} :
    Utf8.encode (encode cs) < Utf8.encode (encode ds) ↔
      cs.map escapedFirst < ds.map escapedFirst := by
  rw [encode_encode, encode_encode]
  refine flatMap_lt_flatMap_iff (fun _ _ => eq_of_escapedFirst_eq) (fun c => ?_)
    fun _ _ => firstSmaller_writtenBytes
  cases hu : isUnreserved c with
  | true =>
    rw [writtenBytes_of_isUnreserved hu]
    exact List.cons_ne_nil _ _
  | false =>
    obtain ⟨rest, hrest⟩ := writtenBytes_of_escaped hu
    rw [hrest]
    exact List.cons_ne_nil _ _

end Percent

end Countersign.Text
