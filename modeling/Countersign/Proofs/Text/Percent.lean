import Countersign.Text.Percent
import Countersign.Text.Utf8.RoundTrip

/-!
# Reading percent-encoded text back

* `decode_encode` -- decoding once what was encoded once gives the UTF-8 bytes of the text, whatever
  characters it holds;
* `encode_injective` -- so no two texts are encoded alike.
-/

namespace Countersign.Text.Percent

/-! ## 1. One byte -/

/-- A byte that is no percent sign stands for itself. -/
theorem decode_cons_of_ne {b : UInt8} (h : b ≠ 0x25) (rest : List UInt8) :
    decode (b :: rest) = b :: decode rest := by
  match rest with
  | [] => rfl
  | [_] => rfl
  | x :: y :: rest =>
    have he : escaped? b x y = none := if_neg h
    rw [decode, he]

/-- A percent sign and two digits stand for the byte of the digits. -/
theorem decode_escape {high low b : UInt8} (h : escaped? 0x25 high low = some b)
    (rest : List UInt8) : decode (0x25 :: high :: low :: rest) = b :: decode rest := by
  rw [decode, h]

theorem lt_of_isUnreserved : ∀ n : Nat, n < 256 → isUnreserved (Char.ofNat n) = true →
    n < 0x80 := by decide +kernel

theorem upperDigit_lt : ∀ n : Nat, n < 16 → (upperDigit n).toNat < 0x80 := by decide

/-- A byte that needs no escape is written as the character of its number. -/
theorem encode_encodeByte_of_isUnreserved {b : UInt8}
    (h : isUnreserved (Char.ofNat b.toNat) = true) : Utf8.encode (encodeByte b) = [b] := by
  have hb := lt_of_isUnreserved b.toNat b.toNat_lt h
  have hn : (Char.ofNat b.toNat).toNat = b.toNat :=
    Utf8.val_ofNat (Or.inl (Nat.lt_trans hb (by decide)))
  unfold encodeByte
  rw [if_pos h, Utf8.encode_cons, Utf8.utf8EncodeChar_of_ascii (by omega), hn, UInt8.ofNat_toNat]
  rfl

/-- An escape is three ASCII characters. -/
theorem encode_escape {high low : Nat} (hh : high < 16) (hl : low < 16) :
    Utf8.encode ['%', upperDigit high, upperDigit low] =
      [0x25, UInt8.ofNat (upperDigit high).toNat, UInt8.ofNat (upperDigit low).toNat] := by
  rw [Utf8.encode_cons, Utf8.encode_cons, Utf8.encode_cons,
    Utf8.utf8EncodeChar_of_ascii (upperDigit_lt high hh),
    Utf8.utf8EncodeChar_of_ascii (upperDigit_lt low hl)]
  rfl

/-- The two digits of a byte stand for it. -/
theorem escaped?_upperDigit {high low : Nat} (hh : high < 16) (hl : low < 16) :
    escaped? 0x25 (UInt8.ofNat (upperDigit high).toNat) (UInt8.ofNat (upperDigit low).toNat) =
      some (UInt8.ofNat (16 * high + low)) := by
  have hchar : ∀ n, n < 16 →
      Char.ofNat (UInt8.ofNat (upperDigit n).toNat).toNat = upperDigit n := by decide
  unfold escaped? byteOfDigits?
  rw [if_pos rfl, hchar high hh, hchar low hl, digitValue?_upperDigit high hh,
    digitValue?_upperDigit low hl]

/-- **An encoded byte is read as that byte**, whatever follows it. -/
theorem decode_encodeByte_append (b : UInt8) (rest : List UInt8) :
    decode (Utf8.encode (encodeByte b) ++ rest) = b :: decode rest := by
  by_cases hu : isUnreserved (Char.ofNat b.toNat) = true
  · have hne : b ≠ 0x25 := by
      rintro rfl
      exact absurd hu (by decide)
    rw [encode_encodeByte_of_isUnreserved hu]
    exact decode_cons_of_ne hne rest
  · have hb : b.toNat < 256 := b.toNat_lt
    have hh : b.toNat / 16 < 16 := by omega
    have hl : b.toNat % 16 < 16 := by omega
    have hbyte : UInt8.ofNat (16 * (b.toNat / 16) + b.toNat % 16) = b :=
      Utf8.eq_ofNat (Nat.div_add_mod b.toNat 16)
    unfold encodeByte
    rw [if_neg hu, encode_escape hh hl]
    exact decode_escape ((escaped?_upperDigit hh hl).trans (congrArg some hbyte)) rest

/-! ## 2. Texts -/

theorem decode_encodeBytes (bs : List UInt8) : decode (Utf8.encode (encodeBytes bs)) = bs := by
  induction bs with
  | nil => rfl
  | cons b bs ih => rw [encodeBytes_cons, Utf8.encode_append, decode_encodeByte_append, ih]

/-- **Decoding undoes encoding.** -/
theorem decode_encode (cs : List Char) : decode (Utf8.encode (encode cs)) = Utf8.encode cs :=
  decode_encodeBytes _

/-- No two texts are encoded alike. -/
theorem encode_injective : Function.Injective encode := by
  intro cs ds h
  have hb := decode_encode cs
  rw [h, decode_encode] at hb
  exact Utf8.encode_injective hb.symm

end Countersign.Text.Percent
