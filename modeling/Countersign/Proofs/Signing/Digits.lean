import Countersign.Proofs.Signing.Secret
import Countersign.Proofs.Text.Hex

/-!
# Bytes and their digits

A digest can be had as bytes and as text. Nothing is lost on the way: what a caller reads of
hexadecimal text is what was written, and only what could have been written is read, but for the
case of its letters.

* `Read.hex_eq_ok_iff`, `Read.exists_hex_iff`, `Read.hex_eq_error` -- what is read of a text, of
  which texts anything is, and the fault of the others;
* `Read.hex_hexText` -- what was written is read back, so a keyed digest in digits is the digest in
  bytes;
* `hex_inverse_on_pairs` -- all of it, with the digits of a signature.
-/

namespace Countersign

open Countersign.Text Countersign.Digest Countersign.Http

/-! ## 1. What a caller reads -/

namespace Read

variable {s : String} {bytes : List UInt8}

theorem hex_eq_ok_iff : hex s = .ok bytes ↔ s.toLower = hexText bytes := by
  unfold hex String.toLower
  rw [orFault_eq_ok_iff, Hex.decode?_eq_some_iff, ← String.toList_inj, toList_hexText,
    String.toList_map]

theorem exists_hex_iff : (∃ bytes, hex s = .ok bytes) ↔ Hex.IsPairs s.toList := by
  unfold hex
  simp only [orFault_eq_ok_iff]
  exact Hex.exists_decode?_iff

/-- There is one fault for all texts that spell no bytes. -/
theorem hex_eq_error (h : ¬ Hex.IsPairs s.toList) : hex s = .error .notHex := by
  have hnone : Hex.decode? s.toList = none := by
    refine Option.eq_none_iff_forall_ne_some.2 fun bs hbs => h ?_
    exact Hex.exists_decode?_iff.1 ⟨bs, hbs⟩
  unfold hex
  rw [hnone, orFault_none]

theorem hex_hexText (bytes : List UInt8) : hex (hexText bytes) = .ok bytes := by
  unfold hex
  rw [toList_hexText, Hex.decode?_encode, orFault_some]

end Read

/-! ## 2. Bytes, digits, signatures -/

/-- **Writing and reading undo one another on exactly the pairs of digits**: the texts that are read
    as some bytes are those that in small letters are written for them. So a keyed digest is one in
    bytes and in digits, and of these every signature has sixty-four. -/
theorem hex_inverse_on_pairs :
    (∀ bytes, Read.hex (hexText bytes) = .ok bytes ∧
      (hexText bytes).length = 2 * bytes.length ∧
      ∀ c ∈ (hexText bytes).toList, isLowerHex c = true) ∧
    (∀ s, (∃ bytes, Read.hex s = .ok bytes) ↔ Hex.IsPairs s.toList) ∧
    (∀ s, ¬ Hex.IsPairs s.toList → Read.hex s = .error .notHex) ∧
    (∀ s bytes, Read.hex s = .ok bytes ↔ hexText bytes = s.toLower) ∧
    (∀ key message, Read.hex (hexHmacSha256 key message) = .ok (hmacSha256 key message)) ∧
    (∀ (key : SigningKey) text, IsSignatureText (key.sign text)) ∧
    ∀ (p : Profile) r s, p.sign r = .ok s → IsSignatureText s.text := by
  refine ⟨fun bytes => ⟨Read.hex_hexText bytes, ?_, fun c hc => ?_⟩, fun s => Read.exists_hex_iff,
    fun s => Read.hex_eq_error, fun s bytes => Read.hex_eq_ok_iff.trans eq_comm,
    fun key message => Read.hex_hexText _, SigningKey.isSignatureText_sign, fun p r s h => ?_⟩
  · rw [← String.length_toList, toList_hexText, Hex.length_encode]
  · rw [toList_hexText] at hc
    exact mem_hexEncode hc
  · obtain ⟨time, hash, c, -, -, -, rfl⟩ := Profile.sign_eq_ok_iff.1 h
    exact p.isSignatureText_signatureOf _

/-- Letters in both cases, a text of no digits, and a request that is signed. -/
theorem hex_inverse_on_pairs_bothCases :
    let p := Trial.profile "region" Trial.originAndTime .included
    Read.hex "000FA0ff" = .ok [0x00, 0x0f, 0xa0, 0xff] ∧
      hexText [0x00, 0x0f, 0xa0, 0xff] = "000fa0ff" ∧
      ¬ Hex.IsPairs ['z', 'z'] ∧ Read.hex "zz" = .error .notHex ∧
      ∃ s, p.sign (Trial.request [Trial.timeField]) = .ok s ∧ IsSignatureText s.text := by
  intro p
  obtain ⟨-, -, hrefused, hagain, -, -, hsigned⟩ := hex_inverse_on_pairs
  have hread : Read.hex "000FA0ff" = .ok [0x00, 0x0f, 0xa0, 0xff] := rfl
  have hlower : "000FA0ff".toLower = "000fa0ff" :=
    String.toList_inj.1 (String.toList_map.trans (by decide))
  have hz : ¬ Hex.IsPairs ['z', 'z'] := fun h => absurd (h.digits 'z' List.mem_cons_self) (by decide)
  have hc : p.canonicalRequest (Trial.request [Trial.timeField]) =
      .ok ⟨"GET", "/", "", "origin:\nx-amz-date:20150830T123600Z\n", "origin;x-amz-date",
        hexSha256 []⟩ := by decide +kernel
  obtain ⟨time, hash, ht, hh, hb⟩ := Profile.canonicalRequest_eq_ok_iff.1 hc
  have hs := Profile.sign_eq_ok_iff.2 ⟨time, hash, _, ht, hh, hb, rfl⟩
  exact ⟨hread, ((hagain _ _).1 hread).trans hlower, hz, hrefused "zz" hz, _, hs, hsigned p _ _ hs⟩

end Countersign
