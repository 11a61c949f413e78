import Countersign.Proofs.Text.Alphabet
import Countersign.Proofs.Text.Case

/-!
# Hexadecimal text read back

Bytes are written in one way, two small digits each, and are read from pairs of digits in either
case.

* `digitValue?_eq_some_iff` -- a character stands for a number exactly where in small letters it is
  the digit that is written for it;
* `Hex.decode?_eq_some_iff` -- so a text spells bytes exactly where in small letters it is what is
  written for them, and `Hex.decode?_encode` is the case of what was written;
* `Hex.exists_decode?_iff` -- the texts that spell bytes at all are those of pairs of digits
  (`Hex.IsPairs`).
-/

namespace Countersign.Text

/-! ## 1. Digits -/

/-- A digit, or a letter up to `f` in either case. -/
def isHexDigit (c : Char) : Bool := isLowerHex c || ('A' ≤ c && c ≤ 'F')

theorem isLowerHex_iff_toNat {c : Char} : isLowerHex c = true ↔
    (48 ≤ c.toNat ∧ c.toNat ≤ 57) ∨ (97 ≤ c.toNat ∧ c.toNat ≤ 102) := by
  unfold isLowerHex
  simp only [Bool.or_eq_true, Bool.and_eq_true, decide_eq_true_eq, Char.isDigit_iff_toNat]
  exact Iff.rfl

theorem isHexDigit_iff_toNat {c : Char} : isHexDigit c = true ↔
    ((48 ≤ c.toNat ∧ c.toNat ≤ 57) ∨ (97 ≤ c.toNat ∧ c.toNat ≤ 102)) ∨
      (65 ≤ c.toNat ∧ c.toNat ≤ 70) := by
  unfold isHexDigit
  simp only [Bool.or_eq_true, Bool.and_eq_true, decide_eq_true_eq, isLowerHex_iff_toNat]
  exact Iff.rfl

theorem isUpper_of_isLowerHex {c : Char} (h : isLowerHex c = true) : c.isUpper = false := by
  have hbounds := isLowerHex_iff_toNat.1 h
  refine Bool.eq_false_iff.2 fun hu => ?_
  have hupper := isUpper_iff_toNat.1 hu
  omega

/-- The characters that stand for a number. -/
theorem exists_digitValue?_iff {c : Char} :
    (∃ n, digitValue? c = some n) ↔ isHexDigit c = true := by
  rw [isHexDigit_iff_toNat, or_assoc, ← Option.isSome_iff_exists]
  unfold digitValue?
  grind

/-- A digit stands for a number in either case, and is written for it in one. -/
theorem digitValue?_eq_some_iff {c : Char} {n : Nat} :
    digitValue? c = some n ↔ n < 16 ∧ c.toLower = lowerDigit n := by
  refine ⟨fun h => ?_, fun ⟨hn, hc⟩ => ?_⟩
  · have htable : ∀ k < 103, ∀ m ∈ digitValue? (Char.ofNat k),
        m < 16 ∧ (Char.ofNat k).toLower = lowerDigit m := by decide
    have hbounds := isHexDigit_iff_toNat.1 (exists_digitValue?_iff.1 ⟨n, h⟩)
    have hc := htable c.toNat (by omega)
    rw [Char.ofNat_toNat] at hc
    exact hc n h
  · have hcase : digitValue? c.toLower = digitValue? c := eq_of_capitals (by decide) c
    rw [← hcase, hc, digitValue?_lowerDigit n hn]

/-! ## 2. Pairs of digits -/

theorem byteOfDigits?_eq_some_iff {high low : Char} {b : UInt8} :
    byteOfDigits? high low = some b ↔ [high.toLower, low.toLower] = Hex.encodeByte b := by
  refine ⟨fun h => ?_, fun h => ?_⟩
  · unfold byteOfDigits? at h
    split at h
    · rename_i x y hx hy
      obtain ⟨hx16, hhigh⟩ := digitValue?_eq_some_iff.1 hx
      obtain ⟨hy16, hlow⟩ := digitValue?_eq_some_iff.1 hy
      have hb : b.toNat = 16 * x + y := by
        have hlt : 16 * x + y < 256 := by omega
        rw [← Option.some.inj h]
        exact UInt8.toNat_ofNat_of_lt' hlt
      -- the two digits are the quotient and the remainder by sixteen
      have hdiv : b.toNat / 16 = x := by omega
      have hmod : b.toNat % 16 = y := by omega
      rw [Hex.encodeByte, hdiv, hmod, hhigh, hlow]
    · cases h
  · have hbyte : b.toNat < 256 := b.toNat_lt
    obtain ⟨hhigh, hrest⟩ := List.cons.inj h
    have hlow := (List.cons.inj hrest).1
    have hx := digitValue?_eq_some_iff.2 ⟨by omega, hhigh⟩
    have hy := digitValue?_eq_some_iff.2 ⟨by omega, hlow⟩
    have hb : UInt8.ofNat (16 * (b.toNat / 16) + b.toNat % 16) = b := by
      rw [Nat.div_add_mod, UInt8.ofNat_toNat]
    rw [byteOfDigits?, hx, hy]
    exact congrArg some hb

theorem exists_byteOfDigits?_iff {high low : Char} :
    (∃ b, byteOfDigits? high low = some b) ↔ isHexDigit high = true ∧ isHexDigit low = true := by
  rw [← exists_digitValue?_iff, ← exists_digitValue?_iff]
  unfold byteOfDigits?
  refine ⟨fun ⟨b, h⟩ => ?_, fun ⟨⟨x, hx⟩, ⟨y, hy⟩⟩ => ?_⟩
  · split at h
    · rename_i x y hx hy
      exact ⟨⟨x, hx⟩, ⟨y, hy⟩⟩
    · cases h
  · rw [hx, hy]
    exact ⟨_, rfl⟩

namespace Hex

/-! ## 3. Texts -/

/-- Pairs of hexadecimal digits, in either case. -/
structure IsPairs (cs : List Char) : Prop where
  even : Even cs.length
  digits : ∀ c ∈ cs, isHexDigit c = true

theorem isPairs_cons_cons {high low : Char} {rest : List Char} :
    IsPairs (high :: low :: rest) ↔
      (isHexDigit high = true ∧ isHexDigit low = true) ∧ IsPairs rest := by
  have heven : Even (rest.length + 1 + 1) ↔ Even rest.length := by
    rw [Nat.even_add_one, Nat.even_add_one, not_not]
  refine ⟨fun ⟨he, hd⟩ => ?_, fun ⟨⟨hh, hl⟩, he, hd⟩ => ?_⟩
  · rw [List.forall_mem_cons, List.forall_mem_cons] at hd
    exact ⟨⟨hd.1, hd.2.1⟩, heven.1 he, hd.2.2⟩
  · exact ⟨heven.2 he, List.forall_mem_cons.2 ⟨hh, List.forall_mem_cons.2 ⟨hl, hd⟩⟩⟩

/-- The first two characters are read as the first byte, and the others by themselves. -/
theorem decode?_cons_cons_eq_some_iff {high low : Char} {rest : List Char} {bs : List UInt8} :
    decode? (high :: low :: rest) = some bs ↔
      ∃ b tail, byteOfDigits? high low = some b ∧ decode? rest = some tail ∧ bs = b :: tail := by
  rw [decode?]
  refine ⟨fun h => ?_, fun ⟨b, tail, hb, ht, hbs⟩ => ?_⟩
  · split at h
    · rename_i b tail hb ht
      exact ⟨b, tail, hb, ht, (Option.some.inj h).symm⟩
    · cases h
  · rw [hb, ht, hbs]

/-- **A text spells bytes exactly where in small letters it is what is written for them.** -/
theorem decode?_eq_some_iff : ∀ {cs : List Char} {bs : List UInt8},
    decode? cs = some bs ↔ cs.map Char.toLower = encode bs
  | [], [] => ⟨fun _ => rfl, fun _ => rfl⟩
  | [], _ :: _ => ⟨nofun, nofun⟩
  | [c], bs => by
    refine ⟨nofun, fun h => ?_⟩
    have hlength := congrArg List.length h
    rw [length_encode, List.length_map, List.length_singleton] at hlength
    omega
  | _ :: _ :: _, [] => by
    refine ⟨fun h => ?_, nofun⟩
    obtain ⟨_, _, -, -, hbs⟩ := decode?_cons_cons_eq_some_iff.1 h
    cases hbs
  | high :: low :: rest, b :: bs => by
    have hsplit : (high :: low :: rest).map Char.toLower =
        [high.toLower, low.toLower] ++ rest.map Char.toLower := rfl
    rw [hsplit, encode_cons]
    refine ⟨fun h => ?_, fun h => ?_⟩
    · obtain ⟨_, _, hb, ht, hbs⟩ := decode?_cons_cons_eq_some_iff.1 h
      cases hbs
      rw [byteOfDigits?_eq_some_iff.1 hb, decode?_eq_some_iff.1 ht]
    · obtain ⟨hb, ht⟩ := List.append_inj h rfl
      exact decode?_cons_cons_eq_some_iff.2
        ⟨b, bs, byteOfDigits?_eq_some_iff.2 hb, decode?_eq_some_iff.2 ht, rfl⟩

/-- **Reading undoes writing**, for nothing is written in capitals. -/
theorem decode?_encode (bs : List UInt8) : decode? (encode bs) = some bs :=
  decode?_eq_some_iff.2 (map_toLower_eq_self fun _ hc => isUpper_of_isLowerHex (mem_hexEncode hc))

/-- **The texts that spell bytes are the pairs of digits.** -/
theorem exists_decode?_iff : ∀ {cs : List Char}, (∃ bs, decode? cs = some bs) ↔ IsPairs cs
  | [] => ⟨fun _ => ⟨⟨0, rfl⟩, fun _ hc => absurd hc List.not_mem_nil⟩, fun _ => ⟨[], rfl⟩⟩
  | [c] => by
    have hone : ¬ Even 1 := by decide
    exact ⟨fun ⟨_, h⟩ => absurd h nofun, fun h => absurd h.even hone⟩
  | high :: low :: rest => by
    rw [isPairs_cons_cons, ← exists_byteOfDigits?_iff, ← exists_decode?_iff]
    refine ⟨fun ⟨_, h⟩ => ?_, fun ⟨⟨b, hb⟩, tail, ht⟩ => ?_⟩
    · obtain ⟨b, tail, hb, ht, -⟩ := decode?_cons_cons_eq_some_iff.1 h
      exact ⟨⟨b, hb⟩, tail, ht⟩
    · exact ⟨_, decode?_cons_cons_eq_some_iff.2 ⟨b, tail, hb, ht, rfl⟩⟩

end Hex

end Countersign.Text
