/-!
# Hexadecimal text

* `lowerDigit`, `upperDigit` -- the digit of a number below sixteen, in small or capital letters;
* `digitValue?` -- the number of a digit in either case;
* `Hex.encode`, `Hex.decode?` -- bytes as two small digits each, and back from either case.
-/

namespace Countersign.Text

/-! ## 1. Digits -/

/-- The digit of `n` in small letters, for `n` below sixteen. -/
def lowerDigit (n : Nat) : Char := Char.ofNat (if n < 10 then 48 + n else 87 + n)

/-- The digit of `n` in capital letters, for `n` below sixteen. -/
def upperDigit (n : Nat) : Char := Char.ofNat (if n < 10 then 48 + n else 55 + n)

/-- The number a digit stands for, in either case. -/
def digitValue? (c : Char) : Option Nat :=
  let n := c.toNat
  if 48 ≤ n ∧ n ≤ 57 then some (n - 48)
  else if 97 ≤ n ∧ n ≤ 102 then some (n - 87)
  else if 65 ≤ n ∧ n ≤ 70 then some (n - 55)
  else none

theorem digitValue?_lowerDigit : ∀ n : Nat, n < 16 → digitValue? (lowerDigit n) = some n := by
  decide

theorem digitValue?_upperDigit : ∀ n : Nat, n < 16 → digitValue? (upperDigit n) = some n := by
  decide

/-- The byte of two digits. -/
def byteOfDigits? (high low : Char) : Option UInt8 :=
  match digitValue? high, digitValue? low with
  | some h, some l => some (UInt8.ofNat (16 * h + l))
  | _, _ => none

namespace Hex

/-! ## 2. Bytes -/

/-- A byte as two small digits, the high half first. -/
def encodeByte (b : UInt8) : List Char := [lowerDigit (b.toNat / 16), lowerDigit (b.toNat % 16)]

/-- Two small digits for each byte. -/
def encode (bytes : List UInt8) : List Char := bytes.flatMap encodeByte

@[simp] theorem encode_nil : encode [] = [] := rfl

@[simp] theorem encode_cons (b : UInt8) (bs : List UInt8) :
    encode (b :: bs) = encodeByte b ++ encode bs := rfl

theorem length_encode (bytes : List UInt8) : (encode bytes).length = 2 * bytes.length := by
  induction bytes with
  | nil => rfl
  | cons b bs ih => simp [encodeByte, ih]; omega

/-- The bytes of a text of digit pairs; a lone digit or another character refuses the whole. -/
def decode? : List Char → Option (List UInt8)
  | [] => some []
  | [_] => none
  | high :: low :: rest =>
    match byteOfDigits? high low, decode? rest with
    | some b, some bs => some (b :: bs)
    | _, _ => none

end Hex

/-- The bytes as text of two small hexadecimal digits each. -/
def hexText (bytes : List UInt8) : String := String.ofList (Hex.encode bytes)

@[simp] theorem toList_hexText (bytes : List UInt8) : (hexText bytes).toList = Hex.encode bytes :=
  String.toList_ofList

end Countersign.Text
