import Countersign.Text.Hex
import Countersign.Text.Utf8

/-!
# Percent-encoding

`Percent.encode` writes the UTF-8 bytes of a text with every byte outside the unreserved set
(letters, digits and `-` `.` `_` `~`) as `%` and two capital digits. `Percent.decode` reads `%` and
two digits of either case as one byte and keeps any other `%` as it stands.
-/

namespace Countersign.Text.Percent

/-- A letter, a digit or one of `-` `.` `_` `~`: never encoded. -/
def isUnreserved (c : Char) : Bool :=
  c.isAlphanum || c == '-' || c == '.' || c == '_' || c == '~'

/-- One byte: itself where it is unreserved, else `%` and two capital digits. -/
def encodeByte (b : UInt8) : List Char :=
  if isUnreserved (Char.ofNat b.toNat) then [Char.ofNat b.toNat]
  else ['%', upperDigit (b.toNat / 16), upperDigit (b.toNat % 16)]

/-- The encoding of a byte string. -/
def encodeBytes (bs : List UInt8) : List Char := bs.flatMap encodeByte

/-- The encoding of a text, through its UTF-8 bytes. -/
def encode (cs : List Char) : List Char := encodeBytes (Utf8.encode cs)

@[simp] theorem encodeBytes_nil : encodeBytes [] = [] := rfl

@[simp] theorem encodeBytes_cons (b : UInt8) (bs : List UInt8) :
    encodeBytes (b :: bs) = encodeByte b ++ encodeBytes bs := rfl

@[simp] theorem encodeBytes_append (as bs : List UInt8) :
    encodeBytes (as ++ bs) = encodeBytes as ++ encodeBytes bs := List.flatMap_append

@[simp] theorem encode_nil : encode [] = [] := rfl

@[simp] theorem encode_append (cs ds : List Char) : encode (cs ++ ds) = encode cs ++ encode ds := by
  simp [encode]

/-- The byte that three bytes stand for when they are `%` and two digits. -/
def escaped? (mark high low : UInt8) : Option UInt8 :=
  if mark = 0x25 then byteOfDigits? (Char.ofNat high.toNat) (Char.ofNat low.toNat) else none

/-- The bytes with every escape replaced by the byte it stands for. -/
def decode : List UInt8 → List UInt8
  | a :: b :: c :: rest =>
    match escaped? a b c with
    | some x => x :: decode rest
    | none => a :: decode (b :: c :: rest)
  | bs => bs

@[simp] theorem decode_nil : decode [] = [] := rfl

end Countersign.Text.Percent
