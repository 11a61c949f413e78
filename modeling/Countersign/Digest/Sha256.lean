/-!
# SHA-256

The 256-bit hash of the Secure Hash Standard, over lists of bytes.

* `Sha256.pad` -- the message with a one bit, zeros and its bit length, a whole number of blocks;
* `Sha256.State` -- eight words, so a digest has thirty-two bytes whatever is hashed
  (`length_hash`);
* `Sha256.compress` -- one block of sixteen words worked into the state, with the message schedule
  kept as a window of sixteen words that moves by one each round.
-/

namespace Countersign.Digest.Sha256

/-! ## 1. Words -/

/-- The word of four bytes, the highest first. -/
def word (a b c d : UInt8) : UInt32 :=
  a.toUInt32 <<< 24 ||| b.toUInt32 <<< 16 ||| c.toUInt32 <<< 8 ||| d.toUInt32

/-- The words of a byte string; up to three bytes at its end are dropped. -/
def wordsOf : List UInt8 → List UInt32
  | a :: b :: c :: d :: rest => word a b c d :: wordsOf rest
  | _ => []

/-- The four bytes of a word, the highest first. -/
def wordBytes (w : UInt32) : List UInt8 :=
  [(w >>> 24).toUInt8, (w >>> 16).toUInt8, (w >>> 8).toUInt8, w.toUInt8]

@[simp] theorem length_wordBytes (w : UInt32) : (wordBytes w).length = 4 := rfl

/-- `w` turned right by `n` places, for `n` from 1 to 31. -/
def rotateRight (w n : UInt32) : UInt32 := w >>> n ||| w <<< (32 - n)

/-! ## 2. Padding -/

/-- The eight bytes of a bit length, the highest first. -/
def lengthBytes (n : Nat) : List UInt8 :=
  [56, 48, 40, 32, 24, 16, 8, 0].map fun shift => UInt8.ofNat (n >>> shift)

/-- The message with a one bit, zeros up to eight bytes below a whole block, and its bit length. -/
def pad (message : List UInt8) : List UInt8 :=
  let n := message.length
  message ++ 0x80 :: List.replicate ((119 - n % 64) % 64) 0 ++ lengthBytes (8 * n)

/-! ## 3. The round function -/

/-- The eight chaining words. -/
structure State where
  a : UInt32
  b : UInt32
  c : UInt32
  d : UInt32
  e : UInt32
  f : UInt32
  g : UInt32
  h : UInt32
  deriving Repr, DecidableEq

/-- The state before the first block. -/
def initial : State :=
  ⟨0x6a09e667, 0xbb67ae85, 0x3c6ef372, 0xa54ff53a, 0x510e527f, 0x9b05688c, 0x1f83d9ab, 0x5be0cd19⟩

/-- The constants of the sixty-four rounds. -/
def roundConstants : List UInt32 := [
  0x428a2f98, 0x71374491, 0xb5c0fbcf, 0xe9b5dba5, 0x3956c25b, 0x59f111f1, 0x923f82a4, 0xab1c5ed5,
  0xd807aa98, 0x12835b01, 0x243185be, 0x550c7dc3, 0x72be5d74, 0x80deb1fe, 0x9bdc06a7, 0xc19bf174,
  0xe49b69c1, 0xefbe4786, 0x0fc19dc6, 0x240ca1cc, 0x2de92c6f, 0x4a7484aa, 0x5cb0a9dc, 0x76f988da,
  0x983e5152, 0xa831c66d, 0xb00327c8, 0xbf597fc7, 0xc6e00bf3, 0xd5a79147, 0x06ca6351, 0x14292967,
  0x27b70a85, 0x2e1b2138, 0x4d2c6dfc, 0x53380d13, 0x650a7354, 0x766a0abb, 0x81c2c92e, 0x92722c85,
  0xa2bfe8a1, 0xa81a664b, 0xc24b8b70, 0xc76c51a3, 0xd192e819, 0xd6990624, 0xf40e3585, 0x106aa070,
  0x19a4c116, 0x1e376c08, 0x2748774c, 0x34b0bcb5, 0x391c0cb3, 0x4ed8aa4a, 0x5b9cca4f, 0x682e6ff3,
  0x748f82ee, 0x78a5636f, 0x84c87814, 0x8cc70208, 0x90befffa, 0xa4506ceb, 0xbef9a3f7, 0xc67178f2]

/-- One round with its constant and its word of the schedule. -/
def State.round (s : State) (constant w : UInt32) : State :=
  let choice := (s.e &&& s.f) ^^^ (~~~ s.e &&& s.g)
  let majority := (s.a &&& s.b) ^^^ (s.a &&& s.c) ^^^ (s.b &&& s.c)
  let mixE := rotateRight s.e 6 ^^^ rotateRight s.e 11 ^^^ rotateRight s.e 25
  let mixA := rotateRight s.a 2 ^^^ rotateRight s.a 13 ^^^ rotateRight s.a 22
  let t := s.h + mixE + choice + constant + w
  ⟨t + mixA + majority, s.a, s.b, s.c, s.d + t, s.e, s.f, s.g⟩

/-- The word that follows sixteen words of the schedule: taken from the first, the second, the tenth
    and the fifteenth. -/
def nextWord (first second tenth fifteenth : UInt32) : UInt32 :=
  first + (rotateRight second 7 ^^^ rotateRight second 18 ^^^ second >>> 3) + tenth
    + (rotateRight fifteenth 17 ^^^ rotateRight fifteenth 19 ^^^ fifteenth >>> 10)

/-- The window of sixteen words moved on by one. -/
def slide : List UInt32 → List UInt32
  | w0 :: w1 :: w2 :: w3 :: w4 :: w5 :: w6 :: w7 :: w8 :: w9 :: w10 :: w11 :: w12 :: w13 :: w14
      :: rest =>
    w1 :: w2 :: w3 :: w4 :: w5 :: w6 :: w7 :: w8 :: w9 :: w10 :: w11 :: w12 :: w13 :: w14
      :: (rest ++ [nextWord w0 w1 w9 w14])
  | ws => ws

/-- The rounds with the given constants, the window standing at the first of them. -/
def rounds : List UInt32 → List UInt32 → State → State
  | [], _, s => s
  | k :: ks, window, s => rounds ks (slide window) (s.round k (window.headD 0))

/-- The words of two states added. -/
def State.add (s t : State) : State :=
  ⟨s.a + t.a, s.b + t.b, s.c + t.c, s.d + t.d, s.e + t.e, s.f + t.f, s.g + t.g, s.h + t.h⟩

/-- One block of sixteen words worked into the state. -/
def compress (s : State) (block : List UInt32) : State := s.add (rounds roundConstants block s)

/-- All blocks worked into the state, sixteen words each. -/
def absorb : State → List UInt32 → State
  | s, w0 :: w1 :: w2 :: w3 :: w4 :: w5 :: w6 :: w7 :: w8 :: w9 :: w10 :: w11 :: w12 :: w13 :: w14
      :: w15 :: rest =>
    absorb (compress s
      [w0, w1, w2, w3, w4, w5, w6, w7, w8, w9, w10, w11, w12, w13, w14, w15]) rest
  | s, _ => s

/-! ## 4. The hash -/

/-- The bytes of a state. -/
def State.bytes (s : State) : List UInt8 :=
  [s.a, s.b, s.c, s.d, s.e, s.f, s.g, s.h].flatMap wordBytes

/-- The digest of a message. -/
def hash (message : List UInt8) : List UInt8 := (absorb initial (wordsOf (pad message))).bytes

/-- **A digest has thirty-two bytes.** -/
@[simp] theorem length_hash (message : List UInt8) : (hash message).length = 32 := rfl

end Countersign.Digest.Sha256
