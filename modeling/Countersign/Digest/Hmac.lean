import Countersign.Digest.Sha256
import Countersign.Text.Hex

/-!
# Keyed digests

A `Mac` is a keyed hash over SHA-256 with blocks of sixty-four bytes: any byte string is a key, a
longer one is hashed first. `hmacSha256` gives the bytes of a keyed hash, and `hexHmacSha256` writes
them as hexadecimal text, as `hexSha256` does with a digest without a key.
-/

namespace Countersign.Digest

open Countersign.Text

/-- The key as one block: hashed where it is longer than a block, and filled with zeros. -/
def keyBlock (key : List UInt8) : List UInt8 :=
  let short := if key.length ≤ 64 then key else Sha256.hash key
  short ++ List.replicate (64 - short.length) 0

/-- A keyed hash that takes in content: the key as one block, and the content so far. -/
structure Mac where
  block : List UInt8
  content : List UInt8

/-- The keyed hash of a key, without content. -/
def Mac.ofKey (key : List UInt8) : Mac := ⟨keyBlock key, []⟩

/-- More content, behind the content so far. -/
def Mac.update (mac : Mac) (more : List UInt8) : Mac :=
  { mac with content := mac.content ++ more }

/-- The bytes that the keyed hash comes to. -/
def Mac.finalize (mac : Mac) : List UInt8 :=
  Sha256.hash (mac.block.map (· ^^^ 0x5c) ++
    Sha256.hash (mac.block.map (· ^^^ 0x36) ++ mac.content))

/-- The digest of a message as hexadecimal text. -/
def hexSha256 (message : List UInt8) : String := hexText (Sha256.hash message)

/-- The digest of `message` under `key`. -/
def hmacSha256 (key message : List UInt8) : List UInt8 :=
  let mac := (Mac.ofKey key).update message
  mac.finalize

/-- The digest of `message` under `key` as hexadecimal text. -/
def hexHmacSha256 (key message : List UInt8) : String :=
  let mac := (Mac.ofKey key).update message
  hexText mac.finalize

@[simp] theorem length_hmacSha256 (key message : List UInt8) :
    (hmacSha256 key message).length = 32 := rfl

/-- The text of a keyed digest is that of its bytes. -/
theorem hexHmacSha256_eq (key message : List UInt8) :
    hexHmacSha256 key message = hexText (hmacSha256 key message) := rfl

@[simp] theorem toList_hexSha256 (message : List UInt8) :
    (hexSha256 message).toList = Hex.encode (Sha256.hash message) := toList_hexText _

@[simp] theorem toList_hexHmacSha256 (key message : List UInt8) :
    (hexHmacSha256 key message).toList = Hex.encode (hmacSha256 key message) := by
  rw [hexHmacSha256_eq, toList_hexText]

/-- A keyed digest is written with sixty-four digits. -/
theorem length_hexHmacSha256 (key message : List UInt8) :
    (hexHmacSha256 key message).toList.length = 64 := by
  rw [toList_hexHmacSha256, Hex.length_encode, length_hmacSha256]

end Countersign.Digest
