/-!
# UTF-8

Reading bytes as text, with the place of the first fault or with a mark for each one.

* `Utf8.pieces` cuts any bytes into characters and faulty stretches: a stretch is the longest
  beginning of a sequence that the next byte does not continue (`broken`), or that the end of the
  input leaves unfinished (`cut`). One machine over the well-formed sequences of the standard does
  it: after a leading byte, `Begun` holds the range the next byte must lie in.
* `Utf8.decode` accepts text without faulty stretches and otherwise says where the first one lies;
* `Utf8.decodeLossy` puts U+FFFD for each stretch;
* `Utf8.bytes` writes a text back.
-/

namespace Countersign.Text.Utf8

/-! ## 1. Writing -/

/-- The UTF-8 bytes of a list of characters. -/
def encode (cs : List Char) : List UInt8 := cs.flatMap String.utf8EncodeChar

/-- The UTF-8 bytes of a text. -/
def bytes (s : String) : List UInt8 := encode s.toList

@[simp] theorem encode_nil : encode [] = [] := rfl

@[simp] theorem encode_cons (c : Char) (cs : List Char) :
    encode (c :: cs) = String.utf8EncodeChar c ++ encode cs := rfl

@[simp] theorem encode_append (cs ds : List Char) : encode (cs ++ ds) = encode cs ++ encode ds :=
  List.flatMap_append

/-! ## 2. The machine over the sequences -/

/-- A sequence that has begun and still owes bytes. -/
structure Begun where
  /-- The bytes owed after the next one. -/
  owed : Nat
  /-- The least next byte. -/
  low : Nat
  /-- The greatest next byte. -/
  high : Nat
  /-- The bits of the character read so far. -/
  bits : Nat
  /-- The bytes read so far, the last one first. -/
  read : List UInt8

/-- A stretch of the input. -/
inductive Piece
  /-- A whole sequence. -/
  | char (c : Char)
  /-- The beginning of a sequence that the next byte does not continue, or a byte that begins
      none. -/
  | broken (stretch : List UInt8)
  /-- The beginning of a sequence that the input ends in. -/
  | cut (stretch : List UInt8)
  deriving Repr, DecidableEq

/-- The bytes of a piece. -/
def Piece.bytes : Piece → List UInt8
  | .char c => String.utf8EncodeChar c
  | .broken stretch => stretch
  | .cut stretch => stretch

/-- What a byte does at the start of a sequence: it is a piece of its own, or it begins one. After
    four leading bytes the next one has a narrower range, so that no character has two sequences and
    no surrogate has any. -/
def start (b : UInt8) : Piece ⊕ Begun :=
  let n := b.toNat
  if n < 0x80 then .inl (.char (Char.ofNat n))
  else if n < 0xC2 then .inl (.broken [b])
  else if n < 0xE0 then .inr ⟨0, 0x80, 0xBF, n - 0xC0, [b]⟩
  else if n < 0xF0 then
    .inr ⟨1, if n = 0xE0 then 0xA0 else 0x80, if n = 0xED then 0x9F else 0xBF, n - 0xE0, [b]⟩
  else if n < 0xF5 then
    .inr ⟨2, if n = 0xF0 then 0x90 else 0x80, if n = 0xF4 then 0x8F else 0xBF, n - 0xF0, [b]⟩
  else .inl (.broken [b])

/-- The byte continues the sequence. -/
def Begun.admits (o : Begun) (b : UInt8) : Bool := o.low ≤ b.toNat && b.toNat ≤ o.high

/-- The sequence with a byte that continues it: whole, or begun further. -/
def Begun.extend (o : Begun) (b : UInt8) : Piece ⊕ Begun :=
  let bits := 64 * o.bits + (b.toNat - 0x80)
  match o.owed with
  | 0 => .inl (.char (Char.ofNat bits))
  | owed + 1 => .inr ⟨owed, 0x80, 0xBF, bits, b :: o.read⟩

/-- The pieces of the input after a sequence begun, or at the start of one. -/
def piecesFrom : Option Begun → List UInt8 → List Piece
  | none, [] => []
  | some o, [] => [.cut o.read.reverse]
  | none, b :: bs =>
    match start b with
    | .inl p => p :: piecesFrom none bs
    | .inr o => piecesFrom (some o) bs
  | some o, b :: bs =>
    if o.admits b then
      match o.extend b with
      | .inl p => p :: piecesFrom none bs
      | .inr o' => piecesFrom (some o') bs
    else
      .broken o.read.reverse ::
        match start b with
        | .inl p => p :: piecesFrom none bs
        | .inr o' => piecesFrom (some o') bs

/-- The characters and the faulty stretches of the input, in order. -/
def pieces (bs : List UInt8) : List Piece := piecesFrom none bs

@[simp] theorem pieces_nil : pieces [] = [] := rfl

/-! ## 3. Reading -/

/-- Why bytes are no text. -/
inductive Fault
  /-- `length` bytes at `index` begin no sequence that the next byte continues. -/
  | invalid (length index : Nat)
  /-- The input ends in the sequence that begins at `index`. -/
  | incomplete (index : Nat)
  deriving Repr, DecidableEq

/-- The wording of a fault. -/
def Fault.message : Fault → String
  | .invalid length index =>
    "invalid utf-8 sequence of " ++ toString length ++ " bytes from index " ++ toString index
  | .incomplete index => "incomplete utf-8 byte sequence from index " ++ toString index

/-- The characters of pieces that begin at `index`, or the first fault among them. -/
def readPieces (index : Nat) : List Piece → Except Fault (List Char)
  | [] => .ok []
  | .char c :: ps =>
    match readPieces (index + c.utf8Size) ps with
    | .ok cs => .ok (c :: cs)
    | .error f => .error f
  | .broken stretch :: _ => .error (.invalid stretch.length index)
  | .cut _ :: _ => .error (.incomplete index)

/-- The text of the bytes, or the first fault in them. -/
def decode (bs : List UInt8) : Except Fault String :=
  (readPieces 0 (pieces bs)).map String.ofList

/-- The character that a piece reads as when faults are only marked. -/
def Piece.mark : Piece → Char
  | .char c => c
  | .broken _ => '\uFFFD'
  | .cut _ => '\uFFFD'

/-- The text of the bytes, with U+FFFD for every faulty stretch. -/
def decodeLossy (bs : List UInt8) : String := String.ofList ((pieces bs).map Piece.mark)

end Countersign.Text.Utf8
