import Countersign.Text.Utf8

/-!
# Reading UTF-8 back

The machine of `Countersign.Text.Utf8` against the bytes that characters are written with.

* `pieces_encode_append` -- what was written from characters is read as those characters, whatever
  follows it;
* `flatMap_bytes_pieces` -- the pieces of any input hold its bytes, all of them and in order;
* `decode_bytes`, `decode_eq_ok_iff` -- so `decode` accepts exactly the bytes of a text, and gives
  that text;
* `bytes_injective`, `encode_injective` -- so no two texts are written alike;
* `IsText` -- the byte strings that are texts, as `decode` decides it.
-/

namespace Countersign.Text.Utf8

/-! ## 1. One leading byte -/

theorem toNat_ofNat_of_lt {n : Nat} (h : n < 256) : (UInt8.ofNat n).toNat = n := by
  rw [UInt8.toNat_ofNat', Nat.mod_eq_of_lt h]

theorem start_one {b : UInt8} (h : b.toNat < 0x80) :
    start b = .inl (.char (Char.ofNat b.toNat)) := by
  simp only [start, if_pos h]

theorem start_two {b : UInt8} (h : 0xC2 ≤ b.toNat ∧ b.toNat < 0xE0) :
    start b = .inr ⟨0, 0x80, 0xBF, b.toNat - 0xC0, [b]⟩ := by
  simp only [start]
  rw [if_neg (by omega), if_neg (by omega), if_pos (by omega)]

theorem start_three {b : UInt8} (h : 0xE0 ≤ b.toNat ∧ b.toNat < 0xF0) :
    start b = .inr ⟨1, if b.toNat = 0xE0 then 0xA0 else 0x80,
      if b.toNat = 0xED then 0x9F else 0xBF, b.toNat - 0xE0, [b]⟩ := by
  simp only [start]
  rw [if_neg (by omega), if_neg (by omega), if_neg (by omega), if_pos (by omega)]

theorem start_four {b : UInt8} (h : 0xF0 ≤ b.toNat ∧ b.toNat < 0xF5) :
    start b = .inr ⟨2, if b.toNat = 0xF0 then 0x90 else 0x80,
      if b.toNat = 0xF4 then 0x8F else 0xBF, b.toNat - 0xF0, [b]⟩ := by
  simp only [start]
  rw [if_neg (by omega), if_neg (by omega), if_neg (by omega), if_neg (by omega),
    if_pos (by omega)]

theorem start_none {b : UInt8}
    (h : (0x80 ≤ b.toNat ∧ b.toNat < 0xC2) ∨ 0xF5 ≤ b.toNat) : start b = .inl (.broken [b]) := by
  simp only [start]
  rw [if_neg (by omega)]
  by_cases h' : b.toNat < 0xC2
  · rw [if_pos h']
  · rw [if_neg h', if_neg (by omega), if_neg (by omega), if_neg (by omega)]

/-- A byte in the range of a sequence begun is read into it. -/
theorem piecesFrom_admitted {o : Begun} {b : UInt8} (h : o.low ≤ b.toNat ∧ b.toNat ≤ o.high)
    (bs : List UInt8) : piecesFrom (some o) (b :: bs) =
      match o.extend b with
      | .inl p => p :: piecesFrom none bs
      | .inr o' => piecesFrom (some o') bs := by
  have hb : o.admits b = true := by simp [Begun.admits, h]
  rw [piecesFrom]
  exact if_pos hb

/-- A byte outside it ends the stretch and is read from the start. -/
theorem piecesFrom_refused {o : Begun} {b : UInt8} (h : ¬ (o.low ≤ b.toNat ∧ b.toNat ≤ o.high))
    (bs : List UInt8) :
    piecesFrom (some o) (b :: bs) = .broken o.read.reverse :: piecesFrom none (b :: bs) := by
  have hb : ¬ o.admits b = true := by simpa [Begun.admits] using h
  simp only [piecesFrom, if_neg hb]

/-! ## 2. From characters to bytes and back -/

/-- The bytes of a character are read as that character. -/
theorem piecesFrom_utf8EncodeChar (c : Char) (rest : List UInt8) :
    piecesFrom none (String.utf8EncodeChar c ++ rest) = .char c :: piecesFrom none rest := by
  have hv : c.toNat < 0xD800 ∨ (0xDFFF < c.toNat ∧ c.toNat < 0x110000) := c.valid
  have hc : Char.ofNat c.toNat = c := Char.ofNat_toNat c
  generalize hn : c.toNat = n at hv hc
  have h0 : c.val.toNat = n := hn
  unfold String.utf8EncodeChar
  simp only [h0]
  split
  · have e1 := toNat_ofNat_of_lt (n := n) (by omega)
    rw [List.singleton_append, piecesFrom, start_one (by omega), e1, hc]
  · split
    · have e1 := toNat_ofNat_of_lt (n := n / 64 % 32 + 192) (by omega)
      have e2 := toNat_ofNat_of_lt (n := n % 64 + 128) (by omega)
      simp only [List.cons_append, List.nil_append]
      rw [piecesFrom, start_two (by omega)]
      simp only
      rw [piecesFrom_admitted (by simp only; omega)]
      simp only [Begun.extend, e1, e2]
      rw [show 64 * (n / 64 % 32 + 192 - 192) + (n % 64 + 128 - 128) = n by omega, hc]
    · split
      · have e1 := toNat_ofNat_of_lt (n := n / 4096 % 16 + 224) (by omega)
        have e2 := toNat_ofNat_of_lt (n := n / 64 % 64 + 128) (by omega)
        have e3 := toNat_ofNat_of_lt (n := n % 64 + 128) (by omega)
        simp only [List.cons_append, List.nil_append]
        rw [piecesFrom, start_three (by omega)]
        simp only
        rw [piecesFrom_admitted (by simp only [e1, e2]; split <;> split <;> omega)]
        simp only [Begun.extend]
        rw [piecesFrom_admitted (by simp only; omega)]
        simp only [Begun.extend, e1, e2, e3]
        rw [show 64 * (64 * (n / 4096 % 16 + 224 - 224) + (n / 64 % 64 + 128 - 128))
          + (n % 64 + 128 - 128) = n by omega, hc]
      · have e1 := toNat_ofNat_of_lt (n := n / 262144 % 8 + 240) (by omega)
        have e2 := toNat_ofNat_of_lt (n := n / 4096 % 64 + 128) (by omega)
        have e3 := toNat_ofNat_of_lt (n := n / 64 % 64 + 128) (by omega)
        have e4 := toNat_ofNat_of_lt (n := n % 64 + 128) (by omega)
        simp only [List.cons_append, List.nil_append]
        rw [piecesFrom, start_four (by omega)]
        simp only
        rw [piecesFrom_admitted (by simp only [e1, e2]; split <;> split <;> omega)]
        simp only [Begun.extend]
        rw [piecesFrom_admitted (by simp only; omega)]
        simp only [Begun.extend]
        rw [piecesFrom_admitted (by simp only; omega)]
        simp only [Begun.extend, e1, e2, e3, e4]
        rw [show 64 * (64 * (64 * (n / 262144 % 8 + 240 - 240) + (n / 4096 % 64 + 128 - 128))
          + (n / 64 % 64 + 128 - 128)) + (n % 64 + 128 - 128) = n by omega, hc]

/-- **What was written from characters is read as those characters**, whatever follows it. -/
theorem pieces_encode_append (cs : List Char) (rest : List UInt8) :
    pieces (encode cs ++ rest) = cs.map .char ++ pieces rest := by
  induction cs with
  | nil => rfl
  | cons c cs ih =>
    rw [encode_cons, List.append_assoc, pieces, piecesFrom_utf8EncodeChar]
    exact congrArg (Piece.char c :: ·) ih

/-! ## 3. From bytes to pieces and back -/

theorem val_ofNat {n : Nat} (h : n.isValidChar) : (Char.ofNat n).val.toNat = n := by
  rw [Char.ofNat, dif_pos h]
  rfl

theorem eq_ofNat {b : UInt8} {n : Nat} (h : n = b.toNat) : UInt8.ofNat n = b := by
  rw [h, UInt8.ofNat_toNat]

/-- The bytes of a character of two bytes. -/
theorem encode_two {a b : UInt8} (ha : 0xC2 ≤ a.toNat ∧ a.toNat < 0xE0)
    (hb : 0x80 ≤ b.toNat ∧ b.toNat ≤ 0xBF) :
    String.utf8EncodeChar (Char.ofNat (64 * (a.toNat - 0xC0) + (b.toNat - 0x80))) = [a, b] := by
  unfold String.utf8EncodeChar
  rw [val_ofNat (by unfold Nat.isValidChar; omega)]
  simp only
  rw [if_neg (by omega), if_pos (by omega), eq_ofNat (b := a) (by omega),
    eq_ofNat (b := b) (by omega)]

/-- The bytes of a character of three bytes. -/
theorem encode_three {a b c : UInt8} (ha : 0xE0 ≤ a.toNat ∧ a.toNat < 0xF0)
    (hb : (if a.toNat = 0xE0 then 0xA0 else 0x80) ≤ b.toNat ∧
      b.toNat ≤ if a.toNat = 0xED then 0x9F else 0xBF)
    (hc : 0x80 ≤ c.toNat ∧ c.toNat ≤ 0xBF) :
    String.utf8EncodeChar (Char.ofNat
      (64 * (64 * (a.toNat - 0xE0) + (b.toNat - 0x80)) + (c.toNat - 0x80))) = [a, b, c] := by
  have hlow : 0x80 ≤ b.toNat ∧ (a.toNat = 0xE0 → 0xA0 ≤ b.toNat) := by
    have := hb.1
    split at this <;> omega
  have hhigh : b.toNat ≤ 0xBF ∧ (a.toNat = 0xED → b.toNat ≤ 0x9F) := by
    have := hb.2
    split at this <;> omega
  clear hb
  unfold String.utf8EncodeChar
  rw [val_ofNat (by unfold Nat.isValidChar; omega)]
  simp only
  rw [if_neg (by omega), if_neg (by omega), if_pos (by omega), eq_ofNat (b := a) (by omega),
    eq_ofNat (b := b) (by omega), eq_ofNat (b := c) (by omega)]

/-- The bytes of a character of four bytes. -/
theorem encode_four {a b c d : UInt8} (ha : 0xF0 ≤ a.toNat ∧ a.toNat < 0xF5)
    (hb : (if a.toNat = 0xF0 then 0x90 else 0x80) ≤ b.toNat ∧
      b.toNat ≤ if a.toNat = 0xF4 then 0x8F else 0xBF)
    (hc : 0x80 ≤ c.toNat ∧ c.toNat ≤ 0xBF) (hd : 0x80 ≤ d.toNat ∧ d.toNat ≤ 0xBF) :
    String.utf8EncodeChar (Char.ofNat (64 * (64 * (64 * (a.toNat - 0xF0) + (b.toNat - 0x80))
      + (c.toNat - 0x80)) + (d.toNat - 0x80))) = [a, b, c, d] := by
  have hlow : 0x80 ≤ b.toNat ∧ (a.toNat = 0xF0 → 0x90 ≤ b.toNat) := by
    have := hb.1
    split at this <;> omega
  have hhigh : b.toNat ≤ 0xBF ∧ (a.toNat = 0xF4 → b.toNat ≤ 0x8F) := by
    have := hb.2
    split at this <;> omega
  clear hb
  unfold String.utf8EncodeChar
  rw [val_ofNat (by unfold Nat.isValidChar; omega)]
  simp only
  rw [if_neg (by omega), if_neg (by omega), if_neg (by omega), eq_ofNat (b := a) (by omega),
    eq_ofNat (b := b) (by omega), eq_ofNat (b := c) (by omega), eq_ofNat (b := d) (by omega)]

/-- The sequences that can have begun: the bits are those of the bytes read, and the next byte has
    the range that the bytes read leave it. -/
inductive Sound : Begun → Prop
  | two (a : UInt8) (ha : 0xC2 ≤ a.toNat ∧ a.toNat < 0xE0) :
      Sound ⟨0, 0x80, 0xBF, a.toNat - 0xC0, [a]⟩
  | three (a : UInt8) (ha : 0xE0 ≤ a.toNat ∧ a.toNat < 0xF0) :
      Sound ⟨1, if a.toNat = 0xE0 then 0xA0 else 0x80, if a.toNat = 0xED then 0x9F else 0xBF,
        a.toNat - 0xE0, [a]⟩
  | threeNext (a b : UInt8) (ha : 0xE0 ≤ a.toNat ∧ a.toNat < 0xF0)
      (hb : (if a.toNat = 0xE0 then 0xA0 else 0x80) ≤ b.toNat ∧
        b.toNat ≤ if a.toNat = 0xED then 0x9F else 0xBF) :
      Sound ⟨0, 0x80, 0xBF, 64 * (a.toNat - 0xE0) + (b.toNat - 0x80), [b, a]⟩
  | four (a : UInt8) (ha : 0xF0 ≤ a.toNat ∧ a.toNat < 0xF5) :
      Sound ⟨2, if a.toNat = 0xF0 then 0x90 else 0x80, if a.toNat = 0xF4 then 0x8F else 0xBF,
        a.toNat - 0xF0, [a]⟩
  | fourNext (a b : UInt8) (ha : 0xF0 ≤ a.toNat ∧ a.toNat < 0xF5)
      (hb : (if a.toNat = 0xF0 then 0x90 else 0x80) ≤ b.toNat ∧
        b.toNat ≤ if a.toNat = 0xF4 then 0x8F else 0xBF) :
      Sound ⟨1, 0x80, 0xBF, 64 * (a.toNat - 0xF0) + (b.toNat - 0x80), [b, a]⟩
  | fourLast (a b c : UInt8) (ha : 0xF0 ≤ a.toNat ∧ a.toNat < 0xF5)
      (hb : (if a.toNat = 0xF0 then 0x90 else 0x80) ≤ b.toNat ∧
        b.toNat ≤ if a.toNat = 0xF4 then 0x8F else 0xBF)
      (hc : 0x80 ≤ c.toNat ∧ c.toNat ≤ 0xBF) :
      Sound ⟨0, 0x80, 0xBF, 64 * (64 * (a.toNat - 0xF0) + (b.toNat - 0x80)) + (c.toNat - 0x80),
        [c, b, a]⟩

/-- A byte read from the start is the piece it makes, or begins a sequence that holds it. -/
theorem sound_start (b : UInt8) :
    match start b with
    | .inl p => p.bytes = [b]
    | .inr o => o.read = [b] ∧ Sound o := by
  rcases Nat.lt_or_ge b.toNat 0x80 with h | h
  · rw [start_one h]
    simp only [Piece.bytes]
    unfold String.utf8EncodeChar
    rw [val_ofNat (by unfold Nat.isValidChar; omega)]
    simp only
    rw [if_pos (by omega), eq_ofNat rfl]
  · rcases Nat.lt_or_ge b.toNat 0xC2 with h2 | h2
    · rw [start_none (.inl ⟨h, h2⟩)]
      rfl
    · rcases Nat.lt_or_ge b.toNat 0xE0 with h3 | h3
      · rw [start_two ⟨h2, h3⟩]
        exact ⟨rfl, .two b ⟨h2, h3⟩⟩
      · rcases Nat.lt_or_ge b.toNat 0xF0 with h4 | h4
        · rw [start_three ⟨h3, h4⟩]
          exact ⟨rfl, .three b ⟨h3, h4⟩⟩
        · rcases Nat.lt_or_ge b.toNat 0xF5 with h5 | h5
          · rw [start_four ⟨h4, h5⟩]
            exact ⟨rfl, .four b ⟨h4, h5⟩⟩
          · rw [start_none (.inr h5)]
            rfl

/-- A byte that continues a sequence ends it in the character of its bytes, or is held by it. -/
theorem sound_extend {o : Begun} (h : Sound o) {b : UInt8}
    (hb : o.low ≤ b.toNat ∧ b.toNat ≤ o.high) :
    match o.extend b with
    | .inl p => p.bytes = o.read.reverse ++ [b]
    | .inr o' => o'.read = b :: o.read ∧ Sound o' := by
  cases h with
  | two a ha =>
    simp only [Begun.extend, Piece.bytes]
    rw [encode_two ha hb]
    rfl
  | three a ha => exact ⟨rfl, .threeNext a b ha hb⟩
  | threeNext a c ha hc =>
    simp only [Begun.extend, Piece.bytes]
    rw [encode_three ha hc hb]
    rfl
  | four a ha => exact ⟨rfl, .fourNext a b ha hb⟩
  | fourNext a c ha hc => exact ⟨rfl, .fourLast a c b ha hc hb⟩
  | fourLast a c d ha hc hd =>
    simp only [Begun.extend, Piece.bytes]
    rw [encode_four ha hc hd hb]
    rfl

/-- Every byte is in the pieces, from the start and after a sequence begun. -/
theorem flatMap_bytes_piecesFrom : ∀ bs : List UInt8,
    (piecesFrom none bs).flatMap Piece.bytes = bs ∧
      ∀ o, Sound o → (piecesFrom (some o) bs).flatMap Piece.bytes = o.read.reverse ++ bs
  | [] => ⟨rfl, fun o _ => by simp [piecesFrom, Piece.bytes]⟩
  | b :: bs => by
    obtain ⟨ihn, ihs⟩ := flatMap_bytes_piecesFrom bs
    have hnone : (piecesFrom none (b :: bs)).flatMap Piece.bytes = b :: bs := by
      have hs := sound_start b
      rw [piecesFrom]
      cases hstart : start b with
      | inl p =>
        rw [hstart] at hs
        show p.bytes ++ (piecesFrom none bs).flatMap Piece.bytes = b :: bs
        rw [hs, ihn, List.singleton_append]
      | inr o =>
        rw [hstart] at hs
        show (piecesFrom (some o) bs).flatMap Piece.bytes = b :: bs
        rw [ihs o hs.2, hs.1]
        rfl
    refine ⟨hnone, fun o ho => ?_⟩
    by_cases hb : o.low ≤ b.toNat ∧ b.toNat ≤ o.high
    · have he := sound_extend ho hb
      rw [piecesFrom_admitted hb]
      split at he
      · rename_i p hp
        simp [he, ihn]
      · rename_i o' ho'
        simp [ihs o' he.2, he.1]
    · rw [piecesFrom_refused hb, List.flatMap_cons, hnone]
      rfl

/-- **The pieces of any input hold its bytes**, all of them and in order. -/
theorem flatMap_bytes_pieces (bs : List UInt8) : (pieces bs).flatMap Piece.bytes = bs :=
  (flatMap_bytes_piecesFrom bs).1

/-! ## 4. What is accepted -/

/-- Pieces that are read are all characters, and those are what is read. -/
theorem readPieces_eq_ok_iff : ∀ {ps : List Piece} {index : Nat} {cs : List Char},
    readPieces index ps = .ok cs ↔ ps = cs.map .char
  | [], index, cs => by
    cases cs <;> simp [readPieces]
  | .char c :: ps, index, cs => by
    have ih := @readPieces_eq_ok_iff ps (index + c.utf8Size)
    cases cs with
    | nil => cases h : readPieces (index + c.utf8Size) ps <;> simp [readPieces, h]
    | cons d ds =>
      rw [List.map_cons, List.cons.injEq, Piece.char.injEq, ← ih, readPieces]
      cases h : readPieces (index + c.utf8Size) ps <;> simp
  | .broken s :: ps, index, cs => by
    cases cs <;> simp [readPieces]
  | .cut s :: ps, index, cs => by
    cases cs <;> simp [readPieces]

/-- **A byte string is the text `s` exactly when it is what `s` is written with.** -/
theorem decode_eq_ok_iff {bs : List UInt8} {s : String} : decode bs = .ok s ↔ bs = bytes s := by
  have hread : decode bs = .ok s ↔ readPieces 0 (pieces bs) = .ok s.toList := by
    unfold decode
    cases readPieces 0 (pieces bs) with
    | error f => simp [Except.map]
    | ok cs =>
      simp only [Except.map, Except.ok.injEq]
      exact ⟨fun h => by rw [← h, String.toList_ofList], fun h => by rw [h, String.ofList_toList]⟩
  rw [hread, readPieces_eq_ok_iff]
  constructor
  · intro h
    have := flatMap_bytes_pieces bs
    rw [h, List.flatMap_map] at this
    exact this.symm
  · rintro rfl
    have := pieces_encode_append s.toList []
    simpa [bytes] using this

/-- A text that was written is read back. -/
@[simp] theorem decode_bytes (s : String) : decode (bytes s) = .ok s := decode_eq_ok_iff.2 rfl

@[simp] theorem bytes_ofList (cs : List Char) : bytes (String.ofList cs) = encode cs := by
  rw [bytes, String.toList_ofList]

theorem bytes_injective : Function.Injective bytes := by
  intro s t h
  have hs := decode_bytes s
  rw [h, decode_bytes] at hs
  exact (Except.ok.inj hs).symm

theorem encode_injective : Function.Injective encode := by
  intro cs ds h
  have hb : bytes (String.ofList cs) = bytes (String.ofList ds) := by
    rw [bytes_ofList, bytes_ofList, h]
  exact String.ofList_injective (bytes_injective hb)

/-- The bytes are those that some text is written with. -/
def IsText (bs : List UInt8) : Prop := ∃ s : String, bs = bytes s

theorem exists_decode_iff {bs : List UInt8} : (∃ s, decode bs = .ok s) ↔ IsText bs :=
  exists_congr fun _ => decode_eq_ok_iff

/-- What is asked of the text of the bytes is asked of what `decode` gives. -/
instance decidableExistsBytes {bs : List UInt8} {P : String → Prop} [DecidablePred P] :
    Decidable (∃ s, bs = bytes s ∧ P s) :=
  match h : decode bs with
  | .ok s => decidable_of_iff (P s)
    ⟨fun hp => ⟨s, decode_eq_ok_iff.1 h, hp⟩, fun ⟨t, ht, hp⟩ => by
      have he := (decode_eq_ok_iff.2 ht).symm.trans h
      cases he
      exact hp⟩
  | .error _ => isFalse fun ⟨t, ht, _⟩ => nomatch (decode_eq_ok_iff.2 ht).symm.trans h

instance (bs : List UInt8) : Decidable (IsText bs) :=
  decidable_of_iff (∃ s, bs = bytes s ∧ True) (exists_congr fun _ => and_iff_left trivial)

/-! ## 5. ASCII -/

/-- A character in ASCII is written as the byte of its number. -/
theorem utf8EncodeChar_of_ascii {c : Char} (h : c.toNat < 0x80) :
    String.utf8EncodeChar c = [UInt8.ofNat c.toNat] := by
  have hc : c.val.toNat ≤ 127 := Nat.le_of_lt_succ h
  unfold String.utf8EncodeChar
  exact if_pos hc

/-- Each byte of a character outside ASCII is outside it as well. -/
theorem le_of_mem_utf8EncodeChar {c : Char} (h : 0x80 ≤ c.toNat) {b : UInt8}
    (hb : b ∈ String.utf8EncodeChar c) : 0x80 ≤ b.toNat := by
  have hv : c.toNat < 0xD800 ∨ (0xDFFF < c.toNat ∧ c.toNat < 0x110000) := c.valid
  have h0 : c.val.toNat = c.toNat := rfl
  unfold String.utf8EncodeChar at hb
  simp only [h0] at hb
  rw [if_neg (by omega)] at hb
  split at hb
  · simp only [List.mem_cons, List.not_mem_nil, or_false] at hb
    rcases hb with rfl | rfl <;> rw [toNat_ofNat_of_lt (by omega)] <;> omega
  · split at hb
    · simp only [List.mem_cons, List.not_mem_nil, or_false] at hb
      rcases hb with rfl | rfl | rfl <;> rw [toNat_ofNat_of_lt (by omega)] <;> omega
    · simp only [List.mem_cons, List.not_mem_nil, or_false] at hb
      rcases hb with rfl | rfl | rfl | rfl <;> rw [toNat_ofNat_of_lt (by omega)] <;> omega

end Countersign.Text.Utf8
