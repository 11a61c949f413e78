import Countersign.Http.Head
import Countersign.Text.Utf8.RoundTrip
import Countersign.Proofs.Text.Alphabet

/-!
# What the parts of a head are made of

The types of the parts of a head say which characters they were accepted with. Here this is read off
for each character of a part:

* `bounds_of_isTokenChar`, `FieldName.isNameChar_of_mem`, `Method.isTokenChar_of_mem`,
  `PathQuery.isPathChar_of_mem`;
* `Authority.isAuthorityChar_of_mem` -- a scan that runs through a text has seen authority
  characters alone -- and `Authority.mem_host`;
* `all_isValueByte_encode` -- a text may stand in a field value exactly when each of its characters
  may (`isValueChar`), so the text of a field value is made of these
  (`FieldValue.isValueChar_of_mem`), and a text of these is one of a field value (`IsValueText`,
  `FieldValue.exists_ofText?_iff`);
* `isValueText_iff` -- these are the characters that are no control characters, and the tab;
* `FieldValue.visibleText?_eq_some_iff` -- a value that shows in ASCII is read as the text it is.
-/

namespace Countersign.Http

open Countersign.Text

/-! ## 1. Names, methods, paths -/

/-- A token character is a visible one of ASCII. -/
theorem bounds_of_isTokenChar {c : Char} (h : isTokenChar c = true) :
    33 ≤ c.toNat ∧ c.toNat ≤ 126 := by
  have hmarks : tokenMarks.all (fun m => decide (33 ≤ m.toNat ∧ m.toNat ≤ 126)) = true := by
    decide
  unfold isTokenChar at h
  rcases Bool.or_eq_true_iff.1 h with hletter | hmark
  · have hbounds := bounds_of_isAlphanum hletter
    omega
  · exact of_decide_eq_true (List.all_eq_true.1 hmarks c (List.contains_iff_mem.1 hmark))

theorem FieldName.isNameChar_of_mem (n : FieldName) {c : Char} (h : c ∈ n.text.toList) :
    isNameChar c = true := by
  have hl := n.legal
  unfold isFieldName at hl
  rw [Bool.and_eq_true] at hl
  exact List.all_eq_true.1 hl.2 c h

theorem Method.isTokenChar_of_mem (m : Method) {c : Char} (h : c ∈ m.text.toList) :
    isTokenChar c = true := by
  have hl := m.legal
  unfold isMethod at hl
  rw [Bool.and_eq_true] at hl
  exact List.all_eq_true.1 hl.2 c h

theorem PathQuery.isPathChar_of_mem (q : PathQuery) {c : Char} (h : c ∈ q.path.toList) :
    isPathChar c = true :=
  List.all_eq_true.1 q.pathLegal c h

/-! ## 2. Authorities -/

namespace Authority

/-- A step of a scan accepts authority characters alone. -/
theorem isAuthorityChar_of_step {s s' : Scan} {c : Char} (h : s.step c = .ok s') :
    isAuthorityChar c = true := by
  unfold Scan.step at h
  split at h
  · cases h
  · rename_i hc
    simpa using hc

theorem isAuthorityChar_of_foldlM : ∀ {cs : List Char} {s s' : Scan},
    cs.foldlM Scan.step s = .ok s' → ∀ c ∈ cs, isAuthorityChar c = true
  | [], _, _, _ => fun _ hc => absurd hc List.not_mem_nil
  | d :: ds, s, s', h => by
    rw [List.foldlM_cons] at h
    cases hd : s.step d with
    | error f => rw [hd] at h; cases h
    | ok t =>
      rw [hd] at h
      intro c hc
      rcases List.mem_cons.1 hc with rfl | hc
      · exact isAuthorityChar_of_step hd
      · exact isAuthorityChar_of_foldlM h c hc

theorem isAuthorityChar_of_mem (a : Authority) {c : Char} (h : c ∈ a.text.toList) :
    isAuthorityChar c = true := by
  have hl := a.legal
  unfold isLegal check at hl
  cases hs : scan a.text.toList with
  | error f => simp [hs] at hl
  | ok s => exact isAuthorityChar_of_foldlM hs c h

theorem mem_of_mem_afterLast {sep c : Char} {cs : List Char} (h : c ∈ afterLast sep cs) :
    c ∈ cs := by
  unfold afterLast at h
  cases hl : (cs.splitOn sep).getLast? with
  | none => rw [List.getLastD_eq_getLast?, hl] at h; exact absurd h List.not_mem_nil
  | some piece =>
    rw [List.getLastD_eq_getLast?, hl] at h
    exact mem_of_mem_splitOn (List.mem_of_getLast? hl) h

theorem mem_hostOf {c : Char} : ∀ {cs : List Char}, c ∈ hostOf cs → c ∈ cs ∨ c = ']'
  | [], h => absurd h List.not_mem_nil
  | d :: ds, h => by
    unfold hostOf at h
    split at h
    · rename_i cs heq
      cases heq
      rw [List.cons_append, List.mem_cons, List.mem_append, List.mem_singleton] at h
      rcases h with h | h | h
      · exact Or.inl (h ▸ List.mem_cons_self)
      · exact Or.inl (List.mem_cons_of_mem _ (List.takeWhile_subset _ h))
      · exact Or.inr h
    · exact Or.inl (List.takeWhile_subset _ h)

/-- A host is made of authority characters. -/
theorem mem_host (a : Authority) {c : Char} (h : c ∈ a.host.toList) :
    isAuthorityChar c = true := by
  unfold host hostPort at h
  rw [String.toList_ofList] at h
  rcases mem_hostOf h with h | rfl
  · exact a.isAuthorityChar_of_mem (mem_of_mem_afterLast h)
  · decide

end Authority

/-! ## 3. Field values -/

/-- A character that may stand in a field value: a tab, or no ASCII control character. -/
def isValueChar (c : Char) : Bool := c == '\t' || (0x20 ≤ c.toNat && c.toNat != 0x7F)

theorem isValueByte_of_ge {b : UInt8} (h : 0x80 ≤ b.toNat) : isValueByte b = true := by
  have h1 : (0x20 : UInt8) ≤ b := by rw [UInt8.le_iff_toNat_le]; exact Nat.le_trans (by decide) h
  have h2 : b ≠ 0x7F := by rintro rfl; exact absurd h (by decide)
  simp [isValueByte, h1, h2]

theorem isValueChar_of_ge {c : Char} (h : 0x80 ≤ c.toNat) : isValueChar c = true := by
  have h1 : 0x20 ≤ c.toNat := Nat.le_trans (by decide) h
  have h2 : c.toNat ≠ 0x7F := by omega
  simp [isValueChar, h1, h2]

theorem isValueByte_ofNat : ∀ n : Nat, n < 0x80 →
    isValueByte (UInt8.ofNat n) = isValueChar (Char.ofNat n) := by decide

theorem all_isValueByte_utf8EncodeChar (c : Char) :
    (String.utf8EncodeChar c).all isValueByte = isValueChar c := by
  by_cases h : c.toNat < 0x80
  · rw [Utf8.utf8EncodeChar_of_ascii h, List.all_cons, List.all_nil, Bool.and_true,
      isValueByte_ofNat _ h, Char.ofNat_toNat]
  · have hwide : 0x80 ≤ c.toNat := Nat.le_of_not_lt h
    rw [isValueChar_of_ge hwide, List.all_eq_true]
    exact fun b hb => isValueByte_of_ge (Utf8.le_of_mem_utf8EncodeChar hwide hb)

/-- **A text may stand in a field value exactly when each of its characters may.** -/
theorem all_isValueByte_encode (cs : List Char) :
    (Utf8.encode cs).all isValueByte = cs.all isValueChar := by
  induction cs with
  | nil => rfl
  | cons c cs ih =>
    rw [Utf8.encode_cons, List.all_append, ih, all_isValueByte_utf8EncodeChar, List.all_cons]

/-- A class of characters may stand in a field value where its characters in ASCII may. -/
theorem isValueChar_of {p : Char → Bool} (hp : ∀ n : Nat, n < 0x80 → p (Char.ofNat n) = true →
    isValueChar (Char.ofNat n) = true) {c : Char} (h : p c = true) : isValueChar c = true := by
  by_cases hlt : c.toNat < 0x80
  · have hc : Char.ofNat c.toNat = c := Char.ofNat_toNat c
    rw [← hc] at h ⊢
    exact hp c.toNat hlt h
  · exact isValueChar_of_ge (Nat.le_of_not_lt hlt)

/-- The text of a field value is made of such characters. -/
theorem FieldValue.isValueChar_of_mem {v : FieldValue} {s : String} (h : v.text = .ok s) {c : Char}
    (hc : c ∈ s.toList) : isValueChar c = true := by
  have hb : v.bytes = Utf8.encode s.toList := Utf8.decode_eq_ok_iff.1 h
  have hl := v.legal
  rw [hb, all_isValueByte_encode] at hl
  exact List.all_eq_true.1 hl c hc

/-- Values with the same bytes, both shown or both not, are one value. -/
theorem FieldValue.eq_of_bytes_eq : ∀ {v w : FieldValue}, v.bytes = w.bytes →
    v.sensitive = w.sensitive → v = w
  | ⟨_, _, _⟩, ⟨_, _, _⟩, rfl, rfl => rfl

/-- The value of a text has the bytes of the text. -/
theorem FieldValue.bytes_of_ofText? {s : String} {v : FieldValue} (h : ofText? s = some v) :
    v.bytes = Utf8.bytes s := by
  unfold ofText? ofBytes? at h
  split at h
  · cases h
    rfl
  · cases h

/-- The text may be one of a field value. -/
def IsValueText (s : String) : Prop := ∀ c ∈ s.toList, isValueChar c = true

instance (s : String) : Decidable (IsValueText s) :=
  decidable_of_iff (s.toList.all isValueChar = true) List.all_eq_true

/-- A control character of ASCII. -/
def isControl (c : Char) : Bool := c.toNat < 0x20 || c.toNat == 0x7F

theorem isValueText_iff {s : String} :
    IsValueText s ↔ ∀ c ∈ s.toList, isControl c = true → c = '\t' := by
  have hchar : ∀ c : Char, isValueChar c = true ↔ (isControl c = true → c = '\t') := by
    intro c
    unfold isValueChar isControl
    simp only [Bool.or_eq_true, Bool.and_eq_true, beq_iff_eq, bne_iff_ne, decide_eq_true_iff]
    constructor
    · rintro (htab | ⟨hlow, hdel⟩) hcontrol
      · exact htab
      · omega
    · intro h
      by_cases htab : c = '\t'
      · exact Or.inl htab
      · have hn : ¬ (c.toNat < 0x20 ∨ c.toNat = 0x7F) := fun hcontrol => htab (h hcontrol)
        omega
  exact forall₂_congr fun c _ => hchar c

@[simp] theorem isValueText_append {s t : String} :
    IsValueText (s ++ t) ↔ IsValueText s ∧ IsValueText t := by
  unfold IsValueText
  rw [String.toList_append, List.forall_mem_append]

theorem FieldName.isValueText (n : FieldName) : IsValueText n.text :=
  fun _ hc => isValueChar_of (p := isNameChar) (by decide) (n.isNameChar_of_mem hc)

theorem FieldValue.exists_ofText?_iff {s : String} :
    (∃ v, ofText? s = some v) ↔ IsValueText s := by
  unfold IsValueText
  rw [← List.all_eq_true, ← all_isValueByte_encode]
  unfold ofText? ofBytes?
  constructor
  · intro h
    obtain ⟨v, h⟩ := h
    split at h
    · assumption
    · cases h
  · intro h
    exact ⟨_, dif_pos h⟩

/-! ## 4. Field values in ASCII -/

theorem encode_latinChars {bs : List UInt8} (h : ∀ b ∈ bs, b.toNat < 0x80) :
    Utf8.encode (latinChars bs) = bs := by
  induction bs with
  | nil => rfl
  | cons b bs ih =>
    have hb : b.toNat < 0x80 := h b List.mem_cons_self
    have hn : (Char.ofNat b.toNat).toNat = b.toNat :=
      Utf8.val_ofNat (Or.inl (Nat.lt_trans hb (by decide)))
    rw [latinChars_cons, Utf8.encode_cons, ih fun c hc => h c (List.mem_cons_of_mem _ hc),
      Utf8.utf8EncodeChar_of_ascii (by omega), hn, UInt8.ofNat_toNat]
    rfl

theorem FieldValue.lt_of_isVisibleByte {b : UInt8} (h : isVisibleByte b = true) :
    b.toNat < 0x80 := by
  unfold isVisibleByte at h
  rw [Bool.or_eq_true, Bool.and_eq_true, beq_iff_eq, decide_eq_true_iff, decide_eq_true_iff] at h
  rcases h with rfl | ⟨-, h⟩
  · decide
  · exact Nat.lt_of_le_of_lt (UInt8.le_iff_toNat_le.1 h) (by decide)

/-- A value that shows in ASCII is read as the text with these bytes. -/
theorem FieldValue.visibleText?_eq_some_iff {v : FieldValue} {s : String} :
    v.visibleText? = some s ↔ v.bytes.all isVisibleByte = true ∧ v.bytes = Utf8.bytes s := by
  have hbytes : v.bytes.all isVisibleByte = true →
      Utf8.bytes (String.ofList (latinChars v.bytes)) = v.bytes := by
    intro h
    rw [Utf8.bytes_ofList]
    exact encode_latinChars fun b hb => lt_of_isVisibleByte (List.all_eq_true.1 h b hb)
  unfold visibleText?
  constructor
  · intro h
    split at h
    · rename_i hall
      rw [← Option.some.inj h]
      exact ⟨hall, (hbytes hall).symm⟩
    · cases h
  · rintro ⟨hall, hs⟩
    rw [if_pos hall]
    exact congrArg some (Utf8.bytes_injective ((hbytes hall).trans hs))

end Countersign.Http
