import Countersign.Http.Authority

/-!
# The port of an authority

An authority names its host behind the last `@`, and its port behind that, if it names one. The port
is looked for behind the last colon of the whole text, which need not be the colon of a port.

* `afterLast_spec`, `afterLast_append` -- what lies behind the last separator of a text;
* `portNumber?_eq_some_iff` -- the texts that a port number is read from;
* `HasPort` -- what an authority names behind its host: nothing, or a number;
* `host_cases` -- a host holds no colon, or ends with a bracket;
* `port?_of_hasPort` -- the port that an authority names is the one that is found: neither user
  information nor a host in brackets is taken for one.
-/

namespace Countersign.Http

/-! ## 1. Behind the last separator -/

namespace Authority

theorem afterLast_append_cons (sep : Char) (xs ys : List Char) :
    afterLast sep (xs ++ sep :: ys) = afterLast sep ys := by
  unfold afterLast
  rw [List.splitOn_append_cons_self, List.getLastD_eq_getLast?, List.getLastD_eq_getLast?,
    List.getLast?_append]
  cases hlast : (ys.splitOn sep).getLast? with
  | none => exact absurd (List.getLast?_eq_none_iff.1 hlast) (List.splitOn_ne_nil sep ys)
  | some piece => rfl

theorem afterLast_of_not_mem {sep : Char} {cs : List Char} (h : sep ∉ cs) :
    afterLast sep cs = cs := by
  unfold afterLast
  rw [List.splitOn_eq_singleton h]
  rfl

/-- No separator lies behind the last one, and what lies before is nothing, or ends with it. -/
theorem afterLast_spec (sep : Char) (cs : List Char) : sep ∉ afterLast sep cs ∧
    (cs = afterLast sep cs ∨ ∃ before, cs = before ++ sep :: afterLast sep cs) := by
  by_cases h : sep ∈ cs
  · obtain ⟨xs, ys, rfl⟩ := List.append_of_mem h
    obtain ⟨hno, hys⟩ := afterLast_spec sep ys
    rw [afterLast_append_cons]
    refine ⟨hno, Or.inr ?_⟩
    rcases hys with hys | ⟨before, hys⟩
    · exact ⟨xs, by rw [← hys]⟩
    · refine ⟨xs ++ sep :: before, ?_⟩
      rw [List.append_assoc, List.cons_append, ← hys]
  · rw [afterLast_of_not_mem h]
    exact ⟨h, Or.inl rfl⟩
termination_by cs.length
decreasing_by
  rename_i heq
  rw [heq, List.length_append, List.length_cons]
  omega

/-- What is added without a separator lies behind the last one. -/
theorem afterLast_append {sep : Char} (xs : List Char) {ys : List Char} (h : sep ∉ ys) :
    afterLast sep (xs ++ ys) = afterLast sep xs ++ ys := by
  obtain ⟨hno, hxs⟩ := afterLast_spec sep xs
  have hnone : sep ∉ afterLast sep xs ++ ys := fun hm => (List.mem_append.1 hm).elim hno h
  rcases hxs with hxs | ⟨before, hxs⟩
  · rw [← hxs] at hnone
    rw [← hxs, afterLast_of_not_mem hnone]
  · have hsplit : xs ++ ys = before ++ sep :: (afterLast sep xs ++ ys) := by
      rw [← List.cons_append, ← List.append_assoc, ← hxs]
    rw [hsplit, afterLast_append_cons, afterLast_of_not_mem hnone]

/-! ## 2. The number of a port -/

/-- The text is a number up to 65535 in decimal digits; zeros, and one plus sign, may stand in front
    of it. -/
def IsPortText (text : List Char) (n : Nat) : Prop :=
  n ≤ 65535 ∧ ∃ digits, (text = digits ∨ text = '+' :: digits) ∧ digits ≠ [] ∧
    (∀ c ∈ digits, c.isDigit = true) ∧ Nat.ofDigitChars 10 digits 0 = n

theorem IsPortText.mem {text : List Char} {n : Nat} (h : IsPortText text n) {c : Char}
    (hc : c ∈ text) : c.isDigit = true ∨ c = '+' := by
  obtain ⟨-, digits, htext, -, hdigit, -⟩ := h
  rcases htext with rfl | rfl
  · exact Or.inl (hdigit c hc)
  · rcases List.mem_cons.1 hc with rfl | hc
    · exact Or.inr rfl
    · exact Or.inl (hdigit c hc)

/-- The digits of a text that a port number is read from. -/
def portDigits : List Char → List Char
  | '+' :: digits => digits
  | digits => digits

theorem portDigits_of_digits {digits : List Char} (h : ∀ c ∈ digits, c.isDigit = true) :
    portDigits digits = digits := by
  unfold portDigits
  split
  · exact absurd (h '+' List.mem_cons_self) (by decide)
  · rfl

theorem eq_portDigits_or (text : List Char) :
    text = portDigits text ∨ text = '+' :: portDigits text := by
  unfold portDigits
  split
  · exact Or.inr rfl
  · exact Or.inl rfl

theorem portNumber?_eq (text : List Char) : portNumber? text =
    if portDigits text = [] ∨ (portDigits text).all Char.isDigit = false then none
    else if Nat.ofDigitChars 10 (portDigits text) 0 ≤ 65535 then
      some (Nat.ofDigitChars 10 (portDigits text) 0) else none := by
  have hcond : ((portDigits text).isEmpty || !(portDigits text).all Char.isDigit) = true ↔
      portDigits text = [] ∨ (portDigits text).all Char.isDigit = false := by
    rw [Bool.or_eq_true, List.isEmpty_iff, Bool.not_eq_true']
  simp only [← hcond]
  rfl

/-- **A port number is read from exactly such a text.** -/
theorem portNumber?_eq_some_iff {text : List Char} {n : Nat} :
    portNumber? text = some n ↔ IsPortText text n := by
  rw [portNumber?_eq]
  constructor
  · intro h
    split at h
    · cases h
    · rename_i hdigits
      obtain ⟨hne, hdigit⟩ := not_or.1 hdigits
      split at h
      · rename_i hle
        cases h
        exact ⟨hle, portDigits text, eq_portDigits_or text, hne,
          List.all_eq_true.1 (Bool.of_not_eq_false hdigit), rfl⟩
      · cases h
  · intro ⟨hle, digits, htext, hne, hdigit, hvalue⟩
    have heq : portDigits text = digits := by
      rcases htext with rfl | rfl
      · exact portDigits_of_digits hdigit
      · rfl
    have hall : digits.all Char.isDigit = true := List.all_eq_true.2 hdigit
    rw [heq, if_neg (not_or.2 ⟨hne, by simp [hall]⟩), hvalue, if_pos hle]

/-! ## 3. The port of an authority -/

/-- What the authority names behind its host: nothing, be it with a colon, or the number of a
    port. -/
def HasPort (a : Authority) : Option Nat → Prop
  | none => a.hostPort = a.host.toList ∨ a.hostPort = a.host.toList ++ [':']
  | some n => ∃ text, a.hostPort = a.host.toList ++ ':' :: text ∧ IsPortText text n

/-- A host holds no colon, or ends with its bracket. -/
theorem hostOf_cases (cs : List Char) : ':' ∉ hostOf cs ∨ (hostOf cs).getLast? = some ']' := by
  unfold hostOf
  split
  · exact Or.inr (List.getLast?_concat ..)
  · refine Or.inl fun h => ?_
    exact absurd (List.all_eq_true.1 List.all_takeWhile _ h) (by decide)

theorem host_cases (a : Authority) : ':' ∉ a.host.toList ∨ a.host.toList.getLast? = some ']' := by
  unfold host
  rw [String.toList_ofList]
  exact hostOf_cases _

theorem portNumber?_eq_none {text : List Char} {c : Char} (hc : c ∈ text)
    (hdigit : c.isDigit = false) (hplus : c ≠ '+') : portNumber? text = none := by
  rw [Option.eq_none_iff_forall_ne_some]
  intro n hn
  rcases (portNumber?_eq_some_iff.1 hn).mem hc with h | h
  · rw [hdigit] at h
    cases h
  · exact hplus h

theorem text_cases (a : Authority) :
    a.text.toList = a.hostPort ∨ ∃ before, a.text.toList = before ++ '@' :: a.hostPort :=
  (afterLast_spec '@' a.text.toList).2

/-- What follows a host and a colon is the text of the port. -/
theorem port?_of_append {a : Authority} {text : List Char}
    (h : a.hostPort = a.host.toList ++ ':' :: text) (hno : ':' ∉ text) :
    a.port? = portNumber? text := by
  obtain ⟨front, hfront⟩ : ∃ front, a.text.toList = front ++ ':' :: text := by
    rcases a.text_cases with htext | ⟨before, htext⟩
    · exact ⟨a.host.toList, htext.trans h⟩
    · exact ⟨before ++ '@' :: a.host.toList, by rw [htext, h]; simp⟩
  unfold port?
  rw [hfront, afterLast_append_cons, afterLast_of_not_mem hno, if_pos (by simp)]

/-- A host alone has no port, whatever colons stand in its brackets or before it. -/
theorem port?_of_eq_host {a : Authority} (h : a.hostPort = a.host.toList) : a.port? = none := by
  unfold port?
  split
  · rename_i hcolon
    rw [List.contains_iff_mem] at hcolon
    rcases a.host_cases with hno | hlast
    · -- the last colon is one of the user information, so an `@` lies behind it
      have hno : ':' ∉ '@' :: a.hostPort := by simpa [h] using hno
      rcases a.text_cases with htext | ⟨before, htext⟩
      · exact absurd (List.mem_cons_of_mem _ (htext ▸ hcolon)) hno
      · rw [htext, afterLast_append before hno]
        exact portNumber?_eq_none (c := '@') (by simp) (by decide) (by decide)
    · -- the closing bracket lies behind the last colon
      obtain ⟨inner, hinner⟩ : ∃ inner, a.text.toList = inner ++ [']'] := by
        obtain ⟨front, hfront⟩ := List.getLast?_eq_some_iff.1 hlast
        rcases a.text_cases with htext | ⟨before, htext⟩
        · exact ⟨front, by rw [htext, h, hfront]⟩
        · exact ⟨before ++ '@' :: front, by rw [htext, h, hfront]; simp⟩
      rw [hinner, afterLast_append inner (by decide)]
      exact portNumber?_eq_none (c := ']') (by simp) (by decide) (by decide)
  · rfl

/-- **The port that an authority names is the one that is found behind its last colon.** -/
theorem port?_of_hasPort {a : Authority} {p : Option Nat} (h : a.HasPort p) : a.port? = p := by
  cases p with
  | none =>
    rcases h with h | h
    · exact port?_of_eq_host h
    · exact port?_of_append h List.not_mem_nil
  | some n =>
    obtain ⟨text, h, hport⟩ := h
    have hno : ':' ∉ text := fun hm => (hport.mem hm).elim (fun hd => absurd hd (by decide))
      fun hc => absurd hc (by decide)
    rw [port?_of_append h hno]
    exact portNumber?_eq_some_iff.2 hport

end Authority

end Countersign.Http
