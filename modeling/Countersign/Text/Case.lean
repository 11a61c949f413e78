import Countersign.Text.Blank
import Countersign.Text.CaseTable

/-!
# Lower and upper case

`lowercase` and `uppercase` map a whole text by the full Unicode rules, so one character may become
several. ASCII is mapped by arithmetic and never looks at a table. One rule depends on the
neighbours: a capital sigma at the end of a word becomes the final sigma (`endsWord`).
-/

namespace Countersign.Text

/-! ## 1. One character -/

/-- The image of `n` in the first run that covers it, else `n` itself. -/
def mapRuns (runs : List CaseRun) (n : Nat) : Nat :=
  match runs.find? (·.covers n) with
  | some r => r.image n
  | none => n

/-- The image of a character outside ASCII: a special one first, else by the runs. -/
def mapWide (specials : List (Nat × List Nat)) (runs : List CaseRun) (c : Char) : List Char :=
  match specials.lookup c.toNat with
  | some images => images.map Char.ofNat
  | none => [Char.ofNat (mapRuns runs c.toNat)]

/-- The lower case of one character, whatever stands around it. -/
def lowerChar (c : Char) : List Char :=
  if c.toNat < 128 then [c.toLower] else mapWide lowerSpecials lowerRuns c

/-- The upper case of one character. -/
def upperChar (c : Char) : List Char :=
  if c.toNat < 128 then [c.toUpper] else mapWide upperSpecials upperRuns c

theorem lowerChar_of_ascii {c : Char} (h : c.toNat < 128) : lowerChar c = [c.toLower] := if_pos h

theorem upperChar_of_ascii {c : Char} (h : c.toNat < 128) : upperChar c = [c.toUpper] := if_pos h

/-! ## 2. The end of a word -/

/-- The character has a case. -/
def isCased (c : Char) : Bool := inRanges casedRanges c.toNat

/-- The character is passed over when the end of a word is sought. -/
def isCaseIgnorable (c : Char) : Bool := inRanges caseIgnorableRanges c.toNat

/-- The first character that is not passed over has a case. -/
def startsCased (cs : List Char) : Bool :=
  match cs.dropWhile isCaseIgnorable with
  | c :: _ => isCased c
  | [] => false

/-- A letter between `before` (read backwards) and `after` is the last one of a word of more than
    one letter. -/
def endsWord (before after : List Char) : Bool := startsCased before && !startsCased after

/-! ## 3. A whole text -/

/-- Lower case of a text that follows `before`, which is given backwards. -/
def lowerAfter (before : List Char) : List Char → List Char
  | [] => []
  | c :: after =>
    (if c = 'Σ' then [if endsWord before after then 'ς' else 'σ'] else lowerChar c)
      ++ lowerAfter (c :: before) after

/-- The lower case of a text. -/
def lowercase (cs : List Char) : List Char := lowerAfter [] cs

/-- The upper case of a text. -/
def uppercase (cs : List Char) : List Char := cs.flatMap upperChar

@[simp] theorem lowercase_nil : lowercase [] = [] := rfl

@[simp] theorem uppercase_nil : uppercase [] = [] := rfl

@[simp] theorem uppercase_cons (c : Char) (cs : List Char) :
    uppercase (c :: cs) = upperChar c ++ uppercase cs := rfl

@[simp] theorem uppercase_append (cs ds : List Char) :
    uppercase (cs ++ ds) = uppercase cs ++ uppercase ds := List.flatMap_append

/-- In ASCII a text is lowered character by character. -/
theorem lowerAfter_of_ascii : ∀ (before cs : List Char), (∀ c ∈ cs, c.toNat < 128) →
    lowerAfter before cs = cs.map Char.toLower
  | _, [], _ => rfl
  | before, c :: cs, h => by
    have hc : c.toNat < 128 := h c List.mem_cons_self
    have hs : c ≠ 'Σ' := by
      rintro rfl
      exact absurd hc (by decide)
    rw [lowerAfter, if_neg hs, lowerChar_of_ascii hc, lowerAfter_of_ascii (c :: before) cs
      (fun d hd => h d (List.mem_cons_of_mem _ hd))]
    rfl

theorem lowercase_of_ascii {cs : List Char} (h : ∀ c ∈ cs, c.toNat < 128) :
    lowercase cs = cs.map Char.toLower := lowerAfter_of_ascii [] cs h

/-- In ASCII a text is raised character by character. -/
theorem uppercase_of_ascii : ∀ {cs : List Char}, (∀ c ∈ cs, c.toNat < 128) →
    uppercase cs = cs.map Char.toUpper
  | [], _ => rfl
  | c :: cs, h => by
    rw [uppercase_cons, upperChar_of_ascii (h c List.mem_cons_self),
      uppercase_of_ascii (fun d hd => h d (List.mem_cons_of_mem _ hd))]
    rfl

end Countersign.Text
