import Countersign.Proofs.Canonical.Query
import Countersign.Proofs.Signing.Stages
import Countersign.Proofs.Text.Alphabet
import Countersign.Proofs.Text.Percent

/-!
# What a canonical query determines

A canonical query is its tokens with `&` between them, and a token is a key and a value, both
encoded, around its only `=`. So it can be taken apart, and both sides decoded. What comes out is
the pairs with every `=` of a value escaped (`escapedPair`): a value that holds an escape of `=` to
begin with reads the same then as one that holds the `=`.

* `encodePair_injective` -- a token determines its escaped pair;
* `query_eq_iff` -- a canonical query determines the list of the escaped pairs, and nothing more;
* `unescapeEquals_escapeEquals` -- a value without escapes of `=` can be told from its escaped form;
* `perm_of_canonicalQuery_eq` -- so a canonical query determines the pairs up to their order where
  none can be taken for another;
* `canonicalQuery_not_injective` -- but not everywhere.
-/

namespace Countersign.Canonical

open Countersign.Text

/-! ## 1. Tokens -/

/-- The pair with every `=` of its value escaped. -/
def escapedPair (pair : String × String) : String × String :=
  (pair.1, String.ofList (escapeEquals pair.2.toList))

/-- The token of a pair that is escaped already. -/
def encodePair (pair : String × String) : List Char :=
  Percent.encode pair.1.toList ++ '=' :: Percent.encode pair.2.toList

theorem queryToken_eq (pair : String × String) :
    queryToken pair = encodePair (escapedPair pair) := by
  unfold queryToken encodePair escapedPair
  rw [List.append_assoc, String.toList_ofList]
  rfl

/-- A token is cut at its only `=`, and both sides are decoded. -/
theorem encodePair_injective : Function.Injective encodePair := by
  intro ⟨k, v⟩ ⟨l, w⟩ h
  have hsep : ∀ cs, '=' ∉ Percent.encode cs := not_mem_percentEncode (by decide) (by decide)
  obtain ⟨hkey, hvalue⟩ := eq_and_eq_of_append_cons (hsep _) (hsep _) h
  have hk : k = l := String.toList_inj.1 (Percent.encode_injective hkey)
  have hv : v = w := String.toList_inj.1 (Percent.encode_injective hvalue)
  rw [hk, hv]

/-- A token holds no `&`, and is not empty. -/
theorem isPiece_encodePair (pair : String × String) : IsPiece '&' (encodePair pair) := by
  have hsep : ∀ cs, '&' ∉ Percent.encode cs := not_mem_percentEncode (by decide) (by decide)
  constructor
  · intro h
    rcases List.mem_append.1 h with h | h
    · exact hsep _ h
    · rcases List.mem_cons.1 h with h | h
      · exact absurd h (by decide)
      · exact hsep _ h
  · exact List.append_ne_nil_of_right_ne_nil _ (List.cons_ne_nil _ _)

/-! ## 2. Queries -/

/-- The escaped pairs in the order in which they are written. -/
def writtenPairs (pairs : List (String × String)) : List (String × String) :=
  (sortedPairs pairs).map escapedPair

theorem toList_query (pairs : List (String × String)) :
    (query pairs).toList = ['&'].intercalate ((writtenPairs pairs).map encodePair) := by
  unfold query writtenPairs
  rw [String.toList_ofList, List.map_map]
  exact congrArg _ (List.map_congr_left fun pair _ => queryToken_eq pair)

/-- **A canonical query determines the escaped pairs in their order**, and nothing more. -/
theorem query_eq_iff {pairs pairs' : List (String × String)} :
    query pairs = query pairs' ↔ writtenPairs pairs = writtenPairs pairs' := by
  rw [← String.toList_inj, toList_query, toList_query]
  constructor
  · intro h
    have hpieces : ∀ ps : List (String × String), ∀ l ∈ ps.map encodePair, IsPiece '&' l := by
      intro ps l hl
      obtain ⟨pair, -, rfl⟩ := List.mem_map.1 hl
      exact isPiece_encodePair pair
    exact (List.map_inj_right fun _ _ h => encodePair_injective h).1
      (eq_of_intercalate_eq (hpieces _) (hpieces _) h)
  · exact fun h => congrArg _ (congrArg _ h)

theorem perm_writtenPairs (pairs : List (String × String)) :
    (writtenPairs pairs).Perm (pairs.map escapedPair) :=
  (perm_sortedPairs pairs).map escapedPair

/-! ## 3. Values without escapes of their own -/

/-- The text that stands for an `=` in a value. -/
def equalsEscape : List Char := ['%', '3', 'D']

/-- Every escape of `=` read as an `=`. -/
def unescapeEquals : List Char → List Char
  | '%' :: '3' :: 'D' :: cs => '=' :: unescapeEquals cs
  | c :: cs => c :: unescapeEquals cs
  | [] => []

/-- Escaping brings no character in that the second or third of an escape could be. -/
theorem cons_of_escapeEquals_eq_cons {c : Char} {cs ds : List Char} (hc : c ≠ '%')
    (h : escapeEquals cs = c :: ds) : ∃ es, cs = c :: es ∧ escapeEquals es = ds := by
  cases cs with
  | nil => cases h
  | cons d es =>
    have hcons : escapeEquals (d :: es) =
        (if d = '=' then equalsEscape else [d]) ++ escapeEquals es := rfl
    rw [hcons] at h
    split at h
    · exact absurd (List.cons.inj h).1.symm hc
    · obtain ⟨rfl, hes⟩ := List.cons.inj h
      exact ⟨es, rfl, hes⟩

theorem unescapeEquals_cons {c : Char} {cs : List Char}
    (h : ∀ ds, c :: cs ≠ equalsEscape ++ ds) :
    unescapeEquals (c :: cs) = c :: unescapeEquals cs := by
  rw [unescapeEquals]
  rintro ds rfl rfl
  exact h ds rfl

/-- A value without an escape of `=` is read back from its escaped form. -/
theorem unescapeEquals_escapeEquals : ∀ {cs : List Char}, ¬ equalsEscape <:+: cs →
    unescapeEquals (escapeEquals cs) = cs
  | [], _ => rfl
  | c :: cs, h => by
    have ih := unescapeEquals_escapeEquals fun hs => h (hs.trans (List.suffix_cons c cs).isInfix)
    by_cases hc : c = '='
    · subst hc
      exact congrArg ('=' :: ·) ih
    · have hcons : escapeEquals (c :: cs) = c :: escapeEquals cs := by
        show (if c = '=' then equalsEscape else [c]) ++ escapeEquals cs = _
        rw [if_neg hc]
        rfl
      rw [hcons, unescapeEquals_cons, ih]
      -- an escape that began at `c` would have been there before
      intro ds heq
      obtain ⟨rfl, h3⟩ := List.cons.inj heq
      obtain ⟨es, rfl, hD⟩ := cons_of_escapeEquals_eq_cons (by decide) h3
      obtain ⟨fs, rfl, -⟩ := cons_of_escapeEquals_eq_cons (by decide) hD
      exact h ⟨[], fs, rfl⟩

theorem escapeEquals_of_not_mem {cs : List Char} (h : '=' ∉ cs) : escapeEquals cs = cs := by
  induction cs with
  | nil => rfl
  | cons c cs ih =>
    obtain ⟨hc, hcs⟩ := not_or.1 (mt List.mem_cons.2 h)
    show (if c = '=' then equalsEscape else [c]) ++ escapeEquals cs = c :: cs
    rw [if_neg (Ne.symm hc), ih hcs]
    rfl

/-! ## 4. The pairs behind a query -/

/-- No pair of the one list has the escaped form of another pair in the other list. -/
def ToldApart (pairs pairs' : List (String × String)) : Prop :=
  ∀ pair ∈ pairs, ∀ pair' ∈ pairs', escapedPair pair = escapedPair pair' → pair = pair'

/-- No value of the pairs holds an escape of `=`. -/
def FreeOfEscapes (pairs : List (String × String)) : Prop :=
  ∀ pair ∈ pairs, ¬ equalsEscape <:+: pair.2.toList

/-- No value of the pairs holds an `=`. -/
def FreeOfEquals (pairs : List (String × String)) : Prop := ∀ pair ∈ pairs, '=' ∉ pair.2.toList

theorem toldApart_of {pairs pairs' : List (String × String)}
    (h : ∀ pair ∈ pairs, ∀ pair' ∈ pairs',
      escapeEquals pair.2.toList = escapeEquals pair'.2.toList → pair.2.toList = pair'.2.toList) :
    ToldApart pairs pairs' := by
  intro pair hp pair' hp' he
  obtain ⟨hkey, hvalue⟩ := Prod.mk.inj he
  exact Prod.ext hkey (String.toList_inj.1 (h pair hp pair' hp' (String.ofList_injective hvalue)))

variable {pairs pairs' : List (String × String)}

theorem FreeOfEscapes.toldApart (h : FreeOfEscapes pairs) (h' : FreeOfEscapes pairs') :
    ToldApart pairs pairs' := by
  refine toldApart_of fun pair hp pair' hp' he => ?_
  rw [← unescapeEquals_escapeEquals (h pair hp), he, unescapeEquals_escapeEquals (h' pair' hp')]

theorem FreeOfEquals.toldApart (h : FreeOfEquals pairs) (h' : FreeOfEquals pairs') :
    ToldApart pairs pairs' := by
  refine toldApart_of fun pair hp pair' hp' he => ?_
  rwa [escapeEquals_of_not_mem (h pair hp), escapeEquals_of_not_mem (h' pair' hp')] at he

theorem ToldApart.perm_of_query_eq (hd : ToldApart pairs pairs') (h : query pairs = query pairs') :
    pairs.Perm pairs' := by
  have hsorted : sortedPairs pairs = sortedPairs pairs' := by
    refine eq_of_map_eq (query_eq_iff.1 h) fun pair hp pair' hp' => ?_
    have hmem : pair ∈ pairs := (perm_sortedPairs pairs).mem_iff.1 hp
    have hmem' : pair' ∈ pairs' := (perm_sortedPairs pairs').mem_iff.1 hp'
    exact hd pair hmem pair' hmem'
  exact (perm_sortedPairs pairs).symm.trans (hsorted ▸ perm_sortedPairs pairs')

/-- **A canonical query determines the escaped pairs up to their order**, and the pairs themselves
    where no two of them have one escaped form: so where no value holds an escape of `=`, or none
    holds an `=`. -/
theorem perm_of_canonicalQuery_eq {r₁ r₂ : Request} (h : query r₁.query = query r₂.query) :
    (r₁.query.map escapedPair).Perm (r₂.query.map escapedPair) ∧
      (ToldApart r₁.query r₂.query → r₁.query.Perm r₂.query) ∧
      (FreeOfEscapes r₁.query ∧ FreeOfEscapes r₂.query ∨
        FreeOfEquals r₁.query ∧ FreeOfEquals r₂.query → r₁.query.Perm r₂.query) := by
  refine ⟨?_, fun hd => hd.perm_of_query_eq h, ?_⟩
  · exact (perm_writtenPairs r₁.query).symm.trans (query_eq_iff.1 h ▸ perm_writtenPairs r₂.query)
  · rintro (⟨h₁, h₂⟩ | ⟨h₁, h₂⟩)
    · exact (h₁.toldApart h₂).perm_of_query_eq h
    · exact (h₁.toldApart h₂).perm_of_query_eq h

/-- Two orders of pairs of which one has an `=` in its value. -/
theorem perm_of_canonicalQuery_eq_reordered :
    let r₁ : Request := { Trial.request [] with query := [("b", "x=y"), ("a", "2"), ("a", "1")] }
    let r₂ : Request := { Trial.request [] with query := [("a", "1"), ("a", "2"), ("b", "x=y")] }
    query r₁.query = query r₂.query ∧ r₁.query.Perm r₂.query := by
  intro r₁ r₂
  have h : query r₁.query = query r₂.query := query_eq_of_perm (by decide)
  have hfree : FreeOfEscapes r₁.query ∧ FreeOfEscapes r₂.query := by
    unfold FreeOfEscapes
    decide
  exact ⟨h, (perm_of_canonicalQuery_eq h).2.2 (Or.inl hfree)⟩

/-- An `=` and its escape are written alike, so queries that are not the same up to order may have
    one canonical form. -/
theorem canonicalQuery_not_injective :
    ¬ ∀ r₁ r₂ : Request, query r₁.query = query r₂.query → r₁.query.Perm r₂.query := by
  intro h
  have hsame : query [("a", "=")] = query [("a", "%3D")] := by decide +kernel
  have hperm := h { Trial.request [] with query := [("a", "=")] }
    { Trial.request [] with query := [("a", "%3D")] } hsame
  exact absurd hperm (by decide)

end Countersign.Canonical
