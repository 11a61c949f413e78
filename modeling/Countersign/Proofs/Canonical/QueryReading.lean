import Countersign.Proofs.Canonical.QueryTokens

/-!
# Reading a canonical query back

A canonical query can be read: it is cut at its `&`s, each token at its only `=`, and both sides are
decoded once (`readQuery`). What is read are the pairs of the request, each as often as it came, in
the order of the keys and of the values under one key. Only the `=`s of the values are not read
back: the escape that they were given before the values were encoded stands in their place.

* `escapeEquals_eq_intercalate` -- this escape stands between the pieces that the `=`s leave;
* `readQuery_query` -- reading undoes writing, whatever the pairs are;
* `query_eq_empty_iff`, `mem_query` -- when a query is empty, and what it is written with;
* `query_reads_back` -- all of it, with the order and the number of the pairs.
-/

namespace Countersign.Canonical

open Countersign.Text

/-! ## 1. Values without `=` -/

/-- Escaping every `=` puts the escape between the pieces that they leave. -/
theorem escapeEquals_eq_intercalate (cs : List Char) :
    escapeEquals cs = equalsEscape.intercalate (cs.splitOn '=') := by
  have hpieces : (cs.splitOn '=').map escapeEquals = cs.splitOn '=' := by
    have hkept : ∀ piece ∈ cs.splitOn '=', escapeEquals piece = id piece := by
      intro piece hp
      exact escapeEquals_of_not_mem (not_mem_of_mem_splitOn hp)
    rw [List.map_congr_left hkept, List.map_id]
  calc escapeEquals cs
      = escapeEquals (['='].intercalate (cs.splitOn '=')) := by rw [List.intercalate_splitOn]
    _ = equalsEscape.intercalate ((cs.splitOn '=').map escapeEquals) := flatMap_intercalate _ _ _
    _ = equalsEscape.intercalate (cs.splitOn '=') := by rw [hpieces]

/-- The pair with the escape in the place of every `=` of its value. -/
def substituted (pair : String × String) : String × String :=
  (pair.1, String.ofList (equalsEscape.intercalate (pair.2.toList.splitOn '=')))

theorem escapedPair_eq (pair : String × String) : escapedPair pair = substituted pair := by
  unfold escapedPair substituted
  rw [escapeEquals_eq_intercalate]

/-! ## 2. Reading -/

/-- The text that encoded characters spell, decoded once. -/
def decodeOnce (cs : List Char) : Option String :=
  (Utf8.decode (Percent.decode (Utf8.encode cs))).toOption

/-- The pair that a token spells: it has one `=`, and a text on either side of it. -/
def readToken (token : List Char) : Option (String × String) :=
  match token.splitOn '=' with
  | [key, value] => do
    let key ← decodeOnce key
    let value ← decodeOnce value
    some (key, value)
  | _ => none

/-- The pairs that the tokens of a query spell. The empty query has no tokens. -/
def readQuery : List Char → Option (List (String × String))
  | [] => some []
  | cs => (cs.splitOn '&').mapM readToken

theorem decodeOnce_encode (s : String) : decodeOnce (Percent.encode s.toList) = some s := by
  have hbytes : Utf8.encode s.toList = Utf8.bytes s := rfl
  unfold decodeOnce
  rw [Percent.decode_encode, hbytes, Utf8.decode_bytes]
  rfl

theorem readToken_encodePair (pair : String × String) :
    readToken (encodePair pair) = some pair := by
  have hsep : ∀ cs, '=' ∉ Percent.encode cs := not_mem_percentEncode (by decide) (by decide)
  have hsplit : (encodePair pair).splitOn '=' =
      [Percent.encode pair.1.toList, Percent.encode pair.2.toList] := by
    unfold encodePair
    rw [List.splitOn_append_cons_self_of_not_mem (hsep _), List.splitOn_eq_singleton (hsep _)]
  unfold readToken
  rw [hsplit]
  simp only [decodeOnce_encode]
  rfl

theorem mapM_readToken (pairs : List (String × String)) :
    (pairs.map encodePair).mapM readToken = some pairs := by
  induction pairs with
  | nil => rfl
  | cons pair pairs ih =>
    rw [List.map_cons, List.mapM_cons, readToken_encodePair, ih]
    rfl

theorem isPiece_tokens (pairs : List (String × String)) :
    ∀ token ∈ (writtenPairs pairs).map encodePair, IsPiece '&' token := by
  intro token ht
  obtain ⟨pair, -, rfl⟩ := List.mem_map.1 ht
  exact isPiece_encodePair pair

theorem writtenPairs_eq_nil_iff {pairs : List (String × String)} :
    writtenPairs pairs = [] ↔ pairs = [] := by
  have hperm := perm_writtenPairs pairs
  constructor
  · intro h
    rw [h] at hperm
    exact List.map_eq_nil_iff.1 hperm.nil_eq.symm
  · intro h
    subst h
    exact hperm.eq_nil

/-- A query is empty where there are no pairs, and nowhere else. -/
theorem query_eq_empty_iff {pairs : List (String × String)} : query pairs = "" ↔ pairs = [] := by
  rw [← writtenPairs_eq_nil_iff, ← String.toList_inj, toList_query]
  constructor
  · intro h
    have hcut := filter_splitOn_intercalate (isPiece_tokens pairs)
    rw [h] at hcut
    exact List.map_eq_nil_iff.1 hcut.symm
  · intro h
    rw [h]
    rfl

/-- The tokens of a query are what lies between its `&`s. -/
theorem splitOn_query {pairs : List (String × String)} (h : pairs ≠ []) :
    (query pairs).toList.splitOn '&' = (writtenPairs pairs).map encodePair := by
  have htokens : (writtenPairs pairs).map encodePair ≠ [] :=
    mt List.map_eq_nil_iff.1 (mt writtenPairs_eq_nil_iff.1 h)
  rw [toList_query]
  exact List.splitOn_intercalate '&' (fun token ht => (isPiece_tokens pairs token ht).1) htokens

theorem toList_query_ne_nil {pairs : List (String × String)} (h : pairs ≠ []) :
    (query pairs).toList ≠ [] := fun hnil => h (query_eq_empty_iff.1 (String.toList_inj.1 hnil))

/-- **Reading undoes writing**, but for the `=`s of the values. -/
theorem readQuery_query (pairs : List (String × String)) :
    readQuery (query pairs).toList = some (writtenPairs pairs) := by
  by_cases hp : pairs = []
  · rw [query_eq_empty_iff.2 hp, writtenPairs_eq_nil_iff.2 hp]
    rfl
  · unfold readQuery
    split
    · rename_i hnil
      exact absurd hnil (toList_query_ne_nil hp)
    · rw [splitOn_query hp, mapM_readToken]

/-! ## 3. What a query is written with -/

/-- An unreserved character, or one of the three marks of a query. -/
def isQueryMark (c : Char) : Bool := Percent.isUnreserved c || c == '%' || c == '=' || c == '&'

theorem mem_encodePair {c : Char} {pair : String × String} (h : c ∈ encodePair pair) :
    isQueryMark c = true := by
  have hside : ∀ cs : List Char, c ∈ Percent.encode cs → isQueryMark c = true := by
    intro cs hc
    unfold isQueryMark
    rcases mem_percentEncode hc with hu | hp
    · simp [hu]
    · simp [hp]
  unfold encodePair at h
  rcases List.mem_append.1 h with hkey | hrest
  · exact hside _ hkey
  rcases List.mem_cons.1 hrest with rfl | hvalue
  · decide
  · exact hside _ hvalue

theorem mem_query {c : Char} {pairs : List (String × String)} (h : c ∈ (query pairs).toList) :
    isQueryMark c = true := by
  rw [toList_query] at h
  rcases mem_intercalate h with hsep | ⟨token, ht, hc⟩
  · rw [List.mem_singleton.1 hsep]
    decide
  · obtain ⟨pair, -, rfl⟩ := List.mem_map.1 ht
    exact mem_encodePair hc

/-! ## 4. The pairs behind a query -/

/-- The keys are in the order of their code points, and so are the values under one key. -/
def InOrder (pairs : List (String × String)) : Prop :=
  pairs.Pairwise fun a b => a.1 < b.1 ∨ (a.1 = b.1 ∧ a.2 ≤ b.2)

instance (pairs : List (String × String)) : Decidable (InOrder pairs) := by
  unfold InOrder
  infer_instance

theorem inOrder_sortedPairs (pairs : List (String × String)) : InOrder (sortedPairs pairs) :=
  (pairwise_sortedPairs pairs).imp pairLe_iff.1

/-- **A canonical query reads back as the pairs of the request**, no pair lost, repeated or made up:
    they are the pairs in order, with an escape for each `=` of a value. It is empty where there are
    none, written with unreserved characters and three marks, and the same for the same pairs in any
    order. -/
theorem query_reads_back (r : Request) :
    (query r.query = "" ↔ r.query = []) ∧
      (∀ c ∈ (query r.query).toList, isQueryMark c = true) ∧
      (∃ pairs : List (String × String), pairs.Perm r.query ∧ InOrder pairs ∧
        readQuery (query r.query).toList = some (pairs.map substituted)) ∧
      ∀ r' : Request, r.query.Perm r'.query → query r.query = query r'.query := by
  have hread : readQuery (query r.query).toList =
      some ((sortedPairs r.query).map substituted) := by
    rw [readQuery_query]
    exact congrArg some (List.map_congr_left fun pair _ => escapedPair_eq pair)
  refine ⟨query_eq_empty_iff, fun c hc => mem_query hc, ?_, fun r' h => query_eq_of_perm h⟩
  exact ⟨sortedPairs r.query, perm_sortedPairs r.query, inOrder_sortedPairs r.query, hread⟩

/-- A key with two values, one of them given twice, and a value with an `=`. -/
theorem query_reads_back_repeated :
    let r : Request := { Trial.request [] with query := [("b", "x=y"), ("a", "é"), ("a", "é")] }
    let r' : Request := { Trial.request [] with query := [("a", "é"), ("b", "x=y"), ("a", "é")] }
    query r.query = "a=%C3%A9&a=%C3%A9&b=x%253Dy" ∧ isQueryMark '%' = true ∧
      r.query.Perm r'.query ∧ query r.query = query r'.query := by
  intro r r'
  have hsorted : sortedPairs r.query = [("a", "é"), ("a", "é"), ("b", "x=y")] :=
    (eq_sortedPairs_of_perm (by decide) (by decide +kernel)).symm
  have hq : query r.query = "a=%C3%A9&a=%C3%A9&b=x%253Dy" := by
    unfold query
    rw [hsorted]
    decide +kernel
  have hperm : r.query.Perm r'.query := by decide
  obtain ⟨-, hmarks, -, horder⟩ := query_reads_back r
  exact ⟨hq, hmarks '%' (by rw [hq]; decide), hperm, horder r' hperm⟩

end Countersign.Canonical
