import Countersign.Proofs.Canonical.QueryReading
import Countersign.Proofs.Text.PercentOrder

/-!
# The order in which a canonical query is sent

The pairs of a query are put in order before they are encoded. What is sent has another order: a
percent sign comes before all that is left unescaped, so of two keys the one that goes on with an
escaped character is the smaller one when they are sent, whatever the code points are. The tokens of
a query are in the order of what is sent where no two pairs change places in this way.

* `sentTokens_query` -- the tokens are those of the pairs in order;
* `sentLe_sentBytes_iff` -- two tokens have the order of their escaped pairs by
  `Percent.escapedFirst`;
* `sortedAsSent_query_iff` -- so the tokens are in order exactly where the two orders agree on the
  pairs;
* `query_sorted_as_decoded` -- all of it; `query_not_sorted_as_sent` -- and where they do not.
-/

namespace Countersign.Canonical

open Countersign.Text

/-! ## 1. Tokens as they are sent -/

/-- The bytes of the two sides of a token. -/
def tokenBytes (token : List Char) : List UInt8 × List UInt8 :=
  (Utf8.encode (token.takeWhile (· != '=')), Utf8.encode ((token.dropWhile (· != '=')).drop 1))

/-- The tokens of a query, as the bytes of their sides. The empty query has none. -/
def sentTokens : List Char → List (List UInt8 × List UInt8)
  | [] => []
  | cs => (cs.splitOn '&').map tokenBytes

/-- The order of tokens by their bytes: by key, and by value where the keys are equal. -/
def SentLe (a b : List UInt8 × List UInt8) : Prop := a.1 < b.1 ∨ (a.1 = b.1 ∧ ¬ b.2 < a.2)

/-- The tokens of a query come in the order of their bytes. -/
def SortedAsSent (query : String) : Prop := (sentTokens query.toList).Pairwise SentLe

/-- The bytes that a pair is sent as, which is escaped already. -/
def sentBytes (pair : String × String) : List UInt8 × List UInt8 :=
  (Utf8.encode (Percent.encode pair.1.toList), Utf8.encode (Percent.encode pair.2.toList))

theorem tokenBytes_encodePair (pair : String × String) :
    tokenBytes (encodePair pair) = sentBytes pair := by
  have hkey : ∀ c ∈ Percent.encode pair.1.toList, (c != '=') = true := by
    intro c hc
    rw [bne_iff_ne]
    rintro rfl
    exact not_mem_percentEncode (by decide) (by decide) _ hc
  unfold tokenBytes encodePair sentBytes
  rw [List.takeWhile_append_of_pos hkey, List.dropWhile_append_of_pos hkey]
  simp

/-- **The tokens are those of the pairs in order.** -/
theorem sentTokens_query (pairs : List (String × String)) :
    sentTokens (query pairs).toList =
      (sortedPairs pairs).map fun p => sentBytes (substituted p) := by
  have hwritten : (writtenPairs pairs).map sentBytes =
      (sortedPairs pairs).map fun p => sentBytes (substituted p) := by
    unfold writtenPairs
    rw [List.map_map]
    exact List.map_congr_left fun p _ => congrArg sentBytes (escapedPair_eq p)
  rw [← hwritten]
  by_cases hp : pairs = []
  · rw [query_eq_empty_iff.2 hp, writtenPairs_eq_nil_iff.2 hp]
    rfl
  · unfold sentTokens
    split
    · rename_i hnil
      exact absurd hnil (toList_query_ne_nil hp)
    · rw [splitOn_query hp, List.map_map]
      exact List.map_congr_left fun p _ => tokenBytes_encodePair p

/-! ## 2. The order of what is sent -/

/-- The text comes before the other one when both are encoded: escaped characters come first. -/
def EncodedBefore (s t : String) : Prop :=
  s.toList.map Percent.escapedFirst < t.toList.map Percent.escapedFirst

instance (s t : String) : Decidable (EncodedBefore s t) := by
  unfold EncodedBefore
  infer_instance

/-- The order of pairs when they are encoded. -/
def EncodedLe (a b : String × String) : Prop :=
  EncodedBefore a.1 b.1 ∨ (a.1 = b.1 ∧ ¬ EncodedBefore b.2 a.2)

instance (a b : String × String) : Decidable (EncodedLe a b) := by
  unfold EncodedLe
  infer_instance

theorem sentLe_sentBytes_iff {a b : String × String} :
    SentLe (sentBytes a) (sentBytes b) ↔ EncodedLe a b := by
  have hkeys : Utf8.encode (Percent.encode a.1.toList) = Utf8.encode (Percent.encode b.1.toList) ↔
      a.1 = b.1 := by
    constructor
    · exact fun h => String.toList_inj.1 (Percent.encode_injective (Utf8.encode_injective h))
    · exact fun h => by rw [h]
  unfold SentLe sentBytes EncodedLe EncodedBefore
  rw [Percent.encode_lt_encode_iff, Percent.encode_lt_encode_iff, hkeys]

theorem encodedLe_refl (a : String × String) : EncodedLe a a := Or.inr ⟨rfl, List.lt_irrefl _⟩

/-- A list in order keeps a relation between earlier and later elements exactly where the order
    implies it. -/
theorem pairwise_iff_of_pairwise {α : Type} {le R : α → α → Prop}
    (hanti : ∀ a b, le a b → le b a → a = b) (hrefl : ∀ a, R a a) {xs : List α}
    (h : xs.Pairwise le) : xs.Pairwise R ↔ ∀ a ∈ xs, ∀ b ∈ xs, le a b → R a b := by
  constructor
  · intro hrel a ha b hb hab
    induction xs with
    | nil => exact absurd ha List.not_mem_nil
    | cons x xs ih =>
      obtain ⟨hle, hxs⟩ := List.pairwise_cons.1 h
      obtain ⟨hx, hrel⟩ := List.pairwise_cons.1 hrel
      rcases List.mem_cons.1 ha with rfl | ha'
      · rcases List.mem_cons.1 hb with rfl | hb'
        · exact hrefl b
        · exact hx b hb'
      · rcases List.mem_cons.1 hb with rfl | hb'
        · -- the earlier element is also the greater one, so they are the same
          rw [hanti a b hab (hle a ha')]
          exact hrefl b
        · exact ih hxs hrel ha' hb'
  · exact fun hall => h.imp_of_mem fun ha hb hab => hall _ ha _ hb hab

theorem inOrder_two_iff {a b : String × String} : InOrder [a, b] ↔ pairLe a b = true := by
  unfold InOrder
  rw [List.pairwise_pair, pairLe_iff]

/-- **The tokens are sorted as they are sent exactly where encoding leaves each two pairs in their
    order.** -/
theorem sortedAsSent_query_iff (pairs : List (String × String)) :
    SortedAsSent (query pairs) ↔ ∀ a ∈ pairs, ∀ b ∈ pairs, InOrder [a, b] →
      EncodedLe (substituted a) (substituted b) := by
  have hagree := pairwise_iff_of_pairwise
    (R := fun a b => EncodedLe (substituted a) (substituted b))
    (fun _ _ => pairLe_antisymm) (fun a => encodedLe_refl _) (pairwise_sortedPairs pairs)
  unfold SortedAsSent
  rw [sentTokens_query, List.pairwise_map]
  simp only [sentLe_sentBytes_iff, inOrder_two_iff]
  simpa only [(perm_sortedPairs pairs).mem_iff] using hagree

/-! ## 3. Unreserved characters -/

/-- No character of the pair has to be escaped. -/
def IsUnreserved (pair : String × String) : Prop :=
  (∀ c ∈ pair.1.toList, Percent.isUnreserved c = true) ∧
    ∀ c ∈ pair.2.toList, Percent.isUnreserved c = true

instance (pair : String × String) : Decidable (IsUnreserved pair) :=
  decidable_of_iff (pair.1.toList.all Percent.isUnreserved = true ∧
    pair.2.toList.all Percent.isUnreserved = true) (and_congr List.all_eq_true List.all_eq_true)

/-- Texts of unreserved characters keep their order when they are encoded. -/
theorem encodedBefore_iff_of_isUnreserved {s t : String}
    (hs : ∀ c ∈ s.toList, Percent.isUnreserved c = true)
    (ht : ∀ c ∈ t.toList, Percent.isUnreserved c = true) : EncodedBefore s t ↔ s < t := by
  have hcode : ∀ {cs : List Char}, (∀ c ∈ cs, Percent.isUnreserved c = true) →
      cs.map Percent.escapedFirst = cs.map fun c => 0x110000 + c.toNat := fun h =>
    List.map_congr_left fun c hc => if_pos (h c hc)
  have horder : ∀ cs ds : List Char, (cs.map fun c => 0x110000 + c.toNat) <
      (ds.map fun c => 0x110000 + c.toNat) ↔ cs < ds := by
    intro cs ds
    induction cs generalizing ds with
    | nil => cases ds <;> simp
    | cons c cs ih =>
      cases ds with
      | nil => simp
      | cons d ds =>
        have heq : 0x110000 + c.toNat = 0x110000 + d.toNat ↔ c = d :=
          ⟨fun h => Char.toNat_inj.1 (by omega), fun h => by rw [h]⟩
        have hlt : 0x110000 + c.toNat < 0x110000 + d.toNat ↔ c < d :=
          (Nat.add_lt_add_iff_left).trans Iff.rfl
        rw [List.map_cons, List.map_cons, List.cons_lt_cons_iff, List.cons_lt_cons_iff, heq, hlt,
          ih ds]
  unfold EncodedBefore
  rw [hcode hs, hcode ht, horder]
  exact Iff.rfl

theorem substituted_eq_of_isUnreserved {pair : String × String} (h : IsUnreserved pair) :
    substituted pair = pair := by
  have hequals : '=' ∉ pair.2.toList := fun hm => absurd (h.2 _ hm) (by decide)
  rw [← escapedPair_eq]
  unfold escapedPair
  rw [escapeEquals_of_not_mem hequals, String.ofList_toList]

theorem encodedLe_of_isUnreserved {a b : String × String} (ha : IsUnreserved a)
    (hb : IsUnreserved b) (h : InOrder [a, b]) : EncodedLe a b := by
  unfold EncodedLe
  rw [encodedBefore_iff_of_isUnreserved ha.1 hb.1, encodedBefore_iff_of_isUnreserved hb.2 ha.2]
  rw [inOrder_two_iff, pairLe_iff] at h
  exact h.imp id fun ⟨hk, hv⟩ => ⟨hk, String.not_lt.2 hv⟩

/-! ## 4. Queries -/

/-- **The tokens of a canonical query come in the order of the decoded pairs.** They are sorted as
    they are sent exactly where encoding leaves each two pairs in their order; so where no character
    has to be escaped. -/
theorem query_sorted_as_decoded (r : Request) :
    (∃ pairs : List (String × String), pairs.Perm r.query ∧ InOrder pairs ∧
        sentTokens (query r.query).toList = pairs.map fun p => sentBytes (substituted p)) ∧
      (SortedAsSent (query r.query) ↔ ∀ a ∈ r.query, ∀ b ∈ r.query, InOrder [a, b] →
        EncodedLe (substituted a) (substituted b)) ∧
      ((∀ pair ∈ r.query, IsUnreserved pair) → SortedAsSent (query r.query)) := by
  refine ⟨⟨sortedPairs r.query, perm_sortedPairs r.query, inOrder_sortedPairs r.query,
    sentTokens_query r.query⟩, sortedAsSent_query_iff r.query, fun h => ?_⟩
  rw [sortedAsSent_query_iff]
  intro a ha b hb hab
  rw [substituted_eq_of_isUnreserved (h a ha), substituted_eq_of_isUnreserved (h b hb)]
  exact encodedLe_of_isUnreserved (h a ha) (h b hb) hab

/-- Keys that share a beginning, one of them with two values. -/
theorem query_sorted_as_decoded_plain :
    let r : Request := { Trial.request [] with query := [("a1", "~"), ("a", "2"), ("a1", "B")] }
    (∀ pair ∈ r.query, IsUnreserved pair) ∧ SortedAsSent (query r.query) := by
  intro r
  have h : ∀ pair ∈ r.query, IsUnreserved pair := by decide
  exact ⟨h, (query_sorted_as_decoded r).2.2 h⟩

/-- A colon comes behind a digit, and its escape before it. -/
theorem query_not_sorted_as_sent : ¬ ∀ r : Request, SortedAsSent (query r.query) := by
  intro h
  have hsorted := (sortedAsSent_query_iff _).1
    (h { Trial.request [] with query := [("a1", "x"), ("a:", "y")] })
  exact absurd (hsorted ("a1", "x") (by decide) ("a:", "y") (by decide) (by decide)) (by decide)

end Countersign.Canonical
