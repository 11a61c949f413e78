import Countersign.Proofs.Http.Form
import Countersign.Proofs.Signing.Stages

/-!
# What the query of a request tells of its target

A target may spell any bytes in its query, with escapes. The request that is made of it holds texts,
and bytes that are no UTF-8 are no reason to refuse it: each faulty stretch of them reads as U+FFFD.

* `Uri.bytePairs` -- the keys and values that a target spells, as bytes;
* `decoded_query_eq_iff` -- when two targets give one query, and when the bytes are the same then;
* `decoded_query_not_injective` -- they need not be.
-/

namespace Countersign

open Countersign.Text Countersign.Http

/-- The keys and values of the query of a target, as bytes: none where there is no query. -/
def Http.Uri.bytePairs (u : Uri) : List (List UInt8 × List UInt8) :=
  (u.query.map fun q => Form.bytePairs (Utf8.bytes q)).getD []

namespace Trial

/-- The head of a request for a target with the given query. -/
def asking (query : String) (h : query.toList.all isQueryChar = true := by decide) : Head :=
  ⟨.get, ⟨some .http, some ⟨"example.com", by decide⟩,
    ⟨"/", some query, all_isPathChar_root, by rintro _ ⟨⟩; exact h⟩⟩, ⟨[]⟩⟩

/-- The request of this head without a payload. -/
def asked (query : String) : Request :=
  ⟨.get, .http, ⟨"example.com", by decide⟩, "/", Form.pairs query, ⟨[]⟩, none⟩

theorem ofHead_asking (query : String) (h : query.toList.all isQueryChar = true) :
    Request.ofHead (asking query h) none = .ok (asked query) := rfl

end Trial

namespace Request

theorem query_ofHead {head : Head} {payload : Option Payload} {r : Request}
    (h : ofHead head payload = .ok r) : r.query = head.uri.bytePairs.map Form.read := by
  unfold ofHead at h
  unfold Uri.bytePairs
  cases ha : head.uri.authority with
  | none =>
    rw [ha] at h
    exact nomatch h
  | some authority =>
    rw [ha] at h
    cases Except.ok.inj h
    cases head.uri.query <;> rfl

/-- **The query of a request tells the bytes but for what was replaced by U+FFFD.** Two targets give
    one query exactly where the bytes read alike, and then the replaced stretches decide whether the
    bytes are the same. They are where the query holds no U+FFFD, and where both spell UTF-8; every
    query that does hold one is also that of other bytes. -/
theorem decoded_query_eq_iff {a b : Head} {x y : Option Payload} {r s : Request}
    (ha : ofHead a x = .ok r) (hb : ofHead b y = .ok s) :
    (r.query = s.query ↔ List.Forall₂ Form.ReadAlike a.uri.bytePairs b.uri.bytePairs) ∧
    (r.query = s.query → (a.uri.bytePairs = b.uri.bytePairs ↔
      a.uri.bytePairs.map Form.stretches = b.uri.bytePairs.map Form.stretches)) ∧
    (r.query = s.query → Form.Unreplaced r.query ∨
        Form.AllText a.uri.bytePairs ∧ Form.AllText b.uri.bytePairs →
      a.uri.bytePairs = b.uri.bytePairs) ∧
    (¬ Form.Unreplaced r.query → ∃ query : String, query.toList.all isQueryChar = true ∧
      Form.pairs query = r.query ∧ Form.bytePairs (Utf8.bytes query) ≠ a.uri.bytePairs) := by
  rw [query_ofHead ha, query_ofHead hb]
  refine ⟨Form.map_read_eq_iff, fun h => ⟨fun heq => by rw [heq], Form.eq_of_stretches_eq h⟩, ?_, ?_⟩
  · rintro h (hno | ⟨hta, htb⟩)
    · exact (Form.forall_map_read_eq_iff.2 hno _ h.symm).symm
    · exact hta.eq_of_map_read_eq htb h
  · intro hsome
    rw [← Form.forall_pairs_eq_iff] at hsome
    push Not at hsome
    exact hsome

/-- A space that is written in two ways. -/
theorem decoded_query_eq_iff_space :
    ofHead (Trial.asking "a=1+2") none = .ok (Trial.asked "a=1+2") ∧
      ofHead (Trial.asking "a=1%202") none = .ok (Trial.asked "a=1%202") ∧
      (Trial.asked "a=1+2").query = (Trial.asked "a=1%202").query ∧
      Form.Unreplaced (Trial.asked "a=1+2").query ∧
      (Trial.asking "a=1+2").uri.bytePairs = (Trial.asking "a=1%202").uri.bytePairs := by
  have hquery : (Trial.asked "a=1+2").query = (Trial.asked "a=1%202").query := by decide +kernel
  have hno : Form.Unreplaced (Trial.asked "a=1+2").query := by decide +kernel
  obtain ⟨-, -, hbytes, -⟩ := decoded_query_eq_iff (Trial.ofHead_asking "a=1+2" (by decide))
    (Trial.ofHead_asking "a=1%202" (by decide))
  exact ⟨rfl, rfl, hquery, hno, hbytes hquery (Or.inl hno)⟩

/-- A byte that is no UTF-8 reads like a U+FFFD that was written. -/
theorem decoded_query_not_injective :
    ¬ ∀ (a b : Head) (r s : Request), a.uri.authority = b.uri.authority →
      ofHead a none = .ok r → ofHead b none = .ok s → r.query = s.query →
        a.uri.bytePairs = b.uri.bytePairs := by
  intro h
  have hquery : (Trial.asked "a=%FF").query = (Trial.asked "a=%EF%BF%BD").query := by
    decide +kernel
  have hsame := h (Trial.asking "a=%FF") (Trial.asking "a=%EF%BF%BD") _ _ rfl
    (Trial.ofHead_asking ..) (Trial.ofHead_asking ..) hquery
  exact absurd hsame (by decide +kernel)

end Request

end Countersign
