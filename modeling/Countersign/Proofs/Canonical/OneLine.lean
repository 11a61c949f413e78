import Mathlib
import Countersign.Canonical.Request
import Countersign.Signer
import Countersign.Proofs.ContentType.Parameters
import Countersign.Proofs.Http.Alphabet
import Countersign.Proofs.Text.Case

/-!
# The parts of a canonical request are single lines

The parts of a canonical request are joined with line feeds, and so are the lines of its block of
fields. None of them holds a line feed of its own, wherever it was read from:

* `CanonicalRequest.oneLine_methodText`, `Canonical.oneLine_path`, `Canonical.oneLine_query`,
  `Profile.oneLine_signedFields`, `Request.oneLine_payloadHash` -- the parts but the block;
* `Role.oneLine_value` -- the value of a signed name by its role. A content type is one line where
  the text it was read from is; one that was declared for a payload may be anything.
-/

namespace Countersign

open Countersign.Text Countersign.Calendar Countersign.Http

/-! ## 1. Single lines -/

namespace Text

/-- The text holds no line feed. -/
def OneLine (cs : List Char) : Prop := '\n' ∉ cs

instance (cs : List Char) : Decidable (OneLine cs) := inferInstanceAs (Decidable ('\n' ∉ cs))

theorem OneLine.of_forall {p : Char → Bool} (hp : p '\n' = false) {cs : List Char}
    (h : ∀ c ∈ cs, p c = true) : OneLine cs := by
  intro hn
  rw [h _ hn] at hp
  cases hp

theorem OneLine.of_subset {cs ds : List Char} (h : OneLine ds) (hs : cs ⊆ ds) : OneLine cs :=
  fun hn => h (hs hn)

theorem OneLine.append {cs ds : List Char} (hc : OneLine cs) (hd : OneLine ds) :
    OneLine (cs ++ ds) := by
  intro h
  rcases List.mem_append.1 h with h | h
  · exact hc h
  · exact hd h

theorem OneLine.intercalate {sep : List Char} {ls : List (List Char)} (hs : OneLine sep)
    (hl : ∀ l ∈ ls, OneLine l) : OneLine (sep.intercalate ls) := by
  intro h
  rcases mem_intercalate h with h | ⟨l, hm, h⟩
  · exact hs h
  · exact hl l hm h

/-- Changing the case of ASCII letters brings no line feed in. -/
theorem OneLine.map_toLower {cs : List Char} (h : OneLine cs) : OneLine (cs.map Char.toLower) :=
  not_mem_map_toLower (by decide) h

theorem OneLine.map_toUpper {cs : List Char} (h : OneLine cs) : OneLine (cs.map Char.toUpper) := by
  intro hn
  obtain ⟨c, hc, hu⟩ := List.mem_map.1 hn
  by_cases hl : c.isLower = true
  · have : c.toUpper.isUpper = true := by simp [Char.isAlpha, hl]
    rw [hu] at this
    exact absurd this (by decide)
  · rw [Char.toUpper_eq_of_not_isLower hl] at hu
    exact h (hu ▸ hc)

theorem oneLine_percentEncode (cs : List Char) : OneLine (Percent.encode cs) := by
  intro h
  rcases mem_percentEncode h with h | h <;> exact absurd h (by decide)

theorem oneLine_hexText (bs : List UInt8) : OneLine (hexText bs).toList := by
  rw [toList_hexText]
  exact .of_forall (p := isLowerHex) (by decide) fun _ => mem_hexEncode

theorem oneLine_normalize (cs : List Char) : OneLine (normalize cs) := by
  intro h
  rcases mem_normalize h with h | ⟨-, h⟩ <;> exact absurd h (by decide)

end Text

/-! ## 2. Method, path, query, names, hash -/

theorem CanonicalRequest.oneLine_methodText (m : Method) : OneLine (methodText m).toList := by
  unfold methodText
  rw [String.toList_ofList]
  exact .map_toUpper (.of_forall (p := isTokenChar) (by decide) fun _ => m.isTokenChar_of_mem)

namespace Canonical

theorem oneLine_render (decoded : List (List Char)) {tail : List Char} (ht : OneLine tail) :
    OneLine (render decoded tail) := by
  cases decoded with
  | nil => exact fun h => absurd (List.mem_singleton.1 h) (by decide)
  | cons s ss =>
    have hs : OneLine ['/'] := by decide
    refine (OneLine.append hs (.intercalate hs fun l hl => ?_)).append ht
    obtain ⟨d, -, rfl⟩ := List.mem_map.1 hl
    exact oneLine_percentEncode _

/-- A canonical path is one line where the path that it was made of is. -/
theorem oneLine_path {doubleEncode : Bool} {given path : String}
    (h : Canonical.path doubleEncode given = .ok path) (hg : OneLine given.toList) :
    OneLine path.toList := by
  unfold Canonical.path at h
  split at h
  · unfold normalPath at h
    cases hd : (segments given.toList).mapM decodeSegment with
    | error f => rw [hd] at h; cases h
    | ok decoded =>
      rw [hd] at h
      cases h
      rw [String.toList_ofList]
      refine oneLine_render decoded ?_
      unfold trailing
      split <;> decide
  · split at h
    · cases h
      decide
    · cases h
      exact hg

theorem oneLine_query (pairs : List (String × String)) : OneLine (query pairs).toList := by
  unfold query
  rw [String.toList_ofList]
  refine .intercalate (by decide) fun l hl => ?_
  obtain ⟨pair, -, rfl⟩ := List.mem_map.1 hl
  exact .append (.append (oneLine_percentEncode _) (by decide))
    (oneLine_percentEncode _)

end Canonical

theorem Http.FieldName.oneLine (n : FieldName) : OneLine n.text.toList :=
  .of_forall (p := isNameChar) (by decide) fun _ => n.isNameChar_of_mem

theorem Profile.oneLine_signedFields (p : Profile) : OneLine p.signedFields.toList := by
  unfold Profile.signedFields
  rw [String.toList_intercalate]
  refine .intercalate (by decide) fun l hl => ?_
  rw [List.map_map] at hl
  obtain ⟨n, -, rfl⟩ := List.mem_map.1 hl
  exact n.oneLine

theorem Request.oneLine_payloadHash {r : Request} {mode : PayloadMode} {hash : String}
    (h : r.payloadHash mode = .ok hash) : OneLine hash.toList := by
  cases mode with
  | unsigned =>
    cases h
    decide
  | included | excluded =>
    unfold Request.payloadHash at h
    cases hp : r.payload with
    | none => rw [hp] at h; cases h
    | some payload =>
      rw [hp] at h
      cases h
      exact oneLine_hexText _

/-! ## 3. The value of a name by its role -/

theorem Request.oneLine_host (r : Request) : OneLine r.host.toList := by
  have hh : OneLine r.authority.host.toList :=
    .of_forall (p := isAuthorityChar) (by decide) fun _ => r.authority.mem_host
  unfold Request.host
  cases r.authority.port? with
  | none => exact hh
  | some port =>
    show OneLine (if port = r.scheme.defaultPort then r.authority.host
      else r.authority.host ++ ":" ++ toString port).toList
    split
    · exact hh
    · rw [String.toList_append, String.toList_append]
      refine .append (.append hh (by decide)) (.of_forall (p := Char.isDigit) (by decide) ?_)
      intro c hc
      rw [Nat.toString_eq_repr, Nat.toList_repr] at hc
      exact Nat.isDigit_of_mem_toDigits (by decide) (by decide) hc

theorem Calendar.Timestamp.oneLine_format (t : Instant) : OneLine (format t).toList := by
  intro h
  rw [toList_format] at h
  rcases mem_instantChars h with h | h | h | h | h <;> exact absurd h (by decide)

namespace ContentType

/-- Both parts of the content type are single lines. -/
def IsOneLine (t : ContentType) : Prop :=
  OneLine t.media.toList ∧ ∀ charset, t.charset = some charset → OneLine charset.toList

theorem IsOneLine.text {t : ContentType} (h : t.IsOneLine) : OneLine t.text.toList := by
  unfold ContentType.text
  cases hc : t.charset with
  | none => exact h.1
  | some charset =>
    show OneLine (t.media ++ "; charset=" ++ charset).toList
    rw [String.toList_append, String.toList_append]
    exact .append (.append h.1 (by decide)) (h.2 charset hc)

theorem isOneLine_unspecified : unspecified.IsOneLine := ⟨by decide, nofun⟩

theorem oneLine_suffix {ps : List Parameter} (h : ∀ p ∈ ps, OneLine p.name ∧ OneLine p.value) :
    OneLine (suffix ps) := by
  induction ps with
  | nil => exact List.not_mem_nil
  | cons p ps ih =>
    obtain ⟨⟨hname, hvalue⟩, hps⟩ := List.forall_mem_cons.1 h
    have htext : OneLine (';' :: p.text) := by
      unfold OneLine Parameter.text at *
      simp [hname, hvalue]
    exact .append htext (ih hps)

/-- A content type that is read from one line is one line. -/
theorem isOneLine_of_parse {s : String} {t : ContentType} (h : parse s = .ok t)
    (hs : OneLine s.toList) : t.IsOneLine := by
  obtain ⟨-, rfl⟩ := parse_eq_ok_iff.1 h
  have hessence : OneLine (essence s.toList) := .map_toLower (hs.of_subset fun c hc =>
    mem_of_mem_splitOn (headD_mem_splitOn ';' s.toList) (mem_of_mem_trim hc))
  have hparameter : ∀ p ∈ parameters s.toList, OneLine p.name ∧ OneLine p.value := fun p hp =>
    ⟨hs.of_subset (mem_of_mem_parameters hp).1, hs.of_subset (mem_of_mem_parameters hp).2⟩
  refine ⟨?_, fun charset hcharset => ?_⟩
  · unfold ofParameters
    rw [String.toList_ofList]
    exact .append hessence (oneLine_suffix fun p hp => hparameter p (mem_plain.1 hp).1)
  · obtain ⟨value, hv, rfl⟩ := Option.map_eq_some_iff.1 hcharset
    obtain ⟨p, hp, -, rfl⟩ := exists_of_charsetOf? hv
    rw [String.toList_ofList]
    exact (hparameter p hp).2

end ContentType

theorem Http.FieldValue.oneLine_text {v : FieldValue} {s : String} (h : v.text = .ok s) :
    OneLine s.toList :=
  .of_forall (p := isValueChar) (by decide) fun _ => FieldValue.isValueChar_of_mem h

theorem Request.oneLine_fieldText {r : Request} {name s : String}
    (h : r.fieldText name = .ok (some s)) : OneLine s.toList := by
  unfold Request.fieldText Request.textOf at h
  cases hv : r.fields.getOf? name with
  | none => rw [hv] at h; cases h
  | some v =>
    cases ht : v.text with
    | error f => simp [hv, ht, Except.map, Except.mapError] at h
    | ok s' =>
      simp only [hv, ht, Except.map, Except.mapError, Except.ok.injEq, Option.some.injEq] at h
      exact h ▸ FieldValue.oneLine_text ht

/-- The content type of a request is one line, unless it is one that was declared for the
    payload. -/
theorem Request.isOneLine_contentType {r : Request} {t : ContentType}
    (hd : r.declaredType.IsOneLine) (h : r.contentType = .ok t) : t.IsOneLine := by
  unfold Request.contentType at h
  split at h
  · cases h
  · rename_i s hs
    exact ContentType.isOneLine_of_parse h (oneLine_fieldText hs)
  · cases h
    exact hd

theorem Request.oneLine_plainValue {r : Request} {name : FieldName} {value : String}
    (h : r.plainValue name = .ok value) : OneLine value.toList := by
  unfold Request.plainValue at h
  cases ht : (r.fields.values name).mapM textOf with
  | error f => rw [ht] at h; cases h
  | ok texts =>
    rw [ht] at h
    cases h
    rw [String.toList_ofList]
    refine .intercalate (by decide) fun l hl => ?_
    obtain ⟨s, -, rfl⟩ := List.mem_map.1 hl
    exact oneLine_normalize _

/-- **The value of a signed name is one line**, whatever its role, where the content type that was
    declared for the payload is. -/
theorem Role.oneLine_value {r : Request} {time : Instant} {payloadHash value : String}
    (hd : r.declaredType.IsOneLine) (hh : OneLine payloadHash.toList) :
    ∀ {role : Role}, role.value r time payloadHash = .ok value → OneLine value.toList
  | .host, h => by cases h; exact r.oneLine_host
  | .contentType, h => by
    simp only [Role.value] at h
    cases ht : r.contentType with
    | error f => rw [ht] at h; cases h
    | ok t =>
      rw [ht] at h
      cases h
      exact (r.isOneLine_contentType hd ht).text
  | .payloadHash, h => by cases h; exact hh
  | .time, h => by cases h; exact Timestamp.oneLine_format time
  | .plain _, h => Request.oneLine_plainValue h

end Countersign
