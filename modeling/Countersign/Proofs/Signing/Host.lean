import Countersign.Proofs.Http.Port
import Countersign.Proofs.Signing.Stages
import Countersign.Proofs.Text.Join

/-!
# Hosts of requests

The host of a request is the host of its authority, with the port where that is not the one that the
scheme stands for. A scheme without a port of its own is given the port 0, so there the port 0 does
not show either.

* `toList_host` -- the host is a host and what shows of the port (`shownPort`);
* `eq_and_eq_of_append` -- these two can be told from it;
* `Scheme.effectivePort` -- the port that is meant, whether or not it is named;
* `host_eq_iff` -- two hosts are the same where the hosts of the authorities are and the ports come
  to the same; `host_leaves_out_port_zero` -- which is not always to mean the same port.
-/

namespace Countersign.Http

open Countersign.Text

/-! ## 1. What shows of a port -/

/-- What follows the host: nothing where the port is the default one, or where there is none. -/
def shownPort (default : Nat) (port : Option Nat) : List Char :=
  if port.getD default = default then [] else ':' :: Nat.toDigits 10 (port.getD default)

theorem shownPort_eq_iff {default : Nat} {p q : Option Nat} :
    shownPort default p = shownPort default q ↔ p.getD default = q.getD default := by
  constructor
  · intro h
    unfold shownPort at h
    split at h
    · split at h
      · omega
      · cases h
    · split at h
      · cases h
      · have hdigits := (List.cons.inj h).2
        have hvalue := congrArg (fun digits => Nat.ofDigitChars 10 digits 0) hdigits
        simpa only [Nat.ofDigitChars_ten_toDigits] using hvalue
  · intro h
    unfold shownPort
    rw [h]

/-- Nothing, or a colon and digits. -/
theorem shownPort_cases (default : Nat) (port : Option Nat) : shownPort default port = [] ∨
    ∃ digits, shownPort default port = ':' :: digits ∧ digits ≠ [] ∧
      ∀ c ∈ digits, c.isDigit = true := by
  unfold shownPort
  split
  · exact Or.inl rfl
  · exact Or.inr ⟨_, rfl, Nat.toDigits_ne_nil, fun c hc =>
      Nat.isDigit_of_mem_toDigits (by decide) (by decide) hc⟩

/-- A host is not another one with a port behind it. -/
theorem ne_append_of_host_cases {host front digits : List Char}
    (h : ':' ∉ host ∨ host.getLast? = some ']') (hne : digits ≠ [])
    (hdigit : ∀ c ∈ digits, c.isDigit = true) : host ≠ front ++ ':' :: digits := by
  rintro rfl
  rcases h with hno | hlast
  · exact hno (by simp)
  · rw [List.getLast?_append, List.getLast?_cons_of_ne_nil hne] at hlast
    cases hd : digits.getLast? with
    | none => exact hne (List.getLast?_eq_none_iff.1 hd)
    | some d =>
      rw [hd] at hlast
      cases hlast
      exact absurd (hdigit ']' (List.mem_of_getLast? hd)) (by decide)

/-- **A host and what shows of a port can be told from the two together.** -/
theorem eq_and_eq_of_append {h₁ h₂ : List Char} (hc₁ : ':' ∉ h₁ ∨ h₁.getLast? = some ']')
    (hc₂ : ':' ∉ h₂ ∨ h₂.getLast? = some ']') {default : Nat} {p q : Option Nat}
    (h : h₁ ++ shownPort default p = h₂ ++ shownPort default q) :
    h₁ = h₂ ∧ shownPort default p = shownPort default q := by
  rcases shownPort_cases default p with hp | ⟨ds, hp, hds, hdigit⟩
  · rcases shownPort_cases default q with hq | ⟨es, hq, hes, hdigit'⟩
    · rw [hp, hq, List.append_nil, List.append_nil] at h
      exact ⟨h, hp.trans hq.symm⟩
    · rw [hp, hq, List.append_nil] at h
      exact absurd h (ne_append_of_host_cases hc₁ hes hdigit')
  · rcases shownPort_cases default q with hq | ⟨es, hq, hes, hdigit'⟩
    · rw [hp, hq, List.append_nil] at h
      exact absurd h.symm (ne_append_of_host_cases hc₂ hds hdigit)
    · rw [hp, hq] at h ⊢
      -- read from the end, both are cut at the first colon
      have hno : ∀ {cs : List Char}, (∀ c ∈ cs, c.isDigit = true) → ':' ∉ cs.reverse := fun hd hm =>
        absurd (hd ':' (List.mem_reverse.1 hm)) (by decide)
      have hrev := congrArg List.reverse h
      simp only [List.reverse_append, List.reverse_cons, List.append_assoc,
        List.singleton_append] at hrev
      obtain ⟨hdigits, hhosts⟩ := eq_and_eq_of_append_cons (hno hdigit) (hno hdigit') hrev
      rw [List.reverse_inj.1 hdigits, List.reverse_inj.1 hhosts]
      exact ⟨rfl, rfl⟩

/-! ## 2. The port that is meant -/

/-- The port that is meant: the one that is named, else the one of the scheme. Of another scheme
    than these two nothing is known, so there no port is none of the ports. -/
def Scheme.effectivePort : Scheme → Option Nat → Option Nat
  | .http, port => some (port.getD 80)
  | .https, port => some (port.getD 443)
  | .other _, port => port

/-- No port, or the port 0, of a scheme that has no port of its own. -/
def Scheme.IsZeroOrNone : Scheme → Option Nat → Prop
  | .other _, port => port.getD 0 = 0
  | _, _ => False

theorem Scheme.getD_defaultPort_eq_iff (s : Scheme) (p q : Option Nat) :
    p.getD s.defaultPort = q.getD s.defaultPort ↔
      s.effectivePort p = s.effectivePort q ∨ (s.IsZeroOrNone p ∧ s.IsZeroOrNone q) := by
  cases s with
  | http => simp [defaultPort, effectivePort, IsZeroOrNone]
  | https => simp [defaultPort, effectivePort, IsZeroOrNone]
  | other name =>
    unfold defaultPort effectivePort IsZeroOrNone
    cases p <;> cases q <;> simp <;> omega

end Countersign.Http

/-! ## 3. Hosts of requests -/

namespace Countersign.Request

open Countersign.Http

theorem toList_host (r : Request) : r.host.toList =
    r.authority.host.toList ++ shownPort r.scheme.defaultPort r.authority.port? := by
  unfold host shownPort
  cases r.authority.port? with
  | none => simp
  | some port =>
    simp only [Option.getD_some]
    split
    · simp
    · rw [String.toList_append, String.toList_append, List.append_assoc, Nat.toString_eq_repr,
        Nat.toList_repr]
      rfl

/-- **Two hosts are the same where the authorities have the same host and ports that come to the
    same**: that mean the same port, or that are no port and the port 0, or twice one of these, of a
    scheme without a port of its own. User information does not count. -/
theorem host_eq_iff {r₁ r₂ : Request} {p₁ p₂ : Option Nat} (hs : r₁.scheme = r₂.scheme)
    (h₁ : r₁.authority.HasPort p₁) (h₂ : r₂.authority.HasPort p₂) :
    (r₁.host = r₂.host ↔ r₁.authority.host = r₂.authority.host ∧
        (r₁.scheme.effectivePort p₁ = r₁.scheme.effectivePort p₂ ∨
          (r₁.scheme.IsZeroOrNone p₁ ∧ r₁.scheme.IsZeroOrNone p₂))) ∧
      (r₁.authority.hostPort = r₂.authority.hostPort → r₁.host = r₂.host) := by
  have hiff : r₁.host = r₂.host ↔ r₁.authority.host = r₂.authority.host ∧
      p₁.getD r₁.scheme.defaultPort = p₂.getD r₁.scheme.defaultPort := by
    rw [← String.toList_inj, toList_host, toList_host, ← hs, Authority.port?_of_hasPort h₁,
      Authority.port?_of_hasPort h₂, ← shownPort_eq_iff, ← String.toList_inj]
    constructor
    · exact eq_and_eq_of_append r₁.authority.host_cases r₂.authority.host_cases
    · exact fun ⟨hh, hp⟩ => by rw [hh, hp]
  refine ⟨hiff.trans (and_congr_right fun _ => Scheme.getD_defaultPort_eq_iff _ _ _), fun h => ?_⟩
  have hhost : r₁.authority.host = r₂.authority.host := by
    unfold Authority.host
    rw [h]
  have hport : r₁.authority.HasPort p₂ := by
    unfold Authority.HasPort at h₂ ⊢
    rw [h, hhost]
    exact h₂
  have hsame : p₁ = p₂ :=
    (Authority.port?_of_hasPort h₁).symm.trans (Authority.port?_of_hasPort hport)
  exact hiff.2 ⟨hhost, by rw [hsame]⟩

/-- User information, a host in brackets, and zeros in front of the port of the scheme. -/
theorem host_eq_iff_brackets :
    let r₁ : Request := { Trial.request [] with authority := ⟨"u:1@[::1]:0443", by decide⟩ }
    let r₂ : Request := { Trial.request [] with authority := ⟨"[::1]", by decide⟩ }
    r₁.scheme = r₂.scheme ∧ r₁.authority.HasPort (some 443) ∧ r₂.authority.HasPort none ∧
      r₁.host = r₂.host := by
  intro r₁ r₂
  have h₁ : r₁.authority.HasPort (some 443) :=
    ⟨['0', '4', '4', '3'], by decide, by omega, ['0', '4', '4', '3'], Or.inl rfl, by decide,
      by simp, rfl⟩
  have h₂ : r₂.authority.HasPort none := by
    unfold Authority.HasPort
    decide
  have hhost : r₁.authority.host = r₂.authority.host := by decide
  have hscheme : r₁.scheme = r₂.scheme := rfl
  exact ⟨hscheme, h₁, h₂, (host_eq_iff hscheme h₁ h₂).1.2 ⟨hhost, Or.inl rfl⟩⟩

/-- **The port 0 of a scheme without a port of its own is left out**, as if none were named. -/
theorem host_leaves_out_port_zero :
    ¬ ∀ (r₁ r₂ : Request) (p₁ p₂ : Option Nat), r₁.scheme = r₂.scheme →
      r₁.authority.HasPort p₁ → r₂.authority.HasPort p₂ →
      (r₁.host = r₂.host ↔ r₁.authority.host = r₂.authority.host ∧
        r₁.scheme.effectivePort p₁ = r₁.scheme.effectivePort p₂) := by
  intro h
  let r₁ : Request :=
    { Trial.request [] with scheme := .other "ftp", authority := ⟨"localhost:0", by decide⟩ }
  let r₂ : Request := { Trial.request [] with scheme := .other "ftp" }
  have h₁ : r₁.authority.HasPort (some 0) :=
    ⟨['0'], by decide, by omega, ['0'], Or.inl rfl, by decide, by simp, rfl⟩
  have h₂ : r₂.authority.HasPort none := by
    unfold Authority.HasPort
    decide
  have hhost : r₁.host = r₂.host := by decide
  exact absurd ((h r₁ r₂ _ _ rfl h₁ h₂).1 hhost).2 (by decide)

end Countersign.Request
