import Countersign.Proofs.Signing.Adapter
import Countersign.Proofs.Signing.Again

/-!
# The hash of the payload in a head that is signed many times

A head may be changed by its holder and signed by any number of signers before it is sent. Each
signer that sends the hash of the payload puts its own in place of any other. One that does not send
it leaves what it finds, so a hash of another payload can stay behind.

* `Handling.Step`, `Handling.run` -- what may happen to a head, one thing after another;
* `Handling.hashes_apply_eq_nil_iff` -- when one step leaves no hash, and
  `Handling.hashes_run_eq_nil_iff`, when a run leaves none;
* `Profile.exists_signInPlace_of_agree` -- what signers write keeps no other signer from signing,
  unless it signs the credential line;
* `Handling.hash_after_signing` -- the hash right after any signing of any run;
* `Handling.excluded_leaves_hash` -- it is not always the one that was signed.
-/

namespace Countersign

open Countersign.Text Countersign.Digest Countersign.Http

/-! ## 1. When a change of the fields leaves no value -/

namespace Http.Fields

variable (fs : Fields) (name other : FieldName) (value : FieldValue)

theorem values_append_eq_nil_iff :
    (fs.append name value).values other = [] ↔ fs.values other = [] ∧ name ≠ other := by
  by_cases hn : name = other
  · subst hn
    simp
  · rw [values_append_of_ne _ _ (Ne.symm hn)]
    exact (and_iff_left hn).symm

theorem values_insert_eq_nil_iff :
    (fs.insert name value).values other = [] ↔ fs.values other = [] ∧ name ≠ other := by
  by_cases hn : name = other
  · subst hn
    simp
  · rw [values_insert_of_ne _ _ (Ne.symm hn)]
    exact (and_iff_left hn).symm

theorem values_eraseOf_eq_nil_iff (text : String) : (fs.eraseOf text).values other = [] ↔
    FieldName.ofText? text = some other ∨ fs.values other = [] := by
  unfold eraseOf
  cases FieldName.ofText? text with
  | none => exact (or_iff_right nofun).symm
  | some n =>
    by_cases hn : n = other
    · subst hn
      exact iff_of_true (values_erase_self fs n) (Or.inl rfl)
    · show (fs.erase n).values other = [] ↔ _
      rw [values_erase_of_ne _ (Ne.symm hn)]
      exact (or_iff_right fun h => hn (Option.some.inj h)).symm

end Http.Fields

namespace Handling

/-! ## 2. Runs -/

/-- One thing that happens to a head. -/
inductive Step
  /-- One more value under a name. -/
  | append (name : FieldName) (value : FieldValue)
  /-- A value in place of all others of its name. -/
  | insert (name : FieldName) (value : FieldValue)
  /-- No value any more under the name that a text spells. -/
  | erase (name : String)
  /-- The head is signed, or is left as it is where it cannot be. -/
  | sign (p : Profile) (payload : Option Payload)

/-- The head after one step. -/
def apply (head : Head) : Step → Head
  | .append name value => { head with fields := head.fields.append name value }
  | .insert name value => { head with fields := head.fields.insert name value }
  | .erase name => { head with fields := head.fields.eraseOf name }
  | .sign p payload => (p.signInPlace head payload).2

@[simp] theorem apply_sign (head : Head) (p : Profile) (payload : Option Payload) :
    apply head (.sign p payload) = (p.signInPlace head payload).2 := rfl

/-- The head after steps in their order. -/
def run (head : Head) (steps : List Step) : Head := steps.foldl apply head

@[simp] theorem run_nil (head : Head) : run head [] = head := rfl

@[simp] theorem run_cons (head : Head) (step : Step) (steps : List Step) :
    run head (step :: steps) = run (apply head step) steps := rfl

@[simp] theorem run_append (head : Head) (before after : List Step) :
    run head (before ++ after) = run (run head before) after := List.foldl_append

/-! ## 3. One step -/

/-- The values under which the hash of the payload is sent. -/
def hashes (head : Head) : List FieldValue := head.fields.values SigningField.payloadHash

/-- The step takes every hash out. -/
def Clears : Step → Prop
  | .erase name => FieldName.ofText? name = some SigningField.payloadHash
  | .append .. | .insert .. | .sign .. => False

/-- The step puts a hash in: the holder writes one, or a signer that sends it succeeds. -/
def Puts (head : Head) : Step → Prop
  | .append name _ | .insert name _ => name = SigningField.payloadHash
  | .erase _ => False
  | .sign p payload => p.payloadMode ≠ .excluded ∧ (p.signInPlace head payload).1 = .ok ()

end Handling

namespace Profile

variable {p : Profile} {head signed : Head} {payload : Option Payload}

/-- A signer that sends the hash leaves the one that it signed, and no other. -/
theorem hashes_of_signInPlace (h : p.signInPlace head payload = (.ok (), signed))
    (hm : p.payloadMode ≠ .excluded) : ∃ r c v, Request.ofHead head payload = .ok r ∧
      p.canonicalRequest r = .ok c ∧ Handling.hashes signed = [v] ∧
      v.bytes = Utf8.bytes c.payloadHash := by
  obtain ⟨r, hr, hsigned⟩ := signedFrom_of_signHead (signInPlace_eq_ok_iff.1 h)
  obtain ⟨c, v, hc, hv, hbytes⟩ := hsigned.payloadHash hm
  exact ⟨r, c, v, hr, hc, hv, hbytes⟩

/-- A signer that does not send the hash leaves what it finds. -/
theorem hashes_of_signInPlace_excluded (h : p.signInPlace head payload = (.ok (), signed))
    (hm : p.payloadMode = .excluded) : Handling.hashes signed = Handling.hashes head := by
  obtain ⟨r, -, hsigned⟩ := signedFrom_of_signHead (signInPlace_eq_ok_iff.1 h)
  exact hsigned.excluded hm

/-- A signer that fails leaves everything. -/
theorem signInPlace_of_ne_ok (h : (p.signInPlace head payload).1 ≠ .ok ()) :
    (p.signInPlace head payload).2 = head := by
  rw [signInPlace_eq] at h ⊢
  cases hs : p.signHead head payload with
  | error fault => rfl
  | ok signed => rw [hs] at h; exact absurd rfl h

/-- What signing changes of the fields is what it writes. -/
theorem agreeButWritten_signInPlace (p : Profile) (head : Head) (payload : Option Payload) :
    head.fields.AgreeButWritten (p.signInPlace head payload).2.fields ∧
      (p.signInPlace head payload).2.method = head.method ∧
      (p.signInPlace head payload).2.uri = head.uri := by
  rw [signInPlace_eq]
  cases hs : p.signHead head payload with
  | error fault => exact ⟨fun _ _ _ => rfl, rfl, rfl⟩
  | ok signed =>
    obtain ⟨r, -, hsigned⟩ := signedFrom_of_signHead hs
    exact ⟨hsigned.others, hsigned.method, hsigned.uri⟩

end Profile

namespace Handling

theorem hashes_sign_eq_nil_iff (head : Head) (p : Profile) (payload : Option Payload) :
    hashes (p.signInPlace head payload).2 = [] ↔
      hashes head = [] ∧ ¬ Puts head (.sign p payload) := by
  by_cases hok : (p.signInPlace head payload).1 = .ok ()
  · have h : p.signInPlace head payload = (.ok (), (p.signInPlace head payload).2) :=
      Prod.ext hok rfl
    by_cases hm : p.payloadMode = .excluded
    · rw [Profile.hashes_of_signInPlace_excluded h hm]
      exact (and_iff_left fun hput => hput.1 hm).symm
    · obtain ⟨r, c, v, -, -, hv, -⟩ := Profile.hashes_of_signInPlace h hm
      rw [hv]
      exact iff_of_false (List.cons_ne_nil _ _) fun hnone => hnone.2 ⟨hm, hok⟩
  · rw [Profile.signInPlace_of_ne_ok hok]
    exact (and_iff_left fun hput => hok hput.2).symm

/-- **After a step there is no hash** where the step takes it out, or where there was none and the
    step puts none in. -/
theorem hashes_apply_eq_nil_iff (head : Head) (step : Step) : hashes (apply head step) = [] ↔
    Clears step ∨ hashes head = [] ∧ ¬ Puts head step := by
  cases step with
  | append name value =>
    exact (Fields.values_append_eq_nil_iff _ name _ value).trans (or_iff_right id).symm
  | insert name value =>
    exact (Fields.values_insert_eq_nil_iff _ name _ value).trans (or_iff_right id).symm
  | erase name =>
    exact (Fields.values_eraseOf_eq_nil_iff _ _ name).trans
      (or_congr_right (and_iff_left id).symm)
  | sign p payload => exact (hashes_sign_eq_nil_iff head p payload).trans (or_iff_right id).symm

/-! ## 4. All steps of a run -/

/-- No step of the run puts a hash in. -/
def NonePuts : Head → List Step → Prop
  | _, [] => True
  | head, step :: steps => ¬ Puts head step ∧ NonePuts (apply head step) steps

/-- By its steps the run leaves no hash: there was none to begin with, or one of the steps took it
    out, and no later step put one in. -/
def Hashless (head : Head) (steps : List Step) : Prop :=
  (hashes head = [] ∧ NonePuts head steps) ∨ ∃ before step after,
    steps = before ++ step :: after ∧ Clears step ∧ NonePuts (run head (before ++ [step])) after

/-- A run whose first step is known leaves no hash where the others leave none after it. -/
theorem hashless_cons_iff (head : Head) (step : Step) (steps : List Step) :
    Hashless head (step :: steps) ↔ Hashless (apply head step) steps := by
  unfold Hashless
  rw [hashes_apply_eq_nil_iff]
  constructor
  · rintro (⟨hnone, hput, hrest⟩ | ⟨before, s, after, hs, hclears, hrest⟩)
    · exact Or.inl ⟨Or.inr ⟨hnone, hput⟩, hrest⟩
    · cases before with
      | nil =>
        obtain ⟨rfl, rfl⟩ := List.cons.inj hs
        exact Or.inl ⟨Or.inl hclears, hrest⟩
      | cons b before =>
        obtain ⟨rfl, rfl⟩ := List.cons.inj hs
        exact Or.inr ⟨before, s, after, rfl, hclears, hrest⟩
  · rintro (⟨hclears | ⟨hnone, hput⟩, hrest⟩ | ⟨before, s, after, rfl, hclears, hrest⟩)
    · exact Or.inr ⟨[], step, steps, rfl, hclears, hrest⟩
    · exact Or.inl ⟨hnone, hput, hrest⟩
    · exact Or.inr ⟨step :: before, s, after, rfl, hclears, hrest⟩

/-- **A run leaves no hash exactly where its steps say so.** -/
theorem hashes_run_eq_nil_iff (head : Head) (steps : List Step) :
    hashes (run head steps) = [] ↔ Hashless head steps := by
  induction steps generalizing head with
  | nil =>
    refine ⟨fun h => Or.inl ⟨h, trivial⟩, ?_⟩
    rintro (⟨h, -⟩ | ⟨before, step, after, h, -⟩)
    · exact h
    · exact absurd h.symm (List.append_ne_nil_of_right_ne_nil _ (List.cons_ne_nil _ _))
  | cons step steps ih => rw [run_cons, ih, hashless_cons_iff]

end Handling

/-! ## 5. Signing a head that was signed before -/

namespace Profile

/-- What signers write is not read by a signer that does not sign the credential line. -/
theorem canonicalRequest_of_agree {p : Profile} {r : Request} {fs : Fields}
    (h : r.fields.AgreeButWritten fs) (hn : SigningField.authorization ∉ p.signedNames) :
    p.canonicalRequest { r with fields := fs } = p.canonicalRequest r := by
  refine canonicalRequest_congr (Request.signingTime_of_agree h) rfl fun time hash _ _ => ?_
  refine CanonicalRequest.build_congr rfl rfl rfl fun name hname => ?_
  exact Request.role_value_of_agree h (fun he => hn (he ▸ hname)) time hash

/-- So it keeps such a signer from nothing. -/
theorem exists_signInPlace_of_agree {p : Profile} {head head' : Head} {payload : Option Payload}
    {r : Request} {c : CanonicalRequest} (hsend : p.Sendable)
    (hn : SigningField.authorization ∉ p.signedNames) (hr : Request.ofHead head payload = .ok r)
    (hc : p.canonicalRequest r = .ok c) (hagree : head.fields.AgreeButWritten head'.fields)
    (hmethod : head'.method = head.method) (huri : head'.uri = head.uri) :
    ∃ signed, p.signInPlace head' payload = (.ok (), signed) := by
  obtain ⟨hfields, hwritten⟩ := Request.ofHead_fields hr
  have hhead : head' = { head with fields := head'.fields } := by
    cases head'
    cases hmethod
    cases huri
    rfl
  have hc' : p.canonicalRequest { r with fields := head'.fields } = .ok c :=
    (canonicalRequest_of_agree (hfields ▸ hagree) hn).trans hc
  have hr' : Request.ofHead head' payload = .ok { r with fields := head'.fields } := by
    rw [hhead]
    exact hwritten _
  obtain ⟨halgorithm, hkey, hregion, hservice⟩ := sendable_iff.1 hsend
  obtain ⟨signed, hs⟩ := exists_signHead hr' hc' halgorithm hkey hregion hservice
  exact ⟨signed, signInPlace_eq_ok_iff.2 hs⟩

end Profile

namespace Handling

/-- A signer of the given mode. -/
def signer (mode : PayloadMode) : Profile := Trial.profile "region" Trial.originAndTime mode

/-- The head that is handed around. -/
def fresh : Head := Trial.head [Trial.timeField]

/-- A body of one byte. -/
def body (byte : UInt8) : Option Payload := some (.ofData [byte])

/-- Two signers with a body each can sign the head whatever signers wrote to it before. -/
theorem exists_signInPlace_fresh (head : Head) (hagree : fresh.fields.AgreeButWritten head.fields)
    (hmethod : head.method = fresh.method) (huri : head.uri = fresh.uri) :
    (∃ signed, (signer .included).signInPlace head (body 1) = (.ok (), signed)) ∧
      ∃ signed, (signer .excluded).signInPlace head (body 2) = (.ok (), signed) := by
  have hsend : ∀ mode, (signer mode).Sendable := fun mode => by cases mode <;> decide
  have hnames : ∀ mode, SigningField.authorization ∉ (signer mode).signedNames :=
    fun mode => by cases mode <;> decide
  have hrequest : ∀ byte, Request.ofHead fresh (body byte) =
      .ok { Trial.request [Trial.timeField] with payload := body byte } := fun _ => rfl
  constructor
  · have hc : ∃ c, (signer .included).canonicalRequest
        { Trial.request [Trial.timeField] with payload := body 1 } = .ok c := by decide +kernel
    obtain ⟨c, hc⟩ := hc
    exact Profile.exists_signInPlace_of_agree (hsend _) (hnames _) (hrequest 1) hc hagree hmethod
      huri
  · have hc : ∃ c, (signer .excluded).canonicalRequest
        { Trial.request [Trial.timeField] with payload := body 2 } = .ok c := by decide +kernel
    obtain ⟨c, hc⟩ := hc
    exact Profile.exists_signInPlace_of_agree (hsend _) (hnames _) (hrequest 2) hc hagree hmethod
      huri

/-- The holder takes the hash out, in another case of its name. -/
def clearing : Step := .erase "X-Amz-Content-Sha256"

theorem clears_clearing : Clears clearing := by
  show FieldName.ofText? "X-Amz-Content-Sha256" = some SigningField.payloadHash
  decide

theorem method_apply_clearing (head : Head) : (apply head clearing).method = head.method := rfl

theorem uri_apply_clearing (head : Head) : (apply head clearing).uri = head.uri := rfl

theorem agreeButWritten_clearing {fs : Fields} {head : Head}
    (h : fs.AgreeButWritten head.fields) : fs.AgreeButWritten (apply head clearing).fields := by
  have hname : FieldName.ofText? "X-Amz-Content-Sha256" = some SigningField.payloadHash :=
    clears_clearing
  have herase : (apply head clearing).fields = head.fields.erase SigningField.payloadHash := by
    show head.fields.eraseOf "X-Amz-Content-Sha256" = _
    unfold Fields.eraseOf
    rw [hname]
  intro name ha hp
  rw [herase, Fields.values_erase_of_ne _ hp, h name ha hp]

/-! ## 6. The hash right after a signing -/

/-- **The hash right after any signing of any run.** A signer that sends the hash leaves the one of
    the canonical request that it signed, and no other. One that does not send it leaves what it
    finds, so there is none exactly where the run has left none before. -/
theorem hash_after_signing {head signed : Head} {before : List Step} {p : Profile}
    {payload : Option Payload} (h : p.signInPlace (run head before) payload = (.ok (), signed)) :
    run head (before ++ [.sign p payload]) = signed ∧
      (p.payloadMode ≠ .excluded → ∃ r c v, Request.ofHead (run head before) payload = .ok r ∧
        p.canonicalRequest r = .ok c ∧ hashes signed = [v] ∧ v.bytes = Utf8.bytes c.payloadHash) ∧
      (p.payloadMode = .excluded → hashes signed = hashes (run head before) ∧
        (hashes signed = [] ↔ Hashless head before)) := by
  refine ⟨?_, Profile.hashes_of_signInPlace h, fun hm => ?_⟩
  · rw [run_append]
    exact congrArg Prod.snd h
  · have hkept := Profile.hashes_of_signInPlace_excluded h hm
    exact ⟨hkept, by rw [hkept, hashes_run_eq_nil_iff]⟩

/-- The same two signers one after the other, and the holder takes the hash out between them. -/
theorem hash_after_signing_cleared : ∃ signed,
    (signer .excluded).signInPlace
        (run fresh [.sign (signer .included) (body 1), clearing]) (body 2) = (.ok (), signed) ∧
      hashes signed = [] := by
  obtain ⟨hagree, hmethod, huri⟩ :=
    (signer .included).agreeButWritten_signInPlace fresh (body 1)
  have hrun : run fresh [.sign (signer .included) (body 1), clearing] =
      apply ((signer .included).signInPlace fresh (body 1)).2 clearing := by
    rw [run_cons, run_cons, run_nil, apply_sign]
  obtain ⟨signed, h⟩ := (exists_signInPlace_fresh _ (agreeButWritten_clearing hagree)
    ((method_apply_clearing _).trans hmethod) ((uri_apply_clearing _).trans huri)).2
  rw [← hrun] at h
  refine ⟨signed, h, ((hash_after_signing h).2.2 rfl).2.2 ?_⟩
  exact Or.inr ⟨[.sign (signer .included) (body 1)], _, [], rfl, clears_clearing, trivial⟩

/-- A signer that does not send the hash signs a head that another signer has signed with a body of
    its own. The hash of that body is still there. -/
theorem excluded_leaves_hash : ¬ ∀ (head signed : Head) (before : List Step) (p : Profile)
    (payload : Option Payload), p.signInPlace (run head before) payload = (.ok (), signed) →
      p.payloadMode = .excluded → hashes signed = [] := by
  intro hall
  obtain ⟨first, hfirst⟩ := (exists_signInPlace_fresh fresh (fun _ _ _ => rfl) rfl rfl).1
  obtain ⟨hagree, hmethod, huri⟩ :=
    (signer .included).agreeButWritten_signInPlace fresh (body 1)
  rw [hfirst] at hagree hmethod huri
  obtain ⟨second, hsecond⟩ := (exists_signInPlace_fresh _ hagree hmethod huri).2
  have hrun : run fresh [.sign (signer .included) (body 1)] = first := by
    rw [run_cons, run_nil, apply_sign, hfirst]
  have hnone := hall fresh second [.sign (signer .included) (body 1)] (signer .excluded) (body 2)
    (by rw [hrun, hsecond]) rfl
  rw [Profile.hashes_of_signInPlace_excluded hsecond rfl] at hnone
  obtain ⟨r, c, v, -, -, hv, -⟩ := Profile.hashes_of_signInPlace hfirst nofun
  rw [hv] at hnone
  cases hnone

end Handling

end Countersign
