import Countersign.Proofs.Signing.Stages

/-!
# What the stages show is what is signed

The canonical request, the text that is signed, the signature and the credential line of a request
can be asked for one by one. They belong together: what one of them shows is what the next is made
of.

* `Profile.Accounts` -- a canonical request and a text account for a signature and a credential
  line;
* `Profile.accounts_of_prepared` -- those of one request do;
* `Profile.stages_agree` -- the four fail together and with one fault, or the first two account for
  the last two.
-/

namespace Countersign.Profile

open Countersign.Text Countersign.Calendar Countersign.Digest

/-- The canonical request and the text account for the signature and the credential line: everything
    that went into these can be read off the two, the profile and the signature itself. -/
structure Accounts (p : Profile) (c : CanonicalRequest) (text : String) (s : Signature)
    (line : String) : Prop where
  /-- The text of a canonical request is its six parts, one below the other. -/
  joined : c.text = "\n".intercalate c.parts
  /-- What is signed is four lines, the last one the hash of the canonical request. -/
  signed : text = "\n".intercalate
    [p.algorithm, Timestamp.format s.time, s.scope, hexSha256 (Utf8.bytes c.text)]
  signedFields : c.parts[4]? = some p.signedFields
  payloadHash : c.parts[5]? = some s.payloadHash
  scope : s.scope = "/".intercalate
    [Timestamp.formatDate s.time, p.region, p.service, "aws4_request"]
  signature : s.text = hexHmacSha256
    (SigningKey.derive p.secretAccessKey s.time p.region p.service).bytes (Utf8.bytes text)
  credential : line = renderAuthorization p.algorithm p.accessKeyId s.scope p.signedFields s.text

theorem signedText_eq (algorithm : String) (time : Instant) (scope : String)
    (c : CanonicalRequest) : signedText algorithm time scope c = "\n".intercalate
      [algorithm, Timestamp.format time, scope, hexSha256 (Utf8.bytes c.text)] := by
  unfold signedText
  generalize Timestamp.format time = instant, hexSha256 (Utf8.bytes c.text) = hash
  rfl

theorem credentialScope_eq (time : Instant) (region service : String) :
    credentialScope time region service = "/".intercalate
      [Timestamp.formatDate time, region, service, "aws4_request"] := by
  unfold credentialScope
  generalize Timestamp.formatDate time = date
  rfl

variable {p : Profile} {r : Request}

/-- The names and the hash of a canonical request are those it was made with. -/
theorem parts_of_build {time : Instant} {hash : String} {c : CanonicalRequest}
    (h : CanonicalRequest.build p r time hash = .ok c) :
    c.parts[4]? = some p.signedFields ∧ c.parts[5]? = some hash := by
  obtain ⟨path, block, -, -, rfl⟩ := CanonicalRequest.build_eq_ok_iff.1 h
  exact ⟨rfl, rfl⟩

theorem accounts_of_prepared {prepared : Prepared} (h : p.prepare r = .ok prepared) :
    Accounts p prepared.canonical prepared.stringToSign (p.signatureOf prepared)
      (p.credentialLine (p.signatureOf prepared)) := by
  obtain ⟨time, hash, c, -, -, hc, rfl⟩ := prepare_eq_ok_iff.1 h
  obtain ⟨hfields, hhash⟩ := parts_of_build hc
  exact
    { joined := rfl
      signed := signedText_eq p.algorithm time _ c
      signedFields := hfields
      payloadHash := hhash
      scope := credentialScope_eq time p.region p.service
      signature := rfl
      credential := rfl }

/-- **All stages fail with one fault, or what the first ones show is what the last ones are made
    of.** The time of the signature is the one that the request carries. -/
theorem stages_agree (p : Profile) (r : Request) :
    (∃ fault, p.canonicalRequest r = .error fault ∧ p.stringToSign r = .error fault ∧
        p.sign r = .error fault ∧ p.authorization r = .error fault) ∨
      ∃ c text s line, p.canonicalRequest r = .ok c ∧ p.stringToSign r = .ok text ∧
        p.sign r = .ok s ∧ p.authorization r = .ok line ∧ r.signingTime = .ok s.time ∧
        Accounts p c text s line := by
  rw [canonicalRequest_eq, sign_eq, authorization_eq]
  unfold stringToSign
  cases h : p.prepare r with
  | error fault => exact Or.inl ⟨fault, rfl, rfl, rfl, rfl⟩
  | ok prepared =>
    obtain ⟨time, hash, c, ht, -, -, rfl⟩ := prepare_eq_ok_iff.1 h
    exact Or.inr ⟨_, _, _, _, rfl, rfl, rfl, rfl, ht, accounts_of_prepared h⟩

/-- All stages come to a result for a request with a time and an empty body. -/
theorem stages_agree_emptyBody :
    let p := Trial.profile "region" Trial.originAndTime .included
    let r := Trial.request [Trial.timeField]
    let c : CanonicalRequest :=
      ⟨"GET", "/", "", "origin:\nx-amz-date:20150830T123600Z\n", "origin;x-amz-date", hexSha256 []⟩
    p.canonicalRequest r = .ok c ∧ ∃ text s line, p.stringToSign r = .ok text ∧
      p.sign r = .ok s ∧ p.authorization r = .ok line ∧ s.time = Trial.time ∧
      Accounts p c text s line := by
  intro p r c
  have hc : p.canonicalRequest r = .ok c := by decide +kernel
  have htime : r.signingTime = .ok Trial.time := by decide +kernel
  rcases stages_agree p r with ⟨fault, hfault, -⟩ |
    ⟨found, text, s, line, hfound, htext, hs, hline, hread, haccounts⟩
  · cases hc.symm.trans hfault
  · rw [Except.ok.inj (hfound.symm.trans hc)] at haccounts
    exact ⟨hc, text, s, line, htext, hs, hline, Except.ok.inj (hread.symm.trans htime), haccounts⟩

end Countersign.Profile
