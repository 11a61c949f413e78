import Countersign.Http.Token

/-!
# Schemes and authorities

The authority of a target is `userinfo@host:port`, of which only the host must be there. A text is
an authority when `Authority.scan` runs through it: a scan looks at each character once and
remembers the colons since the last `@` or `]`, the brackets, and whether a `%` still waits for the
`@` that would make it part of the user information.

* `Authority.host` -- what lies behind the last `@`, up to the port; brackets are kept;
* `Authority.port?` -- the number behind the last colon, where there is one below 65536;
* `Scheme.defaultPort` -- the port that a scheme stands for.
-/

namespace Countersign.Http

/-! ## 1. Schemes -/

/-- The scheme of a target. -/
inductive Scheme
  | http
  | https
  | other (name : String)
  deriving Repr, DecidableEq

namespace Scheme

/-- The scheme as text. -/
def text : Scheme → String
  | .http => "http"
  | .https => "https"
  | .other name => name

/-- The port a scheme stands for; 0 for a scheme that has none of its own. -/
def defaultPort : Scheme → Nat
  | .http => 80
  | .https => 443
  | .other _ => 0

end Scheme

/-! ## 2. Faults of a target -/

/-- Why bytes are no target. -/
inductive UriFault
  | tooLong
  | empty
  | badCharacter
  | badAuthority
  | schemeTooLong
  | badFormat
  deriving Repr, DecidableEq

/-- The wording of a fault. -/
def UriFault.message : UriFault → String
  | .tooLong => "uri too long"
  | .empty => "empty string"
  | .badCharacter => "invalid uri character"
  | .badAuthority => "invalid authority"
  | .schemeTooLong => "scheme too long"
  | .badFormat => "invalid format"

/-! ## 3. Authorities -/

/-- The marks that may stand in an authority. -/
def authorityMarks : List Char := [
  '!', '$', '&', '\x27', '(', ')', '*', '+', ',', '-', '.', ':', ';', '=', '@', '[', ']', '_', '~',
  '%']

/-- A letter, a digit or an authority mark. -/
def isAuthorityChar (c : Char) : Bool := c.isAlphanum || authorityMarks.contains c

/-- The greatest number of colons in a row of parts. -/
def maxColons : Nat := 8

namespace Authority

/-- What a scan remembers of the characters before. -/
structure Scan where
  /-- The colons since the last `@` or `]`. -/
  colons : Nat
  opened : Bool
  closed : Bool
  /-- A `%` was seen since the last `@` or `]`. -/
  pending : Bool
  /-- The last character was an `@`. -/
  atSign : Bool
  deriving Repr, DecidableEq

/-- The scan before the first character. -/
def Scan.fresh : Scan := ⟨0, false, false, false, false⟩

/-- One character. -/
def Scan.step (s : Scan) (c : Char) : Except UriFault Scan :=
  if !isAuthorityChar c then .error .badCharacter
  else
    let s := { s with atSign := false }
    if c = ':' then
      if s.colons < maxColons then .ok { s with colons := s.colons + 1 } else .error .badAuthority
    else if c = '[' then
      if s.pending || s.opened then .error .badAuthority else .ok { s with opened := true }
    else if c = ']' then
      if !s.opened || s.closed then .error .badAuthority
      else .ok { s with closed := true, colons := 0, pending := false }
    else if c = '@' then .ok { s with colons := 0, pending := false, atSign := true }
    else if c = '%' then .ok { s with pending := true }
    else .ok s

/-- The scan of a whole text. -/
def scan (cs : List Char) : Except UriFault Scan := cs.foldlM Scan.step .fresh

/-- The scan may end here: brackets are closed, at most one colon is open, and neither an `@` nor a
    `%` waits for what follows it. -/
def Scan.mayEnd (s : Scan) : Bool :=
  s.opened == s.closed && s.colons ≤ 1 && !s.atSign && !s.pending

/-- The first fault of a text as an authority. -/
def check (cs : List Char) : Except UriFault Unit :=
  match scan cs with
  | .error f => .error f
  | .ok s => if s.mayEnd then .ok () else .error .badAuthority

/-- The text is an authority. -/
def isLegal (cs : List Char) : Bool :=
  match check cs with
  | .ok () => !cs.isEmpty
  | .error _ => false

end Authority

/-- The authority of a target. -/
structure Authority where
  text : String
  legal : Authority.isLegal text.toList = true
  deriving DecidableEq

namespace Authority

/-- The authority spelled by the characters, or the first fault; an empty text is of no format. -/
def ofChars (cs : List Char) : Except UriFault Authority :=
  if h : isLegal cs then .ok ⟨String.ofList cs, by rw [String.toList_ofList]; exact h⟩
  else
    match check cs with
    | .error f => .error f
    | .ok () => .error .badFormat

/-- What lies behind the last occurrence of `c`; the whole text where there is none. -/
def afterLast (c : Char) (cs : List Char) : List Char := (cs.splitOn c).getLastD []

/-- What lies behind the user information. -/
def hostPort (a : Authority) : List Char := afterLast '@' a.text.toList

/-- The host of characters without user information: a bracketed one with its brackets, another one
    up to its first colon. -/
def hostOf : List Char → List Char
  | '[' :: cs => '[' :: cs.takeWhile (· != ']') ++ [']']
  | cs => cs.takeWhile (· != ':')

/-- The host, in its own case. -/
def host (a : Authority) : String := String.ofList (hostOf a.hostPort)

/-- The number that decimal digits stand for, at most 65535; one plus sign may stand before them. -/
def portNumber? (cs : List Char) : Option Nat :=
  let digits := match cs with
    | '+' :: ds => ds
    | ds => ds
  if digits.isEmpty || !digits.all Char.isDigit then none
  else
    let n := digits.foldl (fun n c => 10 * n + (c.toNat - 48)) 0
    if n ≤ 65535 then some n else none

/-- The port, where the text behind the last colon is one. -/
def port? (a : Authority) : Option Nat :=
  if a.text.toList.contains ':' then portNumber? (afterLast ':' a.text.toList) else none

end Authority

end Countersign.Http
