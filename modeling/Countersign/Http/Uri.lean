import Countersign.Http.Authority
import Countersign.Text.Utf8

/-!
# Targets

The target of a request: a scheme, an authority, a path and a query. Three forms occur.

* `scheme://authority/path?query` -- the path may be missing and reads as `/` then;
* `authority` alone -- the path is empty and there is no query;
* `/path?query`, and `*` -- no scheme and no authority.

A fragment behind `#` is dropped unread. Path and query are text: bytes from 0x80 on are allowed
where they are UTF-8, other bytes by `isPathChar` and `isQueryChar`.
-/

namespace Countersign.Http

open Countersign.Text

/-! ## 1. Characters -/

/-- A character that may stand in a path: ASCII without controls, blanks, and eight marks; and
    everything outside ASCII. -/
def isPathChar (c : Char) : Bool :=
  let n := c.toNat
  n == 0x21 || (0x24 ≤ n && n ≤ 0x3B) || n == 0x3D || (0x40 ≤ n && n ≤ 0x5F)
    || (0x61 ≤ n && n ≤ 0x7A) || n == 0x7C || n == 0x7E || n == 0x22 || n == 0x7B || n == 0x7D
    || 0x80 ≤ n

/-- A character that may stand in a query. -/
def isQueryChar (c : Char) : Bool :=
  let n := c.toNat
  n == 0x21 || (0x24 ≤ n && n ≤ 0x3B) || n == 0x3D || (0x3F ≤ n && n ≤ 0x7E) || 0x80 ≤ n

/-- A byte that may stand in a scheme. -/
def isSchemeByte (b : UInt8) : Bool :=
  let c := Char.ofNat b.toNat
  c.isAlphanum || c == '+' || c == '.' || c == '~' || c == '-'

/-! ## 2. Path and query -/

/-- The path of a target and its query, where it has one. -/
structure PathQuery where
  path : String
  query : Option String
  pathLegal : path.toList.all isPathChar = true
  queryLegal : ∀ q, query = some q → q.toList.all isQueryChar = true
  deriving DecidableEq

namespace PathQuery

/-- A path without query. -/
def bare (path : String) (h : path.toList.all isPathChar = true) : PathQuery :=
  ⟨path, none, h, nofun⟩

/-- The path and query of characters: the query begins behind the first question mark, and an empty
    path reads as `/`. -/
def ofChars (cs : List Char) : Except UriFault PathQuery :=
  let path := match cs.takeWhile (· != '?') with
    | [] => ['/']
    | p :: ps => p :: ps
  if hp : path.all isPathChar then
    match cs.dropWhile (· != '?') with
    | [] => .ok (bare (String.ofList path) (by rw [String.toList_ofList]; exact hp))
    | _ :: query =>
      if hq : query.all isQueryChar then
        .ok ⟨String.ofList path, some (String.ofList query), by rw [String.toList_ofList]; exact hp,
          by rintro q ⟨⟩; rw [String.toList_ofList]; exact hq⟩
      else .error .badCharacter
  else .error .badCharacter

/-- The path and query of bytes, without the fragment. -/
def ofBytes (bytes : List UInt8) : Except UriFault PathQuery :=
  match Utf8.decode (bytes.takeWhile (· != 0x23)) with
  | .ok s => ofChars s.toList
  | .error _ => .error .badCharacter

end PathQuery

/-! ## 3. Targets -/

/-- The target of a request. -/
structure Uri where
  scheme : Option Scheme
  authority : Option Authority
  pathQuery : PathQuery
  deriving DecidableEq

namespace Uri

/-- The greatest length of a target in bytes. -/
def maxLength : Nat := 65534

/-- The greatest length of a scheme. -/
def maxSchemeLength : Nat := 64

/-- The path. -/
def path (u : Uri) : String := u.pathQuery.path

/-- The query, where there is one. -/
def query (u : Uri) : Option String := u.pathQuery.query

/-- The target as text. -/
def text (u : Uri) : String :=
  (match u.scheme with
    | some s => s.text ++ "://"
    | none => "")
  ++ (match u.authority with
    | some a => a.text
    | none => "")
  ++ u.path
  ++ (match u.query with
    | some q => "?" ++ q
    | none => "")

/-- The bytes start with the given text, in any ASCII case. -/
def startsWith (bytes : List UInt8) (text : List Char) : Bool :=
  text.isPrefixOf ((latinChars (bytes.take text.length)).map Char.toLower)

/-- The scheme at the start of the bytes and what follows its `://`. -/
def readScheme (bytes : List UInt8) : Except UriFault (Option Scheme × List UInt8) :=
  if startsWith bytes ['h', 't', 't', 'p', ':', '/', '/'] then .ok (some .http, bytes.drop 7)
  else if startsWith bytes ['h', 't', 't', 'p', 's', ':', '/', '/'] then
    .ok (some .https, bytes.drop 8)
  else if bytes.length ≤ 3 then .ok (none, bytes)
  else
    let name := bytes.takeWhile isSchemeByte
    match bytes.dropWhile isSchemeByte with
    | 0x3A :: 0x2F :: 0x2F :: rest =>
      if name.length ≤ maxSchemeLength then
        .ok (some (.other (String.ofList (latinChars name))), rest)
      else .error .schemeTooLong
    | _ => .ok (none, bytes)

/-- The byte ends an authority: a slash, a question mark or a hash. -/
def endsAuthority (b : UInt8) : Bool := b == 0x2F || b == 0x3F || b == 0x23

/-- A target of one byte that is neither `/` nor `*`: an authority. -/
def ofByte (b : UInt8) : Except UriFault Uri :=
  if endsAuthority b then .error .badCharacter
  else (Authority.ofChars (latinChars [b])).map fun a => ⟨none, some a, .bare "" rfl⟩

/-- What follows a scheme, or the whole target where there is none. -/
def afterScheme (scheme : Option Scheme) (rest : List UInt8) : Except UriFault Uri :=
  if rest.isEmpty then .error .empty
  else do
    let name := rest.takeWhile fun b => !endsAuthority b
    let authority ← Authority.ofChars (latinChars name)
    match scheme with
    | none =>
      if name.length = rest.length then .ok ⟨none, some authority, .bare "" rfl⟩
      else .error .badFormat
    | some s =>
      let pathQuery ← PathQuery.ofBytes (rest.drop name.length)
      .ok ⟨some s, some authority, pathQuery⟩

/-- The target that the bytes spell, or the first fault in them. -/
def ofBytes (bytes : List UInt8) : Except UriFault Uri :=
  if maxLength < bytes.length then .error .tooLong
  else
    match bytes with
    | [] => .error .empty
    | [0x2F] => .ok ⟨none, none, .bare "/" (by decide)⟩
    | [0x2A] => .ok ⟨none, none, .bare "*" (by decide)⟩
    | [b] => ofByte b
    | 0x2F :: rest => (PathQuery.ofBytes (0x2F :: rest)).map fun pq => ⟨none, none, pq⟩
    | bytes => do
      let (scheme, rest) ← readScheme bytes
      afterScheme scheme rest

end Uri

end Countersign.Http
