import Countersign.Text.Hex

/-!
# JSON documents

A reader of JSON text as far as settings need it: what a document holds, with the members of an
object in their order and repetitions kept, and numbers recognised but not valued.

* `Lexer` cuts the text into tokens, one character at a time;
* `Assembly` puts the tokens together, one token at a time, with the open arrays and objects on a
  stack, so nesting has no limit;
* `Json.parse?` is the two together.

A string may spell half of a surrogate pair by an escape. Such a string is no text, but it is a
string: it is read as `text none`.
-/

namespace Countersign.Text

/-! ## 1. Values -/

/-- A JSON value. -/
inductive Json
  | null
  | truth (b : Bool)
  | number
  /-- A string, and its text where it is one. -/
  | text (content : Option String)
  | list (items : List Json)
  | object (members : List (Option String × Json))

namespace Json

/-! ## 2. Tokens -/

/-- A token of JSON text. -/
inductive Token
  | openList
  | closeList
  | openObject
  | closeObject
  | comma
  | colon
  | scalar (value : Json)

/-- Space, tab, line feed or carriage return. -/
def isSpace (c : Char) : Bool := c == ' ' || c == '\t' || c == '\n' || c == '\r'

/-- The token that one character is by itself. -/
def mark? (c : Char) : Option Token :=
  if c = '[' then some .openList
  else if c = ']' then some .closeList
  else if c = '\x7B' then some .openObject
  else if c = '\x7D' then some .closeObject
  else if c = ',' then some .comma
  else if c = ':' then some .colon
  else none

/-- One or more decimal digits. -/
def isDigits (cs : List Char) : Bool := !cs.isEmpty && cs.all Char.isDigit

/-- An exponent after its `e`: an optional sign and digits. -/
def isExponent : List Char → Bool
  | '+' :: cs => isDigits cs
  | '-' :: cs => isDigits cs
  | cs => isDigits cs

/-- What may follow the whole part of a number: a fraction, an exponent, both or nothing. -/
def isNumberTail (cs : List Char) : Bool :=
  let isMark := fun c => c == 'e' || c == 'E'
  let fraction := cs.takeWhile fun c => !isMark c
  let fractionOk := match fraction with
    | [] => true
    | c :: ds => c == '.' && isDigits ds
  let exponentOk := match cs.dropWhile fun c => !isMark c with
    | [] => true
    | _ :: ds => isExponent ds
  fractionOk && exponentOk

/-- A number without its sign: no zero stands before another digit of the whole part. -/
def isUnsigned (cs : List Char) : Bool :=
  let whole := cs.takeWhile Char.isDigit
  (whole == ['0'] || (isDigits whole && whole.head? != some '0'))
    && isNumberTail (cs.dropWhile Char.isDigit)

/-- A number. -/
def isNumber : List Char → Bool
  | '-' :: cs => isUnsigned cs
  | cs => isUnsigned cs

/-- The value of a word that stands outside quotes. -/
def word? (cs : List Char) : Option Json :=
  if cs = ['n', 'u', 'l', 'l'] then some .null
  else if cs = ['t', 'r', 'u', 'e'] then some (.truth true)
  else if cs = ['f', 'a', 'l', 's', 'e'] then some (.truth false)
  else if isNumber cs then some .number
  else none

/-! ## 3. Strings -/

/-- The text of code units in order, where every surrogate has its partner. -/
def pairUp : List Nat → Option (List Char)
  | [] => some []
  | u :: us =>
    if 0xD800 ≤ u ∧ u < 0xDC00 then
      match us with
      | [] => none
      | v :: vs =>
        if 0xDC00 ≤ v ∧ v < 0xE000 then
          (pairUp vs).map (Char.ofNat (0x10000 + (u - 0xD800) * 0x400 + (v - 0xDC00)) :: ·)
        else none
    else if 0xDC00 ≤ u ∧ u < 0xE000 then none
    else (pairUp us).map (Char.ofNat u :: ·)

/-- The value of a string from its code units. -/
def ofUnits (units : List Nat) : Json := .text ((pairUp units).map String.ofList)

/-- The code unit of an escape of one letter. -/
def escape? (c : Char) : Option Nat :=
  if c = '\x22' || c = '\x5C' || c = '/' then some c.toNat
  else if c = 'b' then some 8
  else if c = 'f' then some 12
  else if c = 'n' then some 10
  else if c = 'r' then some 13
  else if c = 't' then some 9
  else none

/-! ## 4. Cutting text into tokens -/

/-- Where the lexer stands. What it has collected is kept with the last one first. -/
inductive Place
  /-- Between tokens. -/
  | between
  /-- In a word outside quotes. -/
  | word (chars : List Char)
  /-- In a string. -/
  | string (units : List Nat)
  /-- In a string, after a backslash. -/
  | escape (units : List Nat)
  /-- In a string, in an escape by number that still owes digits. -/
  | unit (units : List Nat) (owed value : Nat)

/-- The tokens so far, the last one first, and where the lexer stands. -/
structure Lexer where
  tokens : List Token
  place : Place

/-- The lexer between tokens, where a word that has just ended is a token. -/
def Lexer.close? (l : Lexer) : Option Lexer :=
  match l.place with
  | .between => some l
  | .word chars => (word? chars.reverse).map fun v => ⟨.scalar v :: l.tokens, .between⟩
  | _ => none

/-- One character outside strings. -/
def Lexer.plain? (l : Lexer) (c : Char) : Option Lexer :=
  match mark? c with
  | some t => l.close?.map fun l => ⟨t :: l.tokens, .between⟩
  | none =>
    if isSpace c then l.close?
    else if c = '\x22' then l.close?.map fun l => ⟨l.tokens, .string []⟩
    else
      match l.place with
      | .word chars => some ⟨l.tokens, .word (c :: chars)⟩
      | _ => some ⟨l.tokens, .word [c]⟩

/-- One character. -/
def Lexer.step? (l : Lexer) (c : Char) : Option Lexer :=
  match l.place with
  | .string units =>
    if c = '\x22' then some ⟨.scalar (ofUnits units.reverse) :: l.tokens, .between⟩
    else if c = '\x5C' then some ⟨l.tokens, .escape units⟩
    else if c.toNat < 32 then none
    else some ⟨l.tokens, .string (c.toNat :: units)⟩
  | .escape units =>
    if c = 'u' then some ⟨l.tokens, .unit units 3 0⟩
    else (escape? c).map fun u => ⟨l.tokens, .string (u :: units)⟩
  | .unit units owed value =>
    match digitValue? c, owed with
    | none, _ => none
    | some d, 0 => some ⟨l.tokens, .string ((16 * value + d) :: units)⟩
    | some d, owed + 1 => some ⟨l.tokens, .unit units owed (16 * value + d)⟩
  | _ => l.plain? c

/-- The tokens of a text, in order. -/
def tokens? (cs : List Char) : Option (List Token) :=
  (cs.foldlM Lexer.step? ⟨[], .between⟩).bind fun l => l.close?.map fun l => l.tokens.reverse

/-! ## 5. Putting tokens together -/

/-- An array or object that is open, with what it holds so far, the last one first. -/
inductive Frame
  | list (items : List Json)
  | object (members : List (Option String × Json))
  /-- An object whose last key still lacks its value. -/
  | member (members : List (Option String × Json)) (key : Option String)

/-- What may come next. -/
inductive Expect
  /-- A value. -/
  | value
  /-- A value, or the end of the array that has just been opened. -/
  | item
  /-- A key, or the end of the object that has just been opened. -/
  | member
  /-- A key. -/
  | key
  /-- The colon behind a key. -/
  | colon
  /-- A comma or the end of what is open; the end of the text where nothing is. -/
  | more (last : Json)

/-- A document half put together: what is open, the innermost first, and what may come next. -/
structure Assembly where
  stack : List Frame
  expect : Expect

/-- A finished value in the place where one was expected. -/
def Assembly.put (stack : List Frame) (v : Json) : Assembly :=
  match stack with
  | .list items :: rest => ⟨.list (v :: items) :: rest, .more v⟩
  | .member members key :: rest => ⟨.object ((key, v) :: members) :: rest, .more v⟩
  | stack => ⟨stack, .more v⟩

/-- The innermost array, finished. -/
def Assembly.closeList? : List Frame → Option Assembly
  | .list items :: rest => some (.put rest (.list items.reverse))
  | _ => none

/-- The innermost object, finished. -/
def Assembly.closeObject? : List Frame → Option Assembly
  | .object members :: rest => some (.put rest (.object members.reverse))
  | _ => none

/-- A token where a value may begin. -/
def Assembly.value? (stack : List Frame) : Token → Option Assembly
  | .scalar v => some (.put stack v)
  | .openList => some ⟨.list [] :: stack, .item⟩
  | .openObject => some ⟨.object [] :: stack, .member⟩
  | _ => none

/-- A token where a key must stand. -/
def Assembly.key? : List Frame → Token → Option Assembly
  | .object members :: rest, .scalar (.text key) => some ⟨.member members key :: rest, .colon⟩
  | _, _ => none

/-- One token. -/
def Assembly.step? (a : Assembly) (t : Token) : Option Assembly :=
  match a.expect, t with
  | .value, t => Assembly.value? a.stack t
  | .item, .closeList => Assembly.closeList? a.stack
  | .item, t => Assembly.value? a.stack t
  | .member, .closeObject => Assembly.closeObject? a.stack
  | .member, t => Assembly.key? a.stack t
  | .key, t => Assembly.key? a.stack t
  | .colon, .colon => some ⟨a.stack, .value⟩
  | .colon, _ => none
  | .more _, .closeList => Assembly.closeList? a.stack
  | .more _, .closeObject => Assembly.closeObject? a.stack
  | .more _, .comma =>
    match a.stack with
    | .list _ :: _ => some ⟨a.stack, .value⟩
    | .object _ :: _ => some ⟨a.stack, .key⟩
    | _ => none
  | .more _, _ => none

/-- The value of a document that is put together. -/
def Assembly.result? (a : Assembly) : Option Json :=
  match a.stack, a.expect with
  | [], .more v => some v
  | _, _ => none

/-- The value of a JSON text. -/
def parse? (s : String) : Option Json :=
  (tokens? s.toList).bind fun ts =>
    (ts.foldlM Assembly.step? ⟨[], .value⟩).bind Assembly.result?

end Json

end Countersign.Text
