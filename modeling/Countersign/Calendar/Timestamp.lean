import Countersign.Calendar.Instant
import Countersign.Text.Blank

/-!
# Timestamps

The basic form of date and time, `yyyyMMddTHHmmssZ`, and of the date alone, `yyyyMMdd`.

Writing gives the year four digits; a year before 0 or after 9999 has a sign and at least four
digits. Reading is more generous than writing:

* blanks may stand before every number;
* the year has one to four digits, or a sign and any number of digits;
* the other numbers have one or two digits.
-/

namespace Countersign.Calendar.Timestamp

open Countersign.Text

/-! ## 1. Writing -/

/-- A number in decimal digits, with zeros before it up to `width`. -/
def padded (width n : Nat) : List Char :=
  let digits := Nat.toDigits 10 n
  List.replicate (width - digits.length) '0' ++ digits

/-- A year: four digits from 0 to 9999, else a sign and at least four digits. -/
def year (y : Int) : List Char :=
  if 0 ≤ y ∧ y ≤ 9999 then padded 4 y.toNat
  else (if y < 0 then '-' else '+') :: padded 4 y.natAbs

/-- A date, `yyyyMMdd`. -/
def dateChars (d : Date) : List Char := year d.year ++ padded 2 d.month ++ padded 2 d.day

/-- An instant, `yyyyMMddTHHmmssZ`. -/
def instantChars (t : Instant) : List Char :=
  dateChars t.date ++ ['T'] ++ padded 2 t.hour ++ padded 2 t.minute ++ padded 2 t.shownSecond
    ++ ['Z']

/-- The text of the date of an instant, `yyyyMMdd`. -/
def formatDate (t : Instant) : String := String.ofList (dateChars t.date)

/-- The text of an instant, `yyyyMMddTHHmmssZ`. -/
def format (t : Instant) : String := String.ofList (instantChars t)

@[simp] theorem toList_formatDate (t : Instant) : (formatDate t).toList = dateChars t.date :=
  String.toList_ofList

@[simp] theorem toList_format (t : Instant) : (format t).toList = instantChars t :=
  String.toList_ofList

/-! ## 2. Reading -/

/-- The number that decimal digits stand for. -/
def valueOf (digits : List Char) : Nat := digits.foldl (fun n c => 10 * n + (c.toNat - 48)) 0

/-- The digits at the start of `cs`, one or more of them, and what follows. -/
def digits? (cs : List Char) : Option (Nat × List Char) :=
  match cs.takeWhile Char.isDigit with
  | [] => none
  | ds => some (valueOf ds, cs.dropWhile Char.isDigit)

/-- One to `most` digits at the start of `cs`, as many as there are, and what follows. -/
def atMost? (most : Nat) (cs : List Char) : Option (Nat × List Char) :=
  match (cs.take most).takeWhile Char.isDigit with
  | [] => none
  | ds => some (valueOf ds, cs.drop ds.length)

/-- Blanks and a number of one or two digits. -/
def readPair? (cs : List Char) : Option (Nat × List Char) := atMost? 2 (trimStart cs)

/-- Blanks and a year. -/
def readYear? (cs : List Char) : Option (Int × List Char) :=
  match trimStart cs with
  | '-' :: rest => (digits? rest).map fun r => (-(r.1 : Int), r.2)
  | '+' :: rest => (digits? rest).map fun r => ((r.1 : Int), r.2)
  | rest => (atMost? 4 rest).map fun r => ((r.1 : Int), r.2)

/-- The character `c` and what follows. -/
def readChar? (c : Char) : List Char → Option (List Char)
  | [] => none
  | d :: rest => if d = c then some rest else none

/-- The instant that the characters spell from the first to the last. -/
def readChars? (cs : List Char) : Option Instant := do
  let (year, cs) ← readYear? cs
  let (month, cs) ← readPair? cs
  let (day, cs) ← readPair? cs
  let cs ← readChar? 'T' cs
  let (hour, cs) ← readPair? cs
  let (minute, cs) ← readPair? cs
  let (second, cs) ← readPair? cs
  let cs ← readChar? 'Z' cs
  if cs.isEmpty then
    let date ← Date.ofCivil? year month day
    Instant.ofShown? date hour minute second
  else none

/-- The instant that a text spells. -/
def parse? (s : String) : Option Instant := readChars? s.toList

end Countersign.Calendar.Timestamp
