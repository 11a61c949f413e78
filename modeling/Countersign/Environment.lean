import Countersign.Text.Utf8

/-!
# Environments

An environment gives texts by name. It is made of assignments, of which a later one to the same name
counts. A variable may hold bytes that are no text; it is set then, but has no value that can be
read.
-/

namespace Countersign

open Countersign.Text

/-- Assignments in their order; `none` stands for bytes that are no text. -/
structure Environment where
  assignments : List (String × Option String)
  deriving Repr, DecidableEq

namespace Environment

/-- The value of a variable: that of its last assignment. -/
def value? (e : Environment) (name : String) : Option String :=
  match e.assignments.reverse.lookup name with
  | some v => v
  | none => none

/-- The environment of assignments of texts. -/
def ofTexts (pairs : List (String × String)) : Environment :=
  ⟨pairs.map fun p => (p.1, some p.2)⟩

/-- A name that a process can give to a variable: not empty, without `=` and without NUL. -/
def isSettable (name : String) : Bool :=
  let cs := name.toList
  !cs.isEmpty && !cs.contains '=' && !cs.contains '\x00'

/-- The environment of a process, whose variables hold bytes. -/
def ofBytes (pairs : List (String × List UInt8)) : Environment :=
  ⟨(pairs.filter fun p => isSettable p.1).map fun p => (p.1, (Utf8.decode p.2).toOption)⟩

end Environment

end Countersign
