/-!
# Tokens and methods

A token is made of letters, digits and fifteen marks; methods and field names are tokens. A `Method`
is a token of one character or more and keeps its letters as they are.
-/

namespace Countersign.Http

/-! ## 1. Characters -/

/-- The marks that may stand in a token. -/
def tokenMarks : List Char := [
  '!', '#', '$', '%', '&', '\x27', '*', '+', '-', '.', '^', '_', '\x60', '|', '~']

/-- A letter, a digit or a token mark. -/
def isTokenChar (c : Char) : Bool := c.isAlphanum || tokenMarks.contains c

/-- Each byte as the character of its number. What is read this way is accepted in ASCII only. -/
def latinChars (bytes : List UInt8) : List Char := bytes.map fun b => Char.ofNat b.toNat

@[simp] theorem latinChars_nil : latinChars [] = [] := rfl

@[simp] theorem latinChars_cons (b : UInt8) (bs : List UInt8) :
    latinChars (b :: bs) = Char.ofNat b.toNat :: latinChars bs := rfl

/-! ## 2. Methods -/

/-- One token character or more. -/
def isMethod (cs : List Char) : Bool := !cs.isEmpty && cs.all isTokenChar

/-- A request method. -/
structure Method where
  text : String
  legal : isMethod text.toList = true
  deriving DecidableEq

namespace Method

/-- The method that is used when none is given. -/
def get : Method := ⟨"GET", by decide⟩

/-- The method spelled by the characters. -/
def ofChars? (cs : List Char) : Option Method :=
  if h : isMethod cs then some ⟨String.ofList cs, by rw [String.toList_ofList]; exact h⟩ else none

/-- The method spelled by the bytes. -/
def ofBytes? (bytes : List UInt8) : Option Method := ofChars? (latinChars bytes)

end Method

end Countersign.Http
