import Countersign.Http.Field

/-!
# Header fields

A request head holds any number of values under each field name. `Fields` keeps them in the order in
which they came; what may be observed is the list of values of a name (`Fields.values`), and each
operation is described by what it does to that list.
-/

namespace Countersign.Http

/-- The header fields of a request. -/
structure Fields where
  entries : List (FieldName × FieldValue)
  deriving DecidableEq

namespace Fields

/-! ## 1. Reading -/

/-- No fields. -/
def empty : Fields := ⟨[]⟩

/-- The values of a name, in the order in which they came. -/
def values (fs : Fields) (name : FieldName) : List FieldValue :=
  (fs.entries.filter fun e => e.1 = name).map Prod.snd

/-- The first value of a name. -/
def get? (fs : Fields) (name : FieldName) : Option FieldValue := (fs.values name).head?

/-- The values of the name that a text spells; none where it spells no name. -/
def valuesOf (fs : Fields) (name : String) : List FieldValue :=
  match FieldName.ofText? name with
  | some n => fs.values n
  | none => []

/-- The first value of the name that a text spells. -/
def getOf? (fs : Fields) (name : String) : Option FieldValue := (fs.valuesOf name).head?

/-- All entries in the order of their names, the values of one name in their own order. -/
def sorted (fs : Fields) : List (FieldName × FieldValue) :=
  fs.entries.mergeSort fun a b => a.1.text ≤ b.1.text

/-! ## 2. Writing -/

/-- One more value under a name, after those it has. -/
def append (fs : Fields) (name : FieldName) (value : FieldValue) : Fields :=
  ⟨fs.entries ++ [(name, value)]⟩

/-- The fields without any value under a name. -/
def erase (fs : Fields) (name : FieldName) : Fields :=
  ⟨fs.entries.filter fun e => e.1 ≠ name⟩

/-- The value as the only one under its name. -/
def insert (fs : Fields) (name : FieldName) (value : FieldValue) : Fields :=
  (fs.erase name).append name value

/-- The fields without the name that a text spells; unchanged where it spells no name. -/
def eraseOf (fs : Fields) (name : String) : Fields :=
  match FieldName.ofText? name with
  | some n => fs.erase n
  | none => fs

/-! ## 3. What writing does to the values of a name -/

@[simp] theorem values_empty (name : FieldName) : empty.values name = [] := rfl

@[simp] theorem values_append_self (fs : Fields) (name : FieldName) (value : FieldValue) :
    (fs.append name value).values name = fs.values name ++ [value] := by
  simp [append, values, List.filter_append]

theorem values_append_of_ne (fs : Fields) {name other : FieldName} (value : FieldValue)
    (h : other ≠ name) : (fs.append name value).values other = fs.values other := by
  simp [append, values, List.filter_append, Ne.symm h]

@[simp] theorem values_erase_self (fs : Fields) (name : FieldName) :
    (fs.erase name).values name = [] := by
  simp [erase, values, List.filter_filter]

theorem values_erase_of_ne (fs : Fields) {name other : FieldName} (h : other ≠ name) :
    (fs.erase name).values other = fs.values other := by
  simp only [erase, values, List.filter_filter]
  congr 1
  refine List.filter_congr fun e _ => ?_
  by_cases he : e.1 = other <;> simp [he, h]

@[simp] theorem values_insert_self (fs : Fields) (name : FieldName) (value : FieldValue) :
    (fs.insert name value).values name = [value] := by
  simp [insert]

theorem values_insert_of_ne (fs : Fields) {name other : FieldName} (value : FieldValue)
    (h : other ≠ name) : (fs.insert name value).values other = fs.values other := by
  rw [insert, values_append_of_ne _ _ h, values_erase_of_ne _ h]

end Fields

end Countersign.Http
