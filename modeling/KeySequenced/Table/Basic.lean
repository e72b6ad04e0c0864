import KeySequenced.Boundary

/-!
# Tables

A `Table` is a finite map whose entries stand in strictly ascending key order.
Because the order is part of the type, two tables with the same entries are the
same table.  Keys are found by halving; `toList` is the view in which the
lemmas of `KeySequenced.Table.Lemmas` describe every operation.
-/

set_option autoImplicit false

namespace KeySequenced

/-- Entries in strictly ascending key order. -/
def Ascending {κ ν : Type} [LT κ] (entries : List (κ × ν)) : Prop :=
  entries.Pairwise (fun earlier later => earlier.1 < later.1)

/-- A finite map from keys to values, kept in strictly ascending key order. -/
structure Table (κ ν : Type) [LT κ] where
  entries : Array (κ × ν)
  ascending : Ascending entries.toList

namespace Table

section Views

variable {κ ν : Type} [LT κ]

def toList (table : Table κ ν) : List (κ × ν) := table.entries.toList

def keys (table : Table κ ν) : List κ := table.toList.map Prod.fst

def size (table : Table κ ν) : Nat := table.entries.size

def first? (table : Table κ ν) : Option (κ × ν) := table.entries[0]?

def last? (table : Table κ ν) : Option (κ × ν) := table.entries[table.entries.size - 1]?

def empty : Table κ ν := ⟨#[], List.Pairwise.nil⟩

@[ext] theorem ext {left right : Table κ ν} (same : left.toList = right.toList) :
    left = right := by
  obtain ⟨leftEntries, _⟩ := left
  obtain ⟨rightEntries, _⟩ := right
  have : leftEntries = rightEntries := Array.toList_inj.mp same
  subst this
  rfl

end Views

section Searches

variable {κ ν : Type} [LT κ] [DecidableLT κ]

/-- The number of entries whose keys are below `key`. -/
def countBelow (table : Table κ ν) (key : κ) : Nat :=
  boundary table.entries (fun entry => decide (entry.1 < key))

/-- The number of entries whose keys are not above `key`. -/
def countUpTo (table : Table κ ν) (key : κ) : Nat :=
  boundary table.entries (fun entry => !decide (key < entry.1))

/-- The entry with the least key that is not below `key`. -/
def atOrAbove? (table : Table κ ν) (key : κ) : Option (κ × ν) :=
  table.entries[table.countBelow key]?

def above? (table : Table κ ν) (key : κ) : Option (κ × ν) :=
  table.entries[table.countUpTo key]?

def below? (table : Table κ ν) (key : κ) : Option (κ × ν) :=
  match table.countBelow key with
  | 0 => none
  | count + 1 => table.entries[count]?

def find? [DecidableEq κ] (table : Table κ ν) (key : κ) : Option ν :=
  match table.atOrAbove? key with
  | some (found, value) => if found = key then some value else none
  | none => none

def contains [DecidableEq κ] (table : Table κ ν) (key : κ) : Bool :=
  (table.find? key).isSome

end Searches

end Table

end KeySequenced
