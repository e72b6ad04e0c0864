import KeySequenced.Table.Order

/-!
# Changing one entry of a table

`insert` puts a value under a key, in the place of an earlier one, and `erase`
takes a key's entry away.  Both touch one position of the array, so a table
that nothing else refers to is changed in place.
-/

set_option autoImplicit false

namespace KeySequenced.Table

variable {κ ν : Type} [LT κ] [DecidableLT κ] [KeyOrder κ]

/-- Stores `value` under `key`, in the place of an earlier value. -/
def insert [DecidableEq κ] (table : Table κ ν) (key : κ) (value : ν) : Table κ ν :=
  if inside : table.countBelow key < table.entries.size then
    if same : table.entries[table.countBelow key].1 = key then
      ⟨table.entries.set (table.countBelow key) (key, value) inside,
        table.ascending_set key value _ inside same⟩
    else
      ⟨table.entries.insertIdx (table.countBelow key) (key, value) (table.countBelow_le_size key), by
        rw [Array.toList_insertIdx,
          insertIdx_eq_take_append_drop _ _ _ (by simpa using table.countBelow_le_size key)]
        exact table.ascending_insert key value (table.ne_of_first_ne key fun _ => same)⟩
  else
    ⟨table.entries.insertIdx (table.countBelow key) (key, value) (table.countBelow_le_size key), by
      rw [Array.toList_insertIdx,
        insertIdx_eq_take_append_drop _ _ _ (by simpa using table.countBelow_le_size key)]
      exact table.ascending_insert key value
        (table.ne_of_first_ne key fun holds => absurd holds inside)⟩

/-- Takes away the entry stored under `key`, if there is one. -/
def erase [DecidableEq κ] (table : Table κ ν) (key : κ) : Table κ ν :=
  if inside : table.countBelow key < table.entries.size then
    if table.entries[table.countBelow key].1 = key then
      ⟨table.entries.eraseIdx (table.countBelow key) inside, by
        rw [Array.toList_eraseIdx]
        exact List.Pairwise.sublist (List.eraseIdx_sublist _ _) table.ascending⟩
    else table
  else table

end KeySequenced.Table
