import KeySequenced.Proofs.Table.Neighbours

/-!
# Changing all values of a table

`mapValues` applies one function to the values of a table and leaves its keys.
It commutes with every search and with every change of one entry.
-/

set_option autoImplicit false

namespace KeySequenced.Table

section Values

variable {κ ν ω χ : Type} [LT κ]

/-- The table with `change` applied to every value. -/
def mapValues (table : Table κ ν) (change : ν → ω) : Table κ ω where
  entries := table.entries.map (Prod.map id change)
  ascending := by
    rw [Array.toList_map, Ascending, List.pairwise_map]
    exact table.ascending

@[simp] theorem toList_mapValues (table : Table κ ν) (change : ν → ω) :
    (table.mapValues change).toList = table.toList.map (Prod.map id change) := Array.toList_map ..

@[simp] theorem size_mapValues (table : Table κ ν) (change : ν → ω) :
    (table.mapValues change).size = table.size := Array.size_map ..

@[simp] theorem mapValues_mapValues (table : Table κ ν) (change : ν → ω) (further : ω → χ) :
    (table.mapValues change).mapValues further = table.mapValues (further ∘ change) := by
  apply ext
  simp only [toList_mapValues, List.map_map, Prod.map_comp_map, Function.id_comp]

theorem first?_mapValues (table : Table κ ν) (change : ν → ω) :
    (table.mapValues change).first? = table.first?.map (Prod.map id change) :=
  Array.getElem?_map ..

theorem last?_mapValues (table : Table κ ν) (change : ν → ω) :
    (table.mapValues change).last? = table.last?.map (Prod.map id change) := by
  simp only [last?, mapValues, Array.size_map, Array.getElem?_map]

end Values

section Searches

variable {κ ν ω : Type} [LT κ] [DecidableLT κ] [KeyOrder κ]

theorem atOrAbove?_mapValues (table : Table κ ν) (change : ν → ω) (key : κ) :
    (table.mapValues change).atOrAbove? key
      = (table.atOrAbove? key).map (Prod.map id change) := by
  simp only [atOrAbove?_eq_find?, toList_mapValues, List.find?_map]
  rfl

theorem above?_mapValues (table : Table κ ν) (change : ν → ω) (key : κ) :
    (table.mapValues change).above? key = (table.above? key).map (Prod.map id change) := by
  simp only [above?_eq_find?, toList_mapValues, List.find?_map]
  rfl

theorem below?_mapValues (table : Table κ ν) (change : ν → ω) (key : κ) :
    (table.mapValues change).below? key = (table.below? key).map (Prod.map id change) := by
  simp only [below?_eq_getLast?, toList_mapValues, List.filter_map, List.getLast?_map]
  rfl

variable [DecidableEq κ]

@[simp] theorem find?_mapValues (table : Table κ ν) (change : ν → ω) (key : κ) :
    (table.mapValues change).find? key = (table.find? key).map change := by
  simp only [find?, atOrAbove?_mapValues]
  cases table.atOrAbove? key with
  | none => rfl
  | some entry =>
    simp only [Option.map_some, Prod.map_fst, Prod.map_snd, id]
    split <;> rfl

@[simp] theorem contains_mapValues (table : Table κ ν) (change : ν → ω) (key : κ) :
    (table.mapValues change).contains key = table.contains key := by
  simp only [contains, find?_mapValues, Option.isSome_map]

@[simp] theorem mapValues_insert (table : Table κ ν) (change : ν → ω) (key : κ) (value : ν) :
    (table.insert key value).mapValues change
      = (table.mapValues change).insert key (change value) := by
  apply ext_find?
  intro other
  simp only [find?_mapValues, find?_insert]
  split <;> rfl

@[simp] theorem mapValues_erase (table : Table κ ν) (change : ν → ω) (key : κ) :
    (table.erase key).mapValues change = (table.mapValues change).erase key := by
  apply ext_find?
  intro other
  simp only [find?_mapValues, find?_erase]
  split <;> rfl

theorem insert_comm (table : Table κ ν) {key other : κ} (value another : ν)
    (differ : key ≠ other) :
    (table.insert key value).insert other another
      = (table.insert other another).insert key value := by
  apply ext_find?
  intro asked
  simp only [find?_insert]
  by_cases first : asked = key
  · simp only [first, if_neg differ, if_true]
  · simp only [if_neg first]

end Searches

end KeySequenced.Table
