import KeySequenced.Proofs.Store.Consistency

/-!
# The space of the records of a store

A record takes the length of its key and of its payload, and a store the sum of
these over its records.  Up to order, a changed table holds the entries of the
earlier one with one entry put or taken away, so each change of a store moves
the sum by the record that it is about, and the number of records by one.
-/

set_option autoImplicit false

namespace KeySequenced

/-! ## One entry apart -/

namespace Table

section Entries

variable {κ ν : Type} [LT κ] [DecidableLT κ] [KeyOrder κ] [DecidableEq κ]

theorem nodup_cons_erase (table : Table κ ν) (key : κ) (value : ν) :
    ((key, value) :: (table.erase key).toList).Nodup := by
  refine List.nodup_cons.mpr ⟨?_, nodup_toList _⟩
  intro member
  exact ((table.mem_toList_erase key _).mp member).2 rfl

theorem toList_insert_perm (table : Table κ ν) (key : κ) (value : ν) :
    (table.insert key value).toList.Perm ((key, value) :: (table.erase key).toList) := by
  refine (List.perm_ext_iff_of_nodup (nodup_toList _) (table.nodup_cons_erase key value)).mpr ?_
  intro entry
  rw [mem_toList_insert, List.mem_cons, mem_toList_erase]

theorem toList_perm_of_find? (table : Table κ ν) {key : κ} {value : ν}
    (found : table.find? key = some value) :
    table.toList.Perm ((key, value) :: (table.erase key).toList) := by
  have member := (table.find?_eq_some_iff key value).mp found
  refine (List.perm_ext_iff_of_nodup (nodup_toList _) (table.nodup_cons_erase key value)).mpr ?_
  intro entry
  rw [List.mem_cons, mem_toList_erase]
  constructor
  · intro stored
    by_cases same : entry.1 = key
    · refine .inl (Prod.ext same ?_)
      have other : (key, entry.2) ∈ table.toList := by
        rw [← same]
        exact stored
      exact table.eq_of_mem_of_mem other member
    · exact .inr ⟨stored, same⟩
  · rintro (rfl | ⟨stored, _⟩)
    · exact member
    · exact stored

theorem erase_of_find?_eq_none (table : Table κ ν) {key : κ} (absent : table.find? key = none) :
    table.erase key = table := by
  apply Table.ext
  rw [toList_erase]
  refine List.filter_eq_self.mpr fun entry member => decide_eq_true ?_
  intro same
  have stored := (table.find?_eq_none_iff key).mp absent entry.2
  rw [← same] at stored
  exact stored member

end Entries

end Table

namespace Store

/-! ## Sums of lengths -/

/-- The space of the records under their keys. -/
def space (entries : List (Key × Record)) : Nat :=
  entries.foldr (fun entry total => entry.2.storedLength + total) 0

theorem space_cons (entry : Key × Record) (entries : List (Key × Record)) :
    space (entry :: entries) = entry.2.storedLength + space entries := rfl

theorem space_perm {entries other : List (Key × Record)} (same : entries.Perm other) :
    space entries = space other := by
  induction same with
  | nil => rfl
  | cons entry _ ih => rw [space_cons, space_cons, ih]
  | swap first second rest =>
    simp only [space_cons]
    omega
  | trans _ _ firstStep secondStep => exact firstStep.trans secondStep

theorem usedBytes_eq_space (store : Store) : store.usedBytes = space store.records.toList :=
  List.foldr_map

section Changes

variable {store : Store} {record stored : Record} {key : Key}

theorem usedBytes_put (absent : store.find? record.key = none) (next : UInt64) :
    (store.put record next).usedBytes = record.storedLength + store.usedBytes := by
  have entries := store.records.toList_insert_perm record.key record
  rw [store.records.erase_of_find?_eq_none absent] at entries
  rw [usedBytes_eq_space, usedBytes_eq_space]
  exact space_perm entries

theorem usedBytes_remove (found : store.find? key = some stored) :
    stored.storedLength + (store.remove key stored).usedBytes = store.usedBytes := by
  rw [usedBytes_eq_space, usedBytes_eq_space]
  exact (space_perm (store.records.toList_perm_of_find? found)).symm

theorem usedBytes_replace (store : Store) (key : Key) (stored : Record) (data : Bytes) :
    (store.replace key stored data).usedBytes
      = ({ stored with data := data } : Record).storedLength
        + (store.remove key stored).usedBytes := by
  rw [usedBytes_eq_space, usedBytes_eq_space]
  exact space_perm (store.records.toList_insert_perm key _)

/-! ## Numbers of records -/

theorem size_put (absent : store.find? record.key = none) (next : UInt64) :
    (store.put record next).size = store.size + 1 := by
  have entries := store.records.toList_insert_perm record.key record
  rw [store.records.erase_of_find?_eq_none absent] at entries
  simp only [size, Table.size_eq_length]
  exact entries.length_eq

theorem size_remove (found : store.find? key = some stored) :
    (store.remove key stored).size + 1 = store.size := by
  simp only [size, Table.size_eq_length]
  exact (store.records.toList_perm_of_find? found).length_eq.symm

theorem size_replace (found : store.find? key = some stored) (data : Bytes) :
    (store.replace key stored data).size = store.size := by
  rw [← size_remove found]
  simp only [size, Table.size_eq_length]
  exact (store.records.toList_insert_perm key _).length_eq

end Changes

end Store

end KeySequenced
