import KeySequenced.Proofs.Snapshot.RoundTrip
import KeySequenced.Proofs.Store.Restoring
import KeySequenced.Proofs.Table.Values

/-!
# Marks of erasure and files

The wire form has no place for the mark of an erased record.  A store with marks
is written as the same store without them, and that is what is read back.
-/

set_option autoImplicit false

namespace KeySequenced

def Record.unmarked (record : Record) : Record := { record with deleted := false }

namespace Record

variable (record : Record)

@[simp] theorem storedLength_unmarked : record.unmarked.storedLength = record.storedLength := rfl

@[simp] theorem ends_unmarked : record.unmarked.ends = record.ends := rfl

@[simp] theorem oversize?_unmarked : record.unmarked.oversize? = record.oversize? := rfl

@[simp] theorem encode_unmarked : record.unmarked.encode = record.encode := rfl

theorem unmarked_eq_self {record : Record} (live : record.deleted = false) :
    record.unmarked = record := by
  cases record
  cases live
  rfl

end Record

namespace Snapshot

def unmarked (snapshot : Snapshot) : Snapshot :=
  { snapshot with records := snapshot.records.map Record.unmarked }

theorem encode_unmarked (snapshot : Snapshot) : snapshot.unmarked.encode = snapshot.encode := by
  simp only [encode, unmarked, frames, List.length_map, List.flatMap_map, Record.encode_unmarked]

theorem oversize?_unmarked (snapshot : Snapshot) :
    snapshot.unmarked.oversize? = snapshot.oversize? := by
  simp only [oversize?, unmarked, List.findSome?_map]
  rfl

/-- A file gives back what has been written to it, without the marks. -/
theorem decode_encode_of_within (path : String) {snapshot : Snapshot}
    (within : snapshot.oversize? = none) (few : snapshot.records.length < UInt64.size) :
    decode path snapshot.encode = .ok snapshot.unmarked := by
  rw [← encode_unmarked]
  refine decode_encode path _ ?_ (by simpa only [unmarked, List.length_map] using few)
  intro record member
  obtain ⟨marked, stored, rfl⟩ := List.mem_map.mp member
  exact ⟨(oversize?_eq_none_iff snapshot).mp within marked stored, rfl⟩

end Snapshot

namespace Store

def unmarked (store : Store) : Store :=
  { store with records := store.records.mapValues Record.unmarked }

section Unmarked

variable {definition : Definition} (store : Store)

theorem find?_unmarked (key : Key) :
    store.unmarked.find? key = (store.find? key).map Record.unmarked :=
  store.records.find?_mapValues ..

theorem toList_unmarked : store.unmarked.toList = store.toList.map Record.unmarked := by
  simp only [toList, unmarked, Table.toList_mapValues, List.map_map]
  rfl

theorem toSnapshot_unmarked : store.unmarked.toSnapshot = store.toSnapshot.unmarked := by
  simp only [toSnapshot, toList_unmarked, Snapshot.unmarked]
  rfl

theorem usedBytes_unmarked : store.unmarked.usedBytes = store.usedBytes := by
  simp only [usedBytes, toList_unmarked, List.foldr_map, Record.storedLength_unmarked]

theorem furthest_unmarked (next : Nat) :
    furthest store.unmarked.toList next = furthest store.toList next := by
  simp only [furthest, toList_unmarked, List.foldl_map, Record.ends_unmarked]

theorem forall_ends_unmarked_iff (bound : Nat) :
    (∀ record ∈ store.unmarked.toList, record.ends < bound) ↔
      ∀ record ∈ store.toList, record.ends < bound := by
  simp only [toList_unmarked, List.forall_mem_map, Record.ends_unmarked]

theorem unmarked_eq_self {store : Store}
    (live : ∀ record ∈ store.toList, record.deleted = false) : store.unmarked = store := by
  have records : store.records.mapValues Record.unmarked = store.records := by
    apply Table.ext_find?
    intro key
    rw [Table.find?_mapValues]
    cases found : store.records.find? key with
    | none => rfl
    | some record =>
      have member := (mem_toList_iff store record).mpr ⟨key, found⟩
      exact congrArg some (Record.unmarked_eq_self (live record member))
  cases store
  simp only [unmarked, records]

theorem Consistent.unmarked {store : Store} (consistent : Consistent definition store) :
    Consistent definition store.unmarked := by
  have exists_of {key : Key} {record : Record} (found : store.unmarked.find? key = some record) :
      ∃ marked, store.find? key = some marked ∧ marked.unmarked = record := by
    rw [find?_unmarked] at found
    exact Option.map_eq_some_iff.mp found
  refine ⟨?_, ?_, ?_, consistent.below⟩
  · intro key record found
    obtain ⟨marked, stands, rfl⟩ := exists_of found
    exact ⟨(consistent.proper key marked stands).key_eq, (consistent.proper key marked stands).fits⟩
  · intro key record found
    obtain ⟨marked, stands, rfl⟩ := exists_of found
    exact consistent.addressed key marked stands
  · intro rba key index
    obtain ⟨marked, stands, address⟩ := consistent.indexed rba key index
    exact ⟨marked.unmarked, by rw [find?_unmarked, stands, Option.map_some], address⟩

end Unmarked

end Store

end KeySequenced
