import KeySequenced.Proofs.Store.Restoring
import Mathlib.Data.List.Perm.Basic

/-!
# Which records make a store

A snapshot makes a store exactly if each of its records fits the definition and
lies, as a whole, at a relative byte address, and no two of them share a key or
an address.  None of this depends on the order of the records, and neither does
the store: it holds these records and nothing else.
-/

set_option autoImplicit false

namespace KeySequenced.Store

/-- The records can stand side by side in a store of the definition. -/
structure Loadable (definition : Definition) (records : List Record) : Prop where
  fits : ∀ record ∈ records, 1 ≤ record.key.length ∧
    record.key.length ≤ definition.keyLength.toNat ∧
    record.data.length ≤ definition.recordLimit.toNat
  placed : ∀ record ∈ records, ∃ rba : UInt64, record.address = .rba rba ∧
    rba.toNat + record.storedLength ≤ UInt64.size - 1
  keys : records.Pairwise fun record other => record.key ≠ other.key
  addresses : records.Pairwise fun record other => record.address ≠ other.address

section Loadable

variable {definition : Definition} {snapshot : Snapshot} {store after : Store}
  {records others : List Record} {next : UInt64}

theorem Loadable.perm (loadable : Loadable definition records) (same : records.Perm others) :
    Loadable definition others where
  fits record member := loadable.fits record (same.mem_iff.mpr member)
  placed record member := loadable.placed record (same.mem_iff.mpr member)
  keys := (same.pairwise_iff Ne.symm).mp loadable.keys
  addresses := (same.pairwise_iff Ne.symm).mp loadable.addresses

theorem restorable_iff_loadable (definition : Definition) (next : UInt64) (records : List Record) :
    Restorable definition { empty with nextRba := next } records ↔ Loadable definition records := by
  constructor
  · intro restorable
    refine ⟨?_, ?_, restorable.keys, restorable.addresses⟩
    · intro record member
      obtain ⟨nonempty, fits⟩ :=
        (definition.refusal?_eq_none_iff _ _).mp (restorable.fits record member)
      exact ⟨List.length_pos_iff.mpr nonempty, fits⟩
    · intro record member
      obtain ⟨rba, address, _⟩ := restorable.addressed record member
      have ends := restorable.ends record member
      simp only [Record.ends, address, Address.offset, Address.rba?, Option.getD_some] at ends
      exact ⟨rba, address, Nat.le_sub_one_of_lt ends⟩
  · intro loadable
    refine ⟨?_, ?_, ?_, ?_, loadable.keys, loadable.addresses⟩
    · intro record member
      obtain ⟨nonempty, fits⟩ := loadable.fits record member
      exact (definition.refusal?_eq_none_iff _ _).mpr ⟨List.length_pos_iff.mp nonempty, fits⟩
    · intro record member
      obtain ⟨rba, address, ends⟩ := loadable.placed record member
      simp only [Record.ends, address, Address.offset, Address.rba?, Option.getD_some]
      exact Nat.lt_of_le_sub_one (by decide) ends
    · intro record member
      obtain ⟨rba, address, _⟩ := loadable.placed record member
      exact ⟨rba, address, by simp [empty]⟩
    · intro record _
      simp [find?, empty]

theorem exists_ofSnapshot_iff (definition : Definition) (snapshot : Snapshot) :
    (∃ store, ofSnapshot definition snapshot = .ok store) ↔
      Loadable definition snapshot.records := by
  rw [← restorable_iff_loadable definition snapshot.nextRba]
  constructor
  · rintro ⟨store, success⟩
    exact restorable_of_restoreAll success
  · intro restorable
    obtain ⟨store, success, _⟩ := restorable.restoreAll
    exact ⟨store, success⟩

theorem restored_of_ofSnapshot (success : ofSnapshot definition snapshot = .ok store) :
    Restored { empty with nextRba := snapshot.nextRba } store snapshot.records := by
  obtain ⟨other, again, restored⟩ := (restorable_of_restoreAll success).restoreAll
  cases success.symm.trans again
  exact restored

/-! ## What the store holds -/

theorem Restored.find?_eq_some_iff (restored : Restored { empty with nextRba := next } store records)
    (key : Key) (record : Record) :
    store.find? key = some record ↔ record ∈ records ∧ record.key = key := by
  refine (restored.find?_iff key record).trans (or_iff_left ?_)
  simp [find?, empty]

theorem Restored.index_eq_some_iff
    (restored : Restored { empty with nextRba := next } store records) (rba : UInt64) (key : Key) :
    store.index.find? rba = some key ↔
      ∃ record ∈ records, record.key = key ∧ record.address = .rba rba := by
  refine (restored.index_iff rba key).trans (or_iff_left ?_)
  simp [empty]

theorem furthest_perm (same : records.Perm others) (next : Nat) :
    furthest records next = furthest others next := by
  have commutes : RightCommutative fun (top : Nat) (record : Record) => max top record.ends :=
    ⟨fun top record other => by omega⟩
  exact same.foldl_eq next

/-- The order of the records leaves no trace in the store. -/
theorem Restored.unique (restored : Restored { empty with nextRba := next } store records)
    (again : Restored { empty with nextRba := next } after others) (same : records.Perm others) :
    store = after := by
  have recordsSame : store.records = after.records := by
    apply Table.ext_find?
    intro key
    apply Option.ext
    intro record
    exact (restored.find?_eq_some_iff key record).trans
      ((and_congr_left fun _ => same.mem_iff).trans (again.find?_eq_some_iff key record).symm)
  have indexSame : store.index = after.index := by
    apply Table.ext_find?
    intro rba
    apply Option.ext
    intro key
    refine (restored.index_eq_some_iff rba key).trans
      (Iff.trans ?_ (again.index_eq_some_iff rba key).symm)
    exact exists_congr fun record => and_congr_left fun _ => same.mem_iff
  have nextSame : store.nextRba = after.nextRba := by
    apply UInt64.toNat_inj.mp
    rw [restored.nextRba_eq, again.nextRba_eq, furthest_perm same]
  cases store
  cases after
  cases recordsSame
  cases indexSame
  cases nextSame
  rfl

/-- The store has the records that have been restored, each of them once. -/
theorem Restored.toList_perm (restored : Restored { empty with nextRba := next } store records)
    (consistent : Consistent definition store)
    (keys : records.Pairwise fun record other => record.key ≠ other.key) :
    store.toList.Perm records := by
  have differ {record other : Record} (apart : record.key ≠ other.key) : record ≠ other :=
    fun same => apart (congrArg Record.key same)
  refine (List.perm_ext_iff_of_nodup (consistent.pairwise_key.imp differ) (keys.imp differ)).mpr ?_
  intro record
  rw [consistent.mem_toList_iff, restored.find?_eq_some_iff]
  exact and_iff_left rfl

theorem size_of_ofSnapshot (success : ofSnapshot definition snapshot = .ok store) :
    store.size = snapshot.records.length := by
  have loadable := (exists_ofSnapshot_iff definition snapshot).mp ⟨store, success⟩
  have same := (restored_of_ofSnapshot success).toList_perm
    (consistent_ofSnapshot success) loadable.keys
  rw [← same.length_eq, toList, List.length_map]
  exact store.records.size_eq_length

end Loadable

end KeySequenced.Store
