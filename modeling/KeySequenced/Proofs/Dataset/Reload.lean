import KeySequenced.Proofs.Dataset.History
import KeySequenced.Proofs.Store.Marks

/-!
# Saving and loading a dataset

A dataset that has been saved can be loaded into every closed dataset of its
definition, as long as its records end within the address space.  The loaded
dataset has the same keys, payloads and addresses, and saving it again gives
the same file up to the next address.  Only the marks of erased records that
have been written again are lost, as no file has a place for them.
-/

set_option autoImplicit false

namespace KeySequenced.Dataset

section Loading

variable {definition : Definition} {dataset target : Dataset} {path place : String}
  {volume beside : Volume} {size : Nat}

theorem Sound.decode_encode (sound : Sound definition dataset)
    (within : dataset.store.toSnapshot.oversize? = none) (path : String) :
    Snapshot.decode path dataset.store.toSnapshot.encode
      = .ok dataset.store.unmarked.toSnapshot := by
  rw [Store.toSnapshot_unmarked]
  exact Snapshot.decode_encode_of_within path within sound.consistent.length_toList_lt

theorem Sound.load (sound : Sound definition dataset)
    (within : dataset.store.toSnapshot.oversize? = none)
    (ends : ∀ record ∈ dataset.store.toList, record.ends < UInt64.size)
    (same : target.definition = definition) (shut : target.session = none)
    (readable : beside.read place = .ok dataset.store.toSnapshot.encode) :
    ∃ store, target.load place beside = (.ok (), { target with
        store := store
        cursors := .empty
        statistics := target.statistics.resetSpace (UInt64.ofNat store.usedBytes)
          (allocatedFor target.definition store.nextRba) }) ∧
      store.records = dataset.store.unmarked.records ∧ store.index = dataset.store.index ∧
      store.nextRba.toNat = Store.furthest dataset.store.toList dataset.store.nextRba.toNat := by
  obtain ⟨store, restored, records, index, next⟩ := sound.consistent.unmarked.ofSnapshot_toSnapshot
    ((dataset.store.forall_ends_unmarked_iff UInt64.size).mpr ends)
  rw [Store.furthest_unmarked] at next
  refine ⟨store, ?_, records, index, next⟩
  have idle : target.isOpen = false := by simp [isOpen, shut]
  unfold Dataset.load
  rw [Snapshot.load_of_read readable, sound.decode_encode within place, same]
  simp only [restored, idle]
  rfl

end Loading

/-- A saved dataset is loaded with the keys, payloads and addresses of the records that it had and
with their index, and the file of the loaded one differs from its file at most in the next address.
The loaded records have no marks. -/
theorem load_of_save (definition : Definition) (location : Option String)
    (history : List Request) (path : String) (volume : Volume) (size : Nat)
    (ends : ∀ key record rba, ((new definition location).follow history).store.find? key
        = some record → record.address = .rba rba →
      rba.toNat + record.storedLength < UInt64.size)
    (saved : (((new definition location).follow history).save path volume).1 = .ok size) :
    let dataset := (new definition location).follow history
    ∃ content, (dataset.save path volume).2.read path = .ok content ∧
      ∀ (target : Dataset) (place : String) (beside : Volume), target.definition = definition →
        target.session = none → beside.read place = .ok content →
        let loaded := (target.load place beside).2
        (target.load place beside).1 = .ok () ∧
        loaded.store.records = dataset.store.unmarked.records ∧
        loaded.store.index = dataset.store.index ∧
        loaded.cursors = .empty ∧
        loaded.statistics.bytesUsed = UInt64.ofNat
          (dataset.store.toList.foldr (fun record total => record.storedLength + total) 0) ∧
        loaded.store.nextRba.toNat
          = Store.furthest dataset.store.toList dataset.store.nextRba.toNat ∧
        (∃ more, (loaded.save path (dataset.save path volume).2).1 = .ok more) ∧
        ∀ other aside more, (loaded.save other aside).1 = .ok more →
          ∃ again, (loaded.save other aside).2.read other = .ok again ∧
            again.take 16 = content.take 16 ∧ again.drop 24 = content.drop 24 ∧
            ((∀ record ∈ dataset.store.toList, record.ends ≤ dataset.store.nextRba.toNat) →
              again = content) := by
  intro dataset
  have sound : Sound definition dataset := sound_follow definition location history
  have within := (Snapshot.exists_placed_of_save saved).1
  have bounded : ∀ record ∈ dataset.store.toList, record.ends < UInt64.size := by
    intro record member
    have found := (sound.consistent.mem_toList_iff record).mp member
    obtain ⟨rba, address, _⟩ := sound.consistent.addressed _ record found
    have short := ends record.key record rba found address
    simpa only [Record.ends, address, Address.offset, Address.rba?, Option.getD_some] using short
  refine ⟨_, Snapshot.read_of_save saved, ?_⟩
  intro target place beside same shut readable
  obtain ⟨store, success, records, index, next⟩ := sound.load within bounded same shut readable
  have contents : store.toSnapshot.records = dataset.store.unmarked.toSnapshot.records := by
    simp only [Store.toSnapshot, Store.toList, records]
  have limits : store.toSnapshot.oversize? = none := by
    rw [Snapshot.oversize?, contents, ← Snapshot.oversize?, Store.toSnapshot_unmarked,
      Snapshot.oversize?_unmarked]
    exact within
  have used : store.usedBytes = dataset.store.usedBytes := by
    rw [← dataset.store.usedBytes_unmarked]
    simp only [Store.usedBytes, Store.toList, records]
  have unmarked : dataset.store.unmarked.toSnapshot.encode = dataset.store.toSnapshot.encode := by
    rw [Store.toSnapshot_unmarked, Snapshot.encode_unmarked]
  rw [success]
  refine ⟨rfl, records, index, rfl, ?_, next, ⟨_, Snapshot.save_of_save saved limits⟩, ?_⟩
  · exact congrArg UInt64.ofNat used
  · intro other aside more savedAgain
    obtain ⟨front, back⟩ := Snapshot.encode_of_records_eq contents
    rw [unmarked] at front back
    refine ⟨_, Snapshot.read_of_save savedAgain, front, back, ?_⟩
    intro short
    have unmoved : store.nextRba = dataset.store.nextRba :=
      UInt64.toNat_inj.mp (next.trans (Store.furthest_eq_self short))
    have equal : store.toSnapshot = dataset.store.unmarked.toSnapshot := by
      simp only [Store.toSnapshot, Store.toList, records, unmoved]
      rfl
    rw [equal, unmarked]

/-- The last of two records has grown beyond the next address; loading raises that. -/
theorem load_of_save_grown :
    let history : List Request := [.openFor ⟨.inputOutput, .dynamic⟩, .write (.new [1] []),
      .write (.new [3] []), .update [3] [5, 6]].map fun operation => ⟨operation, .empty⟩
    let dataset := (new (.keyed "C" 4) none).follow history
    let loading := (new (.keyed "C" 4) none).load "s" (dataset.save "s" .empty).2
    (∀ key record rba, dataset.store.find? key = some record → record.address = .rba rba →
      rba.toNat + record.storedLength < UInt64.size) ∧
      (dataset.save "s" .empty).1 = .ok 132 ∧ loading.1 = .ok () ∧
      loading.2.store.records = dataset.store.records ∧
      dataset.store.nextRba = 2 ∧ loading.2.store.nextRba.toNat = 4 := by
  intro history dataset loading
  have ends : ∀ key record rba, dataset.store.find? key = some record →
      record.address = .rba rba → rba.toNat + record.storedLength < UInt64.size := by
    intro key record rba found address
    have short : ∀ record ∈ dataset.store.toList, record.ends < UInt64.size := by decide +kernel
    have bound := short record ((Store.mem_toList_iff _ _).mpr ⟨key, found⟩)
    simpa only [Record.ends, address, Address.offset, Address.rba?, Option.getD_some] using bound
  have saved : (dataset.save "s" .empty).1 = .ok 132 := by decide +kernel
  obtain ⟨content, readable, loads⟩ :=
    load_of_save (.keyed "C" 4) none history "s" .empty 132 ends saved
  obtain ⟨success, records, _, _, _, next, _⟩ :=
    loads (new (.keyed "C" 4) none) "s" _ rfl rfl readable
  have furthest : Store.furthest dataset.store.toList dataset.store.nextRba.toNat = 4 := by
    decide +kernel
  have unmarked : dataset.store.unmarked = dataset.store :=
    Store.unmarked_eq_self (by decide +kernel)
  exact ⟨ends, saved, success, unmarked ▸ records, by decide +kernel, next.trans furthest⟩

end KeySequenced.Dataset
