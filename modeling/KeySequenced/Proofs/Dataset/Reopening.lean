import KeySequenced.Proofs.Dataset.Restarts

/-!
# Datasets that have been closed

Closing a dataset leaves its snapshot at its location, and creating it there
again restores that.  This succeeds exactly if all records end within the address
space.  A write sees to that, but an update does not: it may give a record near
the top of the address space more data than there are addresses left, and then
the snapshot cannot be restored any more.
-/

set_option autoImplicit false

namespace KeySequenced.Dataset

section Reopening

variable {definition : Definition} {dataset again : Dataset} {path : String} {volume : Volume}

theorem location_follow (definition : Definition) (location : Option String)
    (requests : List Request) : ((new definition location).follow requests).location = location :=
  keeps_follow (motive := fun dataset => dataset.location = location)
    (fun located _ _ _ transition => transition.location_eq.trans located) rfl requests

theorem create_of_load (valid : definition.defect? = none)
    (keyed : definition.organization = .keySequenced) (held : volume.holds path = true)
    (loaded : (new definition (some path)).load path volume = (.ok (), again)) :
    create definition (some path) volume = .ok again := by
  simp [create, valid, keyed, held, loaded]

theorem Sound.create_of_close (sound : Sound definition dataset)
    (located : dataset.location = some path) (valid : definition.defect? = none)
    (keyed : definition.organization = .keySequenced)
    (closed : (dataset.close volume).1 = .ok ())
    (ends : ∀ record ∈ dataset.store.toList, record.ends < UInt64.size) :
    ∃ again, create definition (some path) (dataset.close volume).2.2 = .ok again := by
  obtain ⟨within, readable⟩ := read_of_close located closed
  have fresh : (new definition (some path)).definition = definition := rfl
  obtain ⟨store, loaded, _⟩ := sound.load within ends fresh rfl readable
  exact ⟨_, create_of_load valid keyed (Volume.holds_of_read readable) loaded⟩

end Reopening

/-- Once a dataset has been closed, it can be created again at its location exactly if all of its
records end within the address space, and then it has the same records, without marks. -/
theorem reopens_iff (definition : Definition) (path : String) (requests : List Request)
    (volume : Volume) (valid : definition.defect? = none)
    (keyed : definition.organization = .keySequenced)
    (closed : (((new definition (some path)).follow requests).close volume).1 = .ok ()) :
    let dataset := (new definition (some path)).follow requests
    let beside := (dataset.close volume).2.2
    ((∃ again, create definition (some path) beside = .ok again) ↔
      ∀ key record rba, dataset.store.find? key = some record → record.address = .rba rba →
        rba.toNat + record.storedLength < UInt64.size) ∧
    ∀ again, create definition (some path) beside = .ok again →
      again.store.records = dataset.store.unmarked.records := by
  intro dataset beside
  have sound : Sound definition dataset := sound_follow definition (some path) requests
  have located : dataset.location = some path := location_follow definition (some path) requests
  obtain ⟨within, readable⟩ := read_of_close located closed
  refine ⟨⟨?_, ?_⟩, fun again created => (sound.records_of_create within readable created).1⟩
  · rintro ⟨again, created⟩ key record rba found address
    have ends := (sound.records_of_create within readable created).2 record
      ((Store.mem_toList_iff _ _).mpr ⟨key, found⟩)
    simpa only [Record.ends, address, Address.offset, Address.rba?, Option.getD_some] using ends
  · intro ends
    refine sound.create_of_close located valid keyed closed ?_
    intro record member
    have found := (sound.consistent.mem_toList_iff record).mp member
    obtain ⟨rba, address, _⟩ := sound.consistent.addressed _ _ found
    simpa only [Record.ends, address, Address.offset, Address.rba?, Option.getD_some]
      using ends record.key record rba found address

/-- The records of the snapshot overlap, and the first one reaches up to the last address. -/
theorem reopens_at_last_address :
    let definition : Definition := .keyed "C" 4
    let file := (Snapshot.mk 0 [.live [1] [] (.rba 0xfffffffffffffffb),
      .live [2] [7] (.rba 0xfffffffffffffffc)]).encode
    let volume := Volume.empty.put ["s"] (.file file)
    let requests : List Request := [.load "s", .openFor ⟨.inputOutput, .dynamic⟩,
      .update [1] [8, 9, 10]].map fun operation => ⟨operation, volume⟩
    let dataset := (new definition (some "s")).follow requests
    definition.defect? = none ∧ definition.organization = .keySequenced ∧
      (dataset.close volume).1 = .ok () ∧
      (∀ key record rba, dataset.store.find? key = some record → record.address = .rba rba →
        rba.toNat + record.storedLength < UInt64.size) ∧
      ∃ again, create definition (some "s") (dataset.close volume).2.2 = .ok again := by
  intro definition file volume requests dataset
  have valid : definition.defect? = none := by decide +kernel
  have closed : (dataset.close volume).1 = .ok () := by decide +kernel
  have ends : ∀ key record rba, dataset.store.find? key = some record →
      record.address = .rba rba → rba.toNat + record.storedLength < UInt64.size := by
    intro key record rba found address
    have short : ∀ record ∈ dataset.store.toList, record.ends < UInt64.size := by decide +kernel
    have bound := short record ((Store.mem_toList_iff _ _).mpr ⟨key, found⟩)
    simpa only [Record.ends, address, Address.offset, Address.rba?, Option.getD_some] using bound
  exact ⟨valid, rfl, closed, ends,
    (reopens_iff definition "s" requests volume valid rfl closed).1.mpr ends⟩

/-- A record three bytes below the end of the address space is given three bytes of data. -/
theorem lost_after_update_at_the_top :
    let definition : Definition := .keyed "C" 4
    let file := (Snapshot.mk 0 [.live [75] [] (.rba 0xfffffffffffffffd)]).encode
    let volume := Volume.empty.put ["S"] (.file file)
    let requests : List Request := [.load "S", .openFor ⟨.inputOutput, .dynamic⟩,
      .update [75] [97, 98, 99]].map fun operation => ⟨operation, volume⟩
    let dataset := (new definition (some "S")).follow requests
    definition.defect? = none ∧ definition.organization = .keySequenced ∧
      (dataset.close volume).1 = .ok () ∧
      (create definition (some "S") (dataset.close volume).2.2).map (fun _ => ())
        = .error (.corrupted ⟨0, .overflow "K" 18446744073709551613⟩) := by
  decide +kernel

end KeySequenced.Dataset
