import KeySequenced.Proofs.Dataset.Reload
import KeySequenced.Proofs.Dataset.Saving

/-!
# Every stored record can be saved

Three sets of limits apply to a record: those that its dataset is defined with,
those that a definition itself has to keep, and those of the wire form.  They
nest, so a dataset of a sound definition never comes to hold a record that its
snapshot has no room for, and only the files can keep it from being saved and
closed.
-/

set_option autoImplicit false

namespace KeySequenced

/-- A sound definition admits no longer keys and records than the wire form. -/
theorem Definition.limits_of_defect? {definition : Definition}
    (sound : definition.defect? = none) :
    definition.keyLength.toNat ≤ maximumKeyLength ∧
      definition.recordLimit.toNat ≤ maximumRecordLength := by
  unfold defect? at sound
  split at sound
  · cases sound
  split at sound
  · cases sound
  split at sound
  · cases sound
  rename_i shortKeys
  split at sound
  · cases sound
  split at sound
  · cases sound
  rename_i smallRecords
  exact ⟨Nat.not_lt.mp shortKeys, Nat.not_lt.mp fun large => smallRecords (.inr large)⟩

theorem Definition.oversize?_eq_none {definition : Definition} {record : Record}
    (sound : definition.defect? = none)
    (fits : definition.refusal? record.key record.data = none) : record.oversize? = none := by
  obtain ⟨shortKeys, smallRecords⟩ := limits_of_defect? sound
  obtain ⟨nonempty, short, small⟩ := (definition.refusal?_eq_none_iff _ _).mp fits
  exact (record.oversize?_eq_none_iff).mpr
    ⟨nonempty, Nat.le_trans short shortKeys, Nat.le_trans small smallRecords⟩

/-- A snapshot can be drafted beside the path and moved there. -/
def Volume.Takes (volume : Volume) (path : String) : Prop :=
  (∃ draft, volume.Target (Path.temporary path) draft) ∧ ∃ goal, volume.Target path goal

/-- The fault says what keeps a snapshot from being drafted beside the path or moved there. -/
def Fault.Obstructs (path : String) (fault : Fault) : Prop :=
  ∃ obstacle,
    fault = .ofObstacle (Path.temporary path) "Failed to create snapshot file" obstacle ∨
    fault = .ofObstacle path "Snapshot rename failed" obstacle

namespace Snapshot

section Saving

variable {snapshot : Snapshot} (path : String) (volume : Volume)

theorem save_succeeds_iff (within : snapshot.oversize? = none) :
    (∃ size, (snapshot.save path volume).1 = .ok size) ↔ volume.Takes path := by
  constructor
  · rintro ⟨size, success⟩
    obtain ⟨_, draft, goal, drafted, free, _⟩ := exists_placed_of_save success
    exact ⟨⟨draft, drafted⟩, goal, free⟩
  · rintro ⟨⟨draft, drafted⟩, goal, free⟩
    have saved := (save_eq_ok_iff snapshot path volume _ _).mpr
      ⟨within, rfl, draft, goal, drafted, free, rfl⟩
    exact ⟨_, congrArg Prod.fst saved⟩

theorem obstructs_of_save (within : snapshot.oversize? = none) {fault : Fault}
    (failed : (snapshot.save path volume).1 = .error fault) : fault.Obstructs path := by
  unfold save at failed
  simp only [write_eq, within] at failed
  split at failed
  · rename_i obstacle _
    cases failed
    exact ⟨obstacle, .inl rfl⟩
  split at failed
  · rename_i obstacle _
    cases failed
    exact ⟨obstacle, .inr rfl⟩
  · cases failed

end Saving

end Snapshot

namespace Dataset

section Closing

variable {definition : Definition} {dataset : Dataset}

theorem Sound.oversize?_eq_none (sound : Sound definition dataset)
    (valid : definition.defect? = none) :
    ∀ record ∈ dataset.store.toList, record.oversize? = none := by
  intro record member
  have found := (sound.consistent.mem_toList_iff record).mp member
  exact definition.oversize?_eq_none valid (sound.consistent.proper _ record found).fits

section Files

variable (within : dataset.store.toSnapshot.oversize? = none) (volume : Volume)

include within

theorem close_succeeds_iff :
    (dataset.close volume).1 = .ok () ↔
      dataset.isOpen = true ∧ ∀ path, dataset.location = some path → volume.Takes path := by
  cases opened : dataset.isOpen with
  | false => simp [close_of_shut opened]
  | true =>
    cases located : dataset.location with
    | none => simp [close, closed?_eq_of_isOpen opened, located]
    | some path =>
      have takes : (∃ size, (dataset.save path volume).1 = .ok size) ↔ volume.Takes path :=
        Snapshot.save_succeeds_iff path volume within
      rw [close_of_located opened located]
      simp only [true_and, Option.some.injEq, forall_eq', ← takes]
      cases (dataset.save path volume).1 <;> simp [Except.map]

theorem obstructs_of_close {fault : Fault} (failed : (dataset.close volume).1 = .error fault) :
    dataset.isOpen = false ∧ fault = dataset.notOpen ∨
      dataset.isOpen = true ∧
        ∃ path, dataset.location = some path ∧ fault.Obstructs path := by
  cases located : dataset.location with
  | none =>
    cases opened : dataset.isOpen with
    | false =>
      rw [close_of_shut opened] at failed
      cases failed
      exact .inl ⟨rfl, rfl⟩
    | true =>
      simp only [close, closed?_eq_of_isOpen opened, located] at failed
      cases failed
  | some path =>
    rcases (close_eq_error_iff located).mp (Prod.ext failed rfl) with
      ⟨_, ⟨shut, unopened, _⟩ | ⟨opened, unsaved⟩⟩
    · exact .inl ⟨shut, unopened⟩
    · exact .inr ⟨opened, path, rfl,
        Snapshot.obstructs_of_save path volume within (congrArg Prod.fst unsaved)⟩

end Files

end Closing

/-- Every record that a dataset of a sound definition comes to hold has a wire form, whose length
fits in its frame.  Saving succeeds exactly where the files admit it, and closing does so while the
dataset is open; nothing else makes them fail. -/
theorem saved_unless_obstructed (definition : Definition) (location : Option String)
    (history : List Request) (valid : definition.defect? = none) :
    let dataset := (new definition location).follow history
    (∀ record ∈ dataset.store.toList,
      ∃ bytes, record.encode? = .ok bytes ∧ bytes.length < UInt32.size) ∧
    (∀ path volume,
      ((∃ size, (dataset.save path volume).1 = .ok size) ↔ volume.Takes path) ∧
      ∀ fault, (dataset.save path volume).1 = .error fault → fault.Obstructs path) ∧
    ∀ volume,
      ((dataset.close volume).1 = .ok () ↔
        dataset.isOpen = true ∧ ∀ path, dataset.location = some path → volume.Takes path) ∧
      ∀ fault, (dataset.close volume).1 = .error fault →
        dataset.isOpen = false ∧ fault = dataset.notOpen ∨
        dataset.isOpen = true ∧
          ∃ path, dataset.location = some path ∧ fault.Obstructs path := by
  intro dataset
  have sound : Sound definition dataset := sound_follow definition location history
  have limits := sound.oversize?_eq_none valid
  have within : dataset.store.toSnapshot.oversize? = none :=
    (Snapshot.oversize?_eq_none_iff _).mpr limits
  refine ⟨?_, ?_, ?_⟩
  · intro record member
    refine ⟨record.encode, ?_, ?_⟩
    · rw [Record.encode?, limits record member]
    · rw [Record.length_encode]
      exact Snapshot.encodedLength_lt (limits record member)
  · intro path volume
    exact ⟨Snapshot.save_succeeds_iff path volume within,
      fun fault failed => Snapshot.obstructs_of_save path volume within failed⟩
  · intro volume
    exact ⟨close_succeeds_iff within volume,
      fun fault failed => obstructs_of_close within volume failed⟩

/-- A record under the longest key that a definition admits has a wire form and is saved; the
dataset is not closed, but only because its location is a directory. -/
theorem obstructed_with_longest_key :
    let definition : Definition := { Definition.keyed "C" 255 with recordLimit := 32761 }
    let record : Record := .live (List.replicate 255 7) [1, 2] (.rba 0)
    let volume := Volume.empty.put ["D"] .directory
    let dataset := (new definition (some "D")).follow
      [⟨.openFor ⟨.output, .random⟩, volume⟩, ⟨.write (.new record.key record.data), volume⟩]
    definition.defect? = none ∧ record ∈ dataset.store.toList ∧
      (∃ bytes, record.encode? = .ok bytes ∧ bytes.length < UInt32.size) ∧
      volume.Takes "S" ∧ dataset.isOpen = true ∧
      ∃ fault, (dataset.close volume).1 = .error fault ∧ fault.Obstructs "D" := by
  intro definition record volume dataset
  have valid : definition.defect? = none := by decide +kernel
  have member : record ∈ dataset.store.toList := by decide +kernel
  have written : (dataset.save "S" volume).1 = .ok 337 := by decide +kernel
  have opened : dataset.isOpen = true := by decide +kernel
  have refused : (dataset.close volume).1
      = .error (.ofObstacle "D" "Snapshot rename failed" .isADirectory) := by decide +kernel
  have located : dataset.location = some "D" := by decide +kernel
  obtain ⟨encodes, saves, closes⟩ := saved_unless_obstructed definition (some "D")
    [⟨.openFor ⟨.output, .random⟩, volume⟩, ⟨.write (.new record.key record.data), volume⟩] valid
  rcases (closes volume).2 _ refused with ⟨shut, _⟩ | ⟨_, path, place, obstructs⟩
  · rw [opened] at shut
    cases shut
  · cases located.symm.trans place
    exact ⟨valid, member, encodes record member, (saves "S" volume).1.mp ⟨337, written⟩, opened,
      _, refused, obstructs⟩

end Dataset

end KeySequenced
