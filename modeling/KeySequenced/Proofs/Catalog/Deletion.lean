import KeySequenced.Proofs.Catalog.Files

/-!
# What becomes of a deleted dataset

Deleting a dataset removes its file, but handles to the dataset stay good, with its
records and its location.  So the file is back as soon as the dataset is opened and
closed through such a handle, and what is defined under the name then has the old
records.  Apart from that nothing comes back unless it is saved there.
-/

set_option autoImplicit false

namespace KeySequenced

/-- The path of the file that an event changes, with the records that it leaves there, which are
without marks, or none if the file is removed. -/
def CatalogEvent.change? (event : CatalogEvent) : Option (String × Option (Table Key Record)) :=
  match event.operation, event.answer with
  | .use handle .close, .used (some (.ok _)) => do
    let dataset ← event.before.dataset? handle
    let path ← dataset.location
    return (path, some dataset.store.unmarked.records)
  | .use handle (.save path), .used (some (.ok _)) => do
    let dataset ← event.before.dataset? handle
    return (path, some dataset.store.unmarked.records)
  | .delete name, .deleted (.ok _) => do
    let handle ← event.before.entries.find? (Catalog.normalize name)
    let dataset ← event.before.dataset? handle
    let path ← dataset.location
    return (path, none)
  | _, _ => none

/-- What an event leaves at a path, if the file that it changes lies there. -/
def CatalogEvent.leavesAt? (volume : Volume) (path : String) (event : CatalogEvent) :
    Option (Option (Table Key Record)) :=
  event.change?.bind fun (changed, records) =>
    if volume.SamePlace path changed then some records else none

namespace Catalog

/-- The records that have been saved at a path last, unless the file has been removed since; the
latest event comes first. -/
def lastSaved (volume : Volume) (path : String) (events : List CatalogEvent) :
    Option (Table Key Record) :=
  (events.findSome? (CatalogEvent.leavesAt? volume path)).join

/-- A path with a file that gives back the records, or without one. -/
structure Kept (path : String) (volume : Volume) (records : Option (Table Key Record)) : Prop where
  filed : Dataset.Filed path volume (records.getD .empty)
  readable_iff : (∃ content, volume.read path = .ok content) ↔ records.isSome

section Kept

variable {root name path target : String} {volume after beside : Volume} {dataset : Dataset}
  {records : Option (Table Key Record)}

theorem Kept.of_read_iff (kept : Kept path volume records)
    (same : ∀ content, after.read path = .ok content ↔ volume.read path = .ok content) :
    Kept path after records where
  filed := kept.filed.of_read_iff same
  readable_iff := (exists_congr same).trans kept.readable_iff

theorem kept_of_missing (missing : ∀ content, volume.read path ≠ .ok content) :
    Kept path volume none where
  filed := .missing missing
  readable_iff := by simp [missing]

theorem lastSaved_cons (volume : Volume) (path : String) (event : CatalogEvent)
    (events : List CatalogEvent) : lastSaved volume path (event :: events)
      = (event.leavesAt? volume path).getD (lastSaved volume path events) :=
  join_findSome?_cons _ event events

/-- What is saved at the same place is on file, and what is saved elsewhere leaves the file. -/
theorem Kept.replaced (kept : Kept path volume records)
    (sound : ∃ definition, Dataset.Sound definition dataset)
    (within : dataset.store.toSnapshot.oversize? = none)
    (readable : after.read target = .ok dataset.store.toSnapshot.encode)
    (directories : volume.SameDirectories after)
    (elsewhere : ¬ volume.SamePlace path target →
      ∀ content, after.read path = .ok content ↔ volume.read path = .ok content) :
    Kept path after
      (if volume.SamePlace path target then some dataset.store.unmarked.records else records) := by
  split
  · rename_i same
    obtain ⟨definition, sound⟩ := sound
    rw [← (same.of_sameDirectories directories).read_eq] at readable
    exact ⟨.saved sound within readable, by simp [readable]⟩
  · rename_i apart
    exact kept.of_read_iff (elsewhere apart)

theorem sameDirectories_close (located : dataset.location = some path) (volume : Volume) :
    volume.SameDirectories (dataset.close volume).2.2 := by
  cases opened : dataset.isOpen with
  | false =>
    rw [Dataset.close_of_shut opened]
    exact fun _ => Iff.rfl
  | true =>
    rw [Dataset.close_of_located opened located]
    exact dataset.store.toSnapshot.sameDirectories_save path volume

theorem sameDirectories_removeSnapshot (located : dataset.location = some path)
    (removed : removeSnapshot dataset volume = .ok beside) : volume.SameDirectories beside := by
  rcases removeSnapshot_cases located removed with gone | ⟨_, rfl⟩
  · obtain ⟨place, content, _, stands, rfl⟩ := (Volume.removeFile_eq_ok_iff _ _ _).mp gone
    exact Volume.sameDirectories_remove (by simp [stands])
  · exact fun _ => Iff.rfl

/-- Removing the snapshot at the place of a dataset's file removes that, and another one leaves
it. -/
theorem Kept.removeSnapshot (kept : Kept (snapshotPath root name) volume records)
    (located : dataset.location = some target)
    (removed : removeSnapshot dataset volume = .ok beside) :
    Kept (snapshotPath root name) beside
      (if volume.SamePlace (snapshotPath root name) target then none else records) := by
  split
  · rename_i same
    have later := same.of_sameDirectories (sameDirectories_removeSnapshot located removed)
    refine kept_of_missing fun content readable => ?_
    rw [later.read_eq] at readable
    exact read_ne_ok_of_removeSnapshot located removed content readable
  · rename_i apart
    exact kept.of_read_iff (read_iff_of_removeSnapshot located apart removed)

end Kept

/-! ## What events leave on file -/

section Change

variable {root name path target : String} {volume : Volume} {catalog : Catalog}
  {handle : Handle} {dataset : Dataset} {records : Option (Table Key Record)}

theorem change?_delete (found : catalog.entries.find? (normalize name) = some handle)
    (stands : catalog.dataset? handle = some dataset) (located : dataset.location = some target) :
    CatalogEvent.change? ⟨catalog, .delete name, .deleted (.ok ())⟩ = some (target, none) := by
  simp [CatalogEvent.change?, found, stands, located]

theorem change?_close (stands : catalog.dataset? handle = some dataset)
    (located : dataset.location = some target) :
    CatalogEvent.change? ⟨catalog, .use handle .close, .used (some (.ok .done))⟩
      = some (target, some dataset.store.unmarked.records) := by
  simp [CatalogEvent.change?, stands, located]

theorem change?_save (stands : catalog.dataset? handle = some dataset) (size : Nat) :
    CatalogEvent.change? ⟨catalog, .use handle (.save target), .used (some (.ok (.saved size)))⟩
      = some (target, some dataset.store.unmarked.records) := by
  simp [CatalogEvent.change?, stands]

theorem getD_leavesAt?_of_change {event : CatalogEvent} {left : Option (Table Key Record)}
    (change : event.change? = some (target, left)) :
    (event.leavesAt? volume path).getD records
      = if volume.SamePlace path target then left else records := by
  simp only [CatalogEvent.leavesAt?, change, Option.bind_some]
  split <;> rfl

/-- Closing any dataset changes what is on file as the event says. -/
theorem Kept.close (kept : Kept (snapshotPath root name) volume records)
    (sound : ∃ definition, Dataset.Sound definition dataset)
    (stands : catalog.dataset? handle = some dataset) (located : dataset.location = some target) :
    Kept (snapshotPath root name) (dataset.close volume).2.2
      ((CatalogEvent.leavesAt? volume (snapshotPath root name) ⟨catalog, .use handle .close,
        .used (some ((dataset.close volume).1.map fun _ => .done))⟩).getD records) := by
  cases result : (dataset.close volume).1 with
  | error fault => exact kept.of_read_iff (read_iff_of_close located (.inr ⟨fault, result⟩))
  | ok _ =>
    obtain ⟨within, readable⟩ := Dataset.read_of_close located result
    simp only [Except.map]
    rw [getD_leavesAt?_of_change (change?_close stands located)]
    exact kept.replaced sound within readable (sameDirectories_close located _)
      fun apart => read_iff_of_close located (.inl apart)

/-- Saving any dataset anywhere changes what is on file as the event says. -/
theorem Kept.save (kept : Kept (snapshotPath root name) volume records)
    (sound : ∃ definition, Dataset.Sound definition dataset)
    (stands : catalog.dataset? handle = some dataset) (target : String) :
    Kept (snapshotPath root name) (dataset.save target volume).2
      ((CatalogEvent.leavesAt? volume (snapshotPath root name) ⟨catalog, .use handle (.save target),
        .used (some ((dataset.save target volume).1.map .saved))⟩).getD records) := by
  cases result : (dataset.save target volume).1 with
  | error fault => exact kept.of_read_iff (read_iff_of_save (.inr ⟨fault, result⟩))
  | ok size =>
    simp only [Except.map]
    rw [getD_leavesAt?_of_change (change?_save stands size)]
    exact kept.replaced sound (Snapshot.exists_placed_of_save result).1
      (Snapshot.read_of_save result) (Snapshot.sameDirectories_save _ _ _)
      fun apart => read_iff_of_save (.inl apart)

end Change

/-! ## After the deletion -/

/-- What holds of a course that began when the path had no file, beside a volume with the
directories of `base`. -/
structure KeptSince (root : String) (base : Volume) (path : String) (course : Course) : Prop where
  coherent : Coherent (some root) course.catalog
  directories : base.SameDirectories course.volume
  kept : Kept path course.volume (lastSaved base path course.events)

section Courses

variable {root name : String} {base volume : Volume} {course : Course}
  {records : Option (Table Key Record)}

theorem leavesAt?_of_sameDirectories (same : base.SameDirectories volume) (path : String)
    (event : CatalogEvent) : event.leavesAt? base path = event.leavesAt? volume path := by
  simp only [CatalogEvent.leavesAt?, Volume.samePlace_iff_of_sameDirectories same]

/-- Whatever is asked of a catalog, the directories stay, and what is on file changes as the event
says. -/
theorem kept_ask (coherent : Coherent (some root) course.catalog)
    (kept : Kept (snapshotPath root name) course.volume records) (operation : CatalogOperation) :
    course.volume.SameDirectories (course.ask operation).volume ∧
      Kept (snapshotPath root name) (course.ask operation).volume
        ((CatalogEvent.leavesAt? course.volume (snapshotPath root name)
          ⟨course.catalog, operation,
            (course.catalog.perform operation course.volume).1⟩).getD records) := by
  have unchanged : course.volume.SameDirectories course.volume ∧
      Kept (snapshotPath root name) course.volume records := ⟨fun _ => Iff.rfl, kept⟩
  -- Only deleting, closing and saving give another volume.
  cases operation with
  | define definition => exact unchanged
  | lookup other => exact unchanged
  | restart => exact unchanged
  | delete other =>
    rcases course.catalog.delete_cases other course.volume with
      ⟨fault, refused⟩ | ⟨handle, dataset, beside, found, stands, removed, deleted⟩
    · simp only [Course.ask, Catalog.perform, refused]
      exact unchanged
    · have located := (coherent.defined handle dataset stands).located
      have after := kept.removeSnapshot located removed
      simp only [Course.ask, Catalog.perform, deleted]
      refine ⟨sameDirectories_removeSnapshot located removed, ?_⟩
      rw [getD_leavesAt?_of_change (change?_delete found stands located)]
      exact after
  | use handle request =>
    cases stands : course.catalog.dataset? handle with
    | none =>
      simp only [Course.ask, perform_unused stands]
      cases request <;> exact unchanged
    | some dataset =>
      obtain ⟨sound, _, located⟩ := coherent.defined handle dataset stands
      simp only [Course.ask, perform_use stands]
      cases request with
      | close =>
        simp only [Dataset.perform]
        exact ⟨sameDirectories_close located _, kept.close sound stands located⟩
      | save target =>
        simp only [Dataset.perform]
        exact ⟨Snapshot.sameDirectories_save _ _ _, kept.save sound stands target⟩
      | _ => exact unchanged

theorem KeptSince.ask (since : KeptSince root base (snapshotPath root name) course)
    (operation : CatalogOperation) :
    KeptSince root base (snapshotPath root name) (course.ask operation) := by
  obtain ⟨directories, kept⟩ := kept_ask since.coherent since.kept operation
  refine ⟨since.coherent.perform operation _, fun place => ?_, ?_⟩
  · exact (since.directories place).trans (directories place)
  · rw [← leavesAt?_of_sameDirectories since.directories] at kept
    rw [Course.ask, lastSaved_cons]
    exact kept

theorem KeptSince.run (since : KeptSince root base (snapshotPath root name) course)
    (operations : List CatalogOperation) :
    KeptSince root base (snapshotPath root name) (operations.foldl Course.ask course) := by
  induction operations generalizing course with
  | nil => exact since
  | cons operation rest ih => exact ih (since.ask operation)

end Courses

/-- After a dataset has been deleted, its file is there if and only if something has been saved in
its place since, be it by closing the dataset through a handle to it, and has not been removed
again.  What is then defined under the name has the records that have been saved, and none if
nothing has been saved. -/
theorem kept_after_delete {root : String} {course : Course} (possible : Possible (some root) course)
    {name : String} (deleted : (course.catalog.delete name course.volume).1 = .ok ())
    (operations : List CatalogOperation) :
    let path := snapshotPath root (normalize name)
    let gone := course.ask (.delete name)
    let later := operations.foldl Course.ask { gone with events := [] }
    let records := lastSaved gone.volume path later.events
    ((∃ content, later.volume.read path = .ok content) ↔ records.isSome) ∧
    ∀ definition handle catalog, normalize definition.clusterName = normalize name →
      later.catalog.define definition later.volume = (.ok handle, catalog) →
      ∃ dataset, catalog.dataset? handle = some dataset ∧ dataset.session = none ∧
        dataset.store.records = records.getD .empty := by
  intro path gone later records
  have coherent := possible.coherent
  have since : KeptSince root gone.volume path { gone with events := [] } := by
    refine ⟨coherent.perform (.delete name) _, fun _ => Iff.rfl, kept_of_missing ?_⟩
    rcases course.catalog.delete_cases name course.volume with
      ⟨fault, refused⟩ | ⟨handle, dataset, beside, found, stands, removed, success⟩
    · rw [refused] at deleted
      cases deleted
    obtain ⟨_, located⟩ := coherent.location_eq found stands
    have after : gone.volume = beside := congrArg (fun result => result.2.2) success
    rw [after]
    exact read_ne_ok_of_removeSnapshot located removed
  obtain ⟨coherentLater, _, kept⟩ := since.run operations
  refine ⟨kept.readable_iff, ?_⟩
  intro definition handle catalog same defined
  obtain ⟨dataset, created, rfl, rfl⟩ := define_eq_ok defined
  rw [locationFor_eq coherentLater.rooted, same] at created
  refine ⟨dataset, ?_, (Dataset.shut_of_create created).2, kept.filed.records_of_create created⟩
  rw [dataset?_register, if_pos rfl]

/-- The deleted dataset is open and has a new record, but only another one has been closed. -/
theorem gone_while_unclosed :
    let volume := Volume.empty.put ["r"] .directory
    let operations : List CatalogOperation := [.define (.keyed "a" 4), .define (.keyed "b" 4),
      .use 0 (.openFor ⟨.inputOutput, .dynamic⟩), .use 0 (.write (.new [1] [5])), .use 0 .close]
    let course := operations.foldl Course.ask ⟨[], empty (some "r"), volume⟩
    let gone := course.ask (.delete "A ")
    let rest : List CatalogOperation := [.use 0 (.openFor ⟨.inputOutput, .dynamic⟩),
      .use 0 (.write (.new [2] [6])), .use 1 (.openFor ⟨.inputOutput, .dynamic⟩),
      .use 1 (.write (.new [3] [7])), .use 1 .close]
    let later := rest.foldl Course.ask { gone with events := [] }
    Possible (some "r") course ∧ (course.volume.read "r/A.ksds").isOk = true ∧
      (course.catalog.delete "A " course.volume).1 = .ok () ∧
      (∀ content, later.volume.read "r/A.ksds" ≠ .ok content) ∧
      ∃ catalog dataset, later.catalog.define (.keyed "a" 4) later.volume = (.ok 2, catalog) ∧
        catalog.dataset? 2 = some dataset ∧ dataset.store.records = .empty := by
  intro volume operations course gone rest later
  have possible : Possible (some "r") course := (Possible.begun volume).run operations
  have present : (course.volume.read "r/A.ksds").isOk = true := by decide +kernel
  have deleted : (course.catalog.delete "A " course.volume).1 = .ok () := by decide +kernel
  have path : snapshotPath "r" (normalize "A ") = "r/A.ksds" := by decide +kernel
  have unsaved : lastSaved gone.volume "r/A.ksds" later.events = none := by decide +kernel
  have again : (later.catalog.define (.keyed "a" 4) later.volume).1 = .ok 2 := by decide +kernel
  obtain ⟨readable_iff, records⟩ := kept_after_delete possible deleted rest
  rw [path, unsaved] at readable_iff
  have absent (content : Bytes) : later.volume.read "r/A.ksds" ≠ .ok content := by
    intro readable
    cases readable_iff.mp ⟨content, readable⟩
  cases defined : later.catalog.define (.keyed "a" 4) later.volume with
  | mk result catalog =>
    rw [defined] at again
    obtain rfl : result = .ok 2 := again
    obtain ⟨dataset, stands, _, empty⟩ := records _ 2 catalog (by decide +kernel) defined
    rw [path, unsaved] at empty
    exact ⟨possible, present, deleted, absent, catalog, dataset, rfl, stands, empty⟩

/-- Closing the deleted dataset through the old handle brings its file back, and the dataset that
is defined next has the old records. -/
theorem back_through_old_handle :
    let volume := Volume.empty.put ["r"] .directory
    let operations : List CatalogOperation := [.define (.keyed "a" 4),
      .use 0 (.openFor ⟨.inputOutput, .dynamic⟩), .use 0 (.write (.new [1] [5])), .use 0 .close]
    let course := operations.foldl Course.ask ⟨[], empty (some "r"), volume⟩
    let gone := course.ask (.delete "a")
    let rest : List CatalogOperation := [.use 0 (.openFor ⟨.input, .random⟩), .use 0 .close]
    let later := rest.foldl Course.ask gone
    let again := later.ask (.define (.keyed "a" 4))
    (course.catalog.delete "a" course.volume).1 = .ok () ∧
      gone.volume.read "r/A.ksds" = .error .missing ∧
      (later.volume.read "r/A.ksds").isOk = true ∧
      (later.catalog.define (.keyed "a" 4) later.volume).1 = .ok 1 ∧
      (again.catalog.dataset? 1).map (fun dataset => dataset.store.records.toList)
        = some [([1], .live [1] [5] (.rba 0))] := by
  decide +kernel

end Catalog

end KeySequenced
