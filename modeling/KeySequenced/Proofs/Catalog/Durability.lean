import KeySequenced.Proofs.Catalog.Registry

/-!
# Catalogs over restarts

A catalog with a root keeps the snapshot of every dataset in a file of its own.
That file changes when the dataset is closed and when it is deleted; nothing else
that is done with it, with other datasets or with the catalog touches it.  So a
dataset that is defined again, be it by a later program, has the records of its
last close, and none if it has not been closed since it was deleted.
-/

set_option autoImplicit false

namespace KeySequenced

/-- A request to a catalog, the answer, and the catalog before it. -/
structure CatalogEvent where
  before : Catalog
  operation : CatalogOperation
  answer : CatalogAnswer

/-- The records that an event leaves on file for a dataset, if it changes them: those that the
dataset has when it is closed, without marks, and none when it is deleted. -/
def CatalogEvent.leaves? (name : String) (event : CatalogEvent) : Option (Table Key Record) :=
  match event.operation, event.answer with
  | .use handle .close, .used (some (.ok _)) =>
    if event.before.entries.find? name = some handle then
      (event.before.dataset? handle).map fun dataset => dataset.store.unmarked.records
    else none
  | .delete other, .deleted (.ok _) =>
    if Catalog.normalize other = name then some .empty else none
  | _, _ => none

namespace Catalog

/-- The records of a dataset when it was last closed, unless it has been deleted since; the
latest event comes first.  No file has a place for the mark of an erased record. -/
def lastClosed (name : String) (events : List CatalogEvent) : Table Key Record :=
  (events.findSome? (CatalogEvent.leaves? name)).getD .empty

/-- The files of datasets read the same in both volumes. -/
def SameFiles (root : String) (volume other : Volume) : Prop :=
  ∀ name, Path.Plain name → ∀ content,
    other.read (snapshotPath root name) = .ok content ↔
      volume.read (snapshotPath root name) = .ok content

/-- A catalog beside a volume, and what has happened to it, the latest first. -/
structure Course where
  events : List CatalogEvent
  catalog : Catalog
  volume : Volume

def Course.ask (course : Course) (operation : CatalogOperation) : Course where
  events := ⟨course.catalog, operation, (course.catalog.perform operation course.volume).1⟩
    :: course.events
  catalog := (course.catalog.perform operation course.volume).2.1
  volume := (course.catalog.perform operation course.volume).2.2

/-- The courses that begin without files of datasets.  Such files change by what is asked of the
catalog only, and not by what a request saves elsewhere. -/
inductive Reached (root : String) : Course → Prop where
  | begun (volume : Volume)
      (bare : ∀ name, Path.Plain name → ∀ content,
        volume.read (snapshotPath root name) ≠ .ok content) :
      Reached root ⟨[], empty (some root), volume⟩
  | asked {course : Course} (reached : Reached root course) (operation : CatalogOperation)
      (orderly : course.catalog.Orderly operation)
      (aside : ∀ handle path, operation = .use handle (.save path) →
        SameFiles root course.volume (course.ask operation).volume) :
      Reached root (course.ask operation)
  | elsewhere {course : Course} (reached : Reached root course) (volume : Volume)
      (same : SameFiles root course.volume volume) :
      Reached root { course with volume := volume }

/-! ## What is on file -/

section Files

variable {root name other : String} {catalog : Catalog} {handle : Handle} {dataset : Dataset}
  {volume beside : Volume} {records : Table Key Record}

theorem filed_of_sameFiles (filed : Dataset.Filed (snapshotPath root name) volume records)
    (plain : Path.Plain name) (same : SameFiles root volume beside) :
    Dataset.Filed (snapshotPath root name) beside records :=
  filed.of_read_iff (same name plain)

theorem filed_of_alikeUnder (filed : Dataset.Filed (snapshotPath root name) volume records)
    (plain : Path.Plain name) (alike : volume.AlikeUnder (name ++ ".ksds") beside) :
    Dataset.Filed (snapshotPath root name) beside records :=
  filed.of_read_iff (alike.read_iff (last?_snapshotPath root plain) (isName_file name))

/-- Closing a dataset leaves the files of the others, and its own too if it fails. -/
theorem alikeUnder_of_close (kept : KeptUnder root name dataset)
    (apart : name ≠ other ∨ ∃ fault, (dataset.close volume).1 = .error fault) :
    volume.AlikeUnder (other ++ ".ksds") (dataset.close volume).2.2 := by
  refine Dataset.alikeUnder_close kept.located (last?_snapshotPath root kept.plain)
    (isName_file name) (plain_file kept.plain) (draft_ne_file _ other) ?_
  exact apart.imp_left fun differ same => differ (by simpa using same)

theorem removeSnapshot_cases {path : String} (located : dataset.location = some path)
    (removed : removeSnapshot dataset volume = .ok beside) :
    volume.removeFile path = .ok beside ∨
      volume.removeFile path = .error .missing ∧ beside = volume := by
  unfold removeSnapshot at removed
  rw [located] at removed
  simp only at removed
  split at removed
  · rename_i after gone
    cases removed
    exact .inl gone
  · rename_i missing
    cases removed
    exact .inr ⟨missing, rfl⟩
  · cases removed

theorem read_ne_ok_of_removeSnapshot {path : String} (located : dataset.location = some path)
    (removed : removeSnapshot dataset volume = .ok beside) (content : Bytes) :
    beside.read path ≠ .ok content := by
  intro readable
  rcases removeSnapshot_cases located removed with gone | ⟨missing, rfl⟩
  · exact Volume.read_ne_ok_of_removeFile gone readable
  · obtain ⟨place, resolved, stands⟩ := (Volume.read_eq_ok_iff _ _ _).mp readable
    have there : beside.removeFile path = .ok (beside.remove place) :=
      (Volume.removeFile_eq_ok_iff _ _ _).mpr ⟨place, content, resolved, stands, rfl⟩
    rw [missing] at there
    cases there

theorem filed_of_removeSnapshot (kept : KeptUnder root name dataset)
    (removed : removeSnapshot dataset volume = .ok beside) :
    Dataset.Filed (snapshotPath root name) beside .empty :=
  .missing (read_ne_ok_of_removeSnapshot kept.located removed)

theorem alikeUnder_of_removeSnapshot (kept : KeptUnder root name dataset) (differ : name ≠ other)
    (removed : removeSnapshot dataset volume = .ok beside) :
    volume.AlikeUnder (other ++ ".ksds") beside := by
  rcases removeSnapshot_cases kept.located removed with gone | ⟨_, rfl⟩
  · exact Volume.alikeUnder_of_removeFile (last?_snapshotPath root kept.plain) (isName_file name)
      (by simpa using differ) gone
  · exact beside.alikeUnder_refl _

end Files

/-! ## Courses -/

section Courses

variable {root name : String} {course : Course} {operation : CatalogOperation}
  {records : Table Key Record} {catalog after : Catalog} {handle : Handle} {volume : Volume}

theorem lastClosed_cons (name : String) (event : CatalogEvent) (events : List CatalogEvent) :
    lastClosed name (event :: events) = (event.leaves? name).getD (lastClosed name events) := by
  unfold lastClosed
  rw [List.findSome?_cons]
  cases event.leaves? name <;> rfl

theorem filed_close {own : String} {dataset : Dataset} (proper : Proper root catalog)
    (found : catalog.entries.find? own = some handle)
    (stands : catalog.dataset? handle = some dataset) (plain : Path.Plain name)
    (filed : Dataset.Filed (snapshotPath root name) volume records) :
    Dataset.Filed (snapshotPath root name) (dataset.close volume).2.2
      ((CatalogEvent.leaves? name ⟨catalog, .use handle .close,
        .used (some ((dataset.close volume).1.map fun _ => .done))⟩).getD records) := by
  have kept := proper.keptUnder found stands
  cases result : (dataset.close volume).1 with
  | error fault =>
    exact filed_of_alikeUnder filed plain (alikeUnder_of_close kept (.inr ⟨fault, result⟩))
  | ok _ =>
    simp only [CatalogEvent.leaves?, Except.map]
    split
    · rename_i entered
      obtain rfl := proper.name_eq found entered
      obtain ⟨definition, sound⟩ := kept.sound
      rw [stands]
      exact sound.filed_of_close kept.located result
    · rename_i unentered
      have differ : own ≠ name := by
        rintro rfl
        exact unentered found
      exact filed_of_alikeUnder filed plain (alikeUnder_of_close kept (.inl differ))

/-- Whatever is asked of a catalog, what is on file changes as the event says. -/
theorem filed_ask (proper : Proper root course.catalog) (orderly : course.catalog.Orderly operation)
    (aside : ∀ handle path, operation = .use handle (.save path) →
      SameFiles root course.volume (course.ask operation).volume)
    (plain : Path.Plain name)
    (filed : Dataset.Filed (snapshotPath root name) course.volume records) :
    Dataset.Filed (snapshotPath root name) (course.ask operation).volume
      ((CatalogEvent.leaves? name ⟨course.catalog, operation,
        (course.catalog.perform operation course.volume).1⟩).getD records) := by
  -- Only deleting, closing and saving elsewhere give another volume.
  cases operation with
  | define definition => exact filed
  | lookup other => exact filed
  | restart => exact filed
  | delete other =>
    rcases course.catalog.delete_cases other course.volume with
      ⟨fault, refused⟩ | ⟨handle, dataset, beside, found, stands, removed, deleted⟩
    · simp only [Course.ask, Catalog.perform, refused]
      exact filed
    · have kept := proper.keptUnder found stands
      simp only [Course.ask, Catalog.perform, deleted, CatalogEvent.leaves?]
      split
      · rename_i own
        exact own ▸ filed_of_removeSnapshot kept removed
      · rename_i differ
        exact filed_of_alikeUnder filed plain (alikeUnder_of_removeSnapshot kept differ removed)
  | use handle request =>
    cases stands : course.catalog.dataset? handle with
    | none =>
      simp only [Course.ask, perform_unused stands]
      cases request <;> exact filed
    | some dataset =>
      -- The dataset is registered, so the file that closing it changes is its own.
      obtain ⟨⟨own, _⟩, member, rfl⟩ := orderly (by rw [stands]; rfl)
      have found := (course.catalog.entries.find?_eq_some_iff _ _).mpr member
      cases request with
      | close =>
        simp only [Course.ask, perform_use stands]
        exact filed_close proper found stands plain filed
      | save path =>
        exact filed_of_sameFiles filed plain (aside _ path rfl)
      | _ =>
        simp only [Course.ask, perform_use stands]
        exact filed

theorem Reached.proper (reached : Reached root course) : Proper root course.catalog := by
  have both : Coherent (some root) course.catalog ∧
      ∀ name handle, course.catalog.entries.find? name = some handle → Path.Plain name := by
    induction reached with
    | begun volume bare => exact ⟨coherent_empty _, fun name handle found => by simp [empty] at found⟩
    | asked reached operation orderly aside ih =>
      exact ⟨ih.1.perform operation _, plain_perform ih.2 orderly _⟩
    | elsewhere reached volume same ih => exact ih
  exact both.1.proper both.2

/-- What holds of every course: the catalog is proper, and each dataset has on file what it had
at its last close. -/
theorem Reached.proper_and_filed (reached : Reached root course) :
    Proper root course.catalog ∧ ∀ name, Path.Plain name →
      Dataset.Filed (snapshotPath root name) course.volume (lastClosed name course.events) := by
  refine ⟨reached.proper, ?_⟩
  induction reached with
  | begun volume bare => exact fun name plain => .missing (bare name plain)
  | asked reached operation orderly aside ih =>
    intro name plain
    rw [Course.ask, lastClosed_cons]
    exact filed_ask reached.proper orderly aside plain (ih name plain)
  | elsewhere reached volume same ih =>
    exact fun name plain => filed_of_sameFiles (ih name plain) plain same

/-- A request that saves a file wherever it says. -/
def saves : CatalogOperation → Bool
  | .use _ (.save _) => true
  | _ => false

/-- All of the requests are orderly, and none saves a file wherever it says. -/
def AllOrderly (course : Course) : List CatalogOperation → Prop
  | [] => True
  | operation :: rest =>
    course.catalog.Orderly operation ∧ saves operation = false ∧
      AllOrderly (course.ask operation) rest

instance decidableAllOrderly : (course : Course) → (operations : List CatalogOperation) →
    Decidable (AllOrderly course operations)
  | _, [] => isTrue trivial
  | course, operation :: rest =>
    have := decidableAllOrderly (course.ask operation) rest
    inferInstanceAs (Decidable (_ ∧ _ ∧ _))

theorem Reached.run (reached : Reached root course) {operations : List CatalogOperation}
    (orderly : AllOrderly course operations) : Reached root (operations.foldl Course.ask course) := by
  induction operations generalizing course with
  | nil => exact reached
  | cons operation rest ih =>
    obtain ⟨first, unsaved, later⟩ := orderly
    refine ih (reached.asked operation first ?_) later
    rintro handle path rfl
    cases unsaved

theorem run_eq_foldl_ask (operations : List CatalogOperation) (course : Course) :
    (course.catalog.run operations course.volume).2
      = ((operations.foldl Course.ask course).catalog,
        (operations.foldl Course.ask course).volume) := by
  induction operations generalizing course with
  | nil => rfl
  | cons operation rest ih => exact ih (course.ask operation)

end Courses

/-- A dataset that is defined is closed and has the records, with their addresses, that it had
when it was last closed, however many programs ago; it has none if it has not been closed since
it was last deleted. -/
theorem records_of_define {root : String} {course : Course} (reached : Reached root course)
    (definition : Definition) (plain : Path.Plain definition.clusterName) (handle : Handle)
    (after : Catalog)
    (defined : course.catalog.define definition course.volume = (.ok handle, after)) :
    ∃ dataset, after.dataset? handle = some dataset ∧
      after.lookup definition.clusterName = .ok handle ∧ dataset.session = none ∧
      dataset.store.records = lastClosed (normalize definition.clusterName) course.events := by
  obtain ⟨proper, filed⟩ := reached.proper_and_filed
  obtain ⟨dataset, created, rfl, rfl⟩ := define_eq_ok defined
  rw [locationFor_eq proper.rooted] at created
  refine ⟨dataset, ?_, ?_, (Dataset.shut_of_create created).2, ?_⟩
  · rw [dataset?_register, if_pos rfl]
  · simp [lookup, register]
  · exact (filed _ (plain_normalize plain)).records_of_create created

/-- The one dataset has got a second record since it was closed; the other one has been closed
and deleted. -/
theorem records_after_restart :
    let volume := Volume.empty.put ["r"] .directory
    let operations : List CatalogOperation := [.define (.keyed " a" 4),
      .use 0 (.openFor ⟨.inputOutput, .dynamic⟩), .use 0 (.write (.new [1] [5])), .use 0 .close,
      .use 0 (.openFor ⟨.inputOutput, .dynamic⟩), .use 0 (.write (.new [2] [6])),
      .define (.keyed "b" 4), .use 1 (.openFor ⟨.inputOutput, .dynamic⟩),
      .use 1 (.write (.new [3] [])), .use 1 .close, .delete "B", .restart]
    let course := operations.foldl Course.ask ⟨[], empty (some "r"), volume⟩
    Reached "r" course ∧ Path.Plain "A " ∧
      ∃ after dataset, course.catalog.define (.keyed "A " 4) course.volume = (.ok 0, after) ∧
        after.dataset? 0 = some dataset ∧ dataset.session = none ∧
        dataset.store.records.toList = [([1], .live [1] [5] (.rba 0))] := by
  intro volume operations course
  have bare : ∀ name, Path.Plain name → ∀ content,
      volume.read (snapshotPath "r" name) ≠ .ok content := by
    intro name _ content readable
    obtain ⟨place, _, stands⟩ := (Volume.read_eq_ok_iff _ _ _).mp readable
    rw [Volume.node?_put _ _ _ _ (by decide)] at stands
    split at stands
    · cases stands
    · unfold Volume.node? at stands
      split at stands
      · cases stands
      · simp [Volume.empty] at stands
  have reached : Reached "r" course := (Reached.begun volume bare).run (by decide +kernel)
  have plain : Path.Plain "A " := by decide
  have answer : (course.catalog.define (.keyed "A " 4) course.volume).1 = .ok 0 := by
    decide +kernel
  have kept : (lastClosed "A" course.events).toList = [([1], .live [1] [5] (.rba 0))] := by
    decide +kernel
  cases defined : course.catalog.define (.keyed "A " 4) course.volume with
  | mk result after =>
    rw [defined] at answer
    obtain rfl : result = .ok 0 := answer
    obtain ⟨dataset, stands, _, shut, records⟩ :=
      records_of_define reached (.keyed "A " 4) plain 0 after defined
    refine ⟨reached, plain, after, dataset, rfl, stands, shut, ?_⟩
    rw [records]
    exact kept

end Catalog

end KeySequenced
