import KeySequenced.Proofs.Catalog.Registration
import KeySequenced.Proofs.Dataset.Saving

/-!
# The files of registered datasets

The file of a registered dataset is named by its name with an ending, under the
root.  For a plain name it lies in the root directory, and datasets with different
plain names have different files.  As long as two files are different, whatever the
names, closing or deleting the dataset of the one leaves the other.  Names with
slashes can lead elsewhere, and to the file of another dataset.
-/

set_option autoImplicit false

namespace KeySequenced

/-! ## Paths to one place -/

namespace Volume

/-- The paths lead to one place. -/
def SamePlace (volume : Volume) (path other : String) : Prop :=
  ∃ place, volume.resolve path = .ok place ∧ volume.resolve other = .ok place

instance (volume : Volume) (path other : String) : Decidable (volume.SamePlace path other) :=
  match resolved : volume.resolve path with
  | .error _ => isFalse (by simp [SamePlace, resolved])
  | .ok place => decidable_of_iff (volume.resolve other = .ok place) (by simp [SamePlace, resolved])

section SamePlace

variable {volume after : Volume} {path other : String}

theorem SamePlace.of_sameDirectories (same : volume.SamePlace path other)
    (directories : volume.SameDirectories after) : after.SamePlace path other := by
  obtain ⟨place, first, second⟩ := same
  exact ⟨place, resolve_of_sameDirectories directories first,
    resolve_of_sameDirectories directories second⟩

theorem samePlace_iff_of_sameDirectories (same : volume.SameDirectories after)
    (path other : String) : volume.SamePlace path other ↔ after.SamePlace path other :=
  ⟨fun place => place.of_sameDirectories same, fun place => place.of_sameDirectories same.symm⟩

theorem SamePlace.read_eq (same : volume.SamePlace path other) :
    volume.read path = volume.read other := by
  obtain ⟨place, first, second⟩ := same
  simp only [read, lookup, first, second]

/-- A path reads the same if the directories and what stands at its place are the same. -/
theorem read_iff_of_place (directories : volume.SameDirectories after)
    (kept : ∀ place, volume.resolve path = .ok place → after.node? place = volume.node? place)
    (content : Bytes) : after.read path = .ok content ↔ volume.read path = .ok content := by
  rw [read_eq_ok_iff, read_eq_ok_iff]
  constructor
  · rintro ⟨place, resolved, stands⟩
    have before := resolve_of_sameDirectories directories.symm resolved
    exact ⟨place, before, (kept place before) ▸ stands⟩
  · rintro ⟨place, resolved, stands⟩
    exact ⟨place, resolve_of_sameDirectories directories resolved,
      (kept place resolved).trans stands⟩

theorem read_iff_of_removeFile (apart : ¬ volume.SamePlace path other)
    (removed : volume.removeFile other = .ok after) (content : Bytes) :
    after.read path = .ok content ↔ volume.read path = .ok content := by
  obtain ⟨place, old, resolved, stands, rfl⟩ := (removeFile_eq_ok_iff _ _ _).mp removed
  have free : volume.node? place ≠ some .directory := by simp [stands]
  refine read_iff_of_place (sameDirectories_remove free) (fun under found => ?_) content
  have differ : under ≠ place := by
    rintro rfl
    exact apart ⟨_, found, resolved⟩
  rw [node?_remove _ _ _ (ne_nil_of_free free), if_neg differ]

end SamePlace

end Volume

namespace Catalog

/-! ## Changes at other places -/

section Files

variable {root name path : String} {dataset : Dataset} {catalog : Catalog} {volume : Volume}

/-- The file of a dataset is nobody's draft. -/
theorem resolve_temporary_ne {place : Place}
    (resolved : volume.resolve (snapshotPath root name) = .ok place) (path : String) :
    volume.resolve (Path.temporary path) ≠ .ok place := by
  intro drafted
  obtain ⟨file, ending⟩ := exists_last?_snapshotPath root name
  have last := Volume.getLast?_of_resolve ending (isName_file file) resolved
  obtain ⟨_, base, draft, _, rfl⟩ := Volume.exists_stands_of_resolve_temporary drafted
  rw [List.getLast?_concat] at last
  exact draft_ne_file draft file (Option.some.inj last)

/-- Saving changes the file of a dataset only if it succeeds there. -/
theorem read_iff_of_save {snapshot : Snapshot}
    (apart : ¬ volume.SamePlace (snapshotPath root name) path ∨
      ∃ fault, (snapshot.save path volume).1 = .error fault) (content : Bytes) :
    (snapshot.save path volume).2.read (snapshotPath root name) = .ok content ↔
      volume.read (snapshotPath root name) = .ok content := by
  refine Volume.read_iff_of_place (snapshot.sameDirectories_save path volume)
    (fun place resolved => ?_) content
  refine Snapshot.node?_save (resolve_temporary_ne resolved path) (apart.imp_left ?_)
  exact fun differ found => differ ⟨place, resolved, found⟩

theorem read_iff_of_close (located : dataset.location = some path)
    (apart : ¬ volume.SamePlace (snapshotPath root name) path ∨
      ∃ fault, (dataset.close volume).1 = .error fault) (content : Bytes) :
    (dataset.close volume).2.2.read (snapshotPath root name) = .ok content ↔
      volume.read (snapshotPath root name) = .ok content := by
  cases opened : dataset.isOpen with
  | false => rw [Dataset.close_of_shut opened]
  | true =>
    rw [Dataset.close_of_located opened located] at apart ⊢
    refine read_iff_of_save (apart.imp_right ?_) content
    rintro ⟨fault, failed⟩
    cases result : (dataset.save path volume).1 with
    | error other => exact ⟨other, result⟩
    | ok size =>
      rw [result] at failed
      cases failed

theorem read_iff_of_removeSnapshot {beside : Volume} (located : dataset.location = some path)
    (apart : ¬ volume.SamePlace (snapshotPath root name) path)
    (removed : removeSnapshot dataset volume = .ok beside) (content : Bytes) :
    beside.read (snapshotPath root name) = .ok content ↔
      volume.read (snapshotPath root name) = .ok content := by
  rcases removeSnapshot_cases located removed with gone | ⟨_, rfl⟩
  · exact Volume.read_iff_of_removeFile apart gone content
  · rfl

theorem not_samePlace_of_plain {other : String} (plain : Path.Plain name)
    (otherPlain : Path.Plain other) (differ : other ≠ name) (volume : Volume) :
    ¬ volume.SamePlace (snapshotPath root name) (snapshotPath root other) := by
  rintro ⟨place, first, second⟩
  have last := Volume.getLast?_of_resolve (last?_snapshotPath root plain) (isName_file name) first
  rw [Volume.getLast?_of_resolve (last?_snapshotPath root otherPlain) (isName_file other)
    second] at last
  exact differ (by simpa using last)

theorem read_iff_of_delete {other : String} {handle : Handle} {rival : Dataset}
    (found : catalog.entries.find? (normalize other) = some handle)
    (stands : catalog.dataset? handle = some rival) (located : rival.location = some path)
    (apart : ¬ volume.SamePlace (snapshotPath root name) path) (content : Bytes) :
    (catalog.delete other volume).2.2.read (snapshotPath root name) = .ok content ↔
      volume.read (snapshotPath root name) = .ok content := by
  rcases catalog.delete_cases other volume with
    ⟨_, refused⟩ | ⟨same, dataset, beside, again, stood, removed, deleted⟩
  · rw [refused]
  · rw [found] at again
    cases again
    rw [stands] at stood
    cases stood
    rw [deleted]
    exact read_iff_of_removeSnapshot located apart removed content

end Files

/-! ## Registered datasets -/

/-- The file of a registered dataset is its name with an ending under the root, and the path ends
in that if and only if the name is plain.  Then it is an entry of the root directory, and no other
plain name leads there.  Closing or deleting another dataset leaves the file unless the file of
that lies in the same place. -/
theorem files_of_registered {root : String} {course : Course}
    (possible : Possible (some root) course) {name : String} {handle : Handle} {dataset : Dataset}
    (found : course.catalog.entries.find? name = some handle)
    (stands : course.catalog.dataset? handle = some dataset) :
    let path := snapshotPath root name
    dataset.location = some path ∧
    (Path.Plain name ↔ Path.last? path = some (name ++ ".ksds")) ∧
    (Path.Plain name → ∀ (volume : Volume) (place : Place), volume.resolve path = .ok place ↔
      (∃ segments, Volume.segmentsOf path = .ok segments) ∧
        ∃ directory, volume.walk (Path.segments root) [] = .ok directory ∧
          volume.node? directory = some .directory ∧
          (name ++ ".ksds").utf8ByteSize ≤ Volume.longestName ∧
          place = directory ++ [name ++ ".ksds"]) ∧
    ∀ other otherHandle rival, course.catalog.entries.find? other = some otherHandle →
      course.catalog.dataset? otherHandle = some rival → other ≠ name →
      (Path.Plain name → Path.Plain other →
        ∀ volume : Volume, ¬ volume.SamePlace path (snapshotPath root other)) ∧
      ∀ volume : Volume, ¬ volume.SamePlace path (snapshotPath root other) → ∀ content,
        ((rival.close volume).2.2.read path = .ok content ↔ volume.read path = .ok content) ∧
        ((course.catalog.delete other volume).2.2.read path = .ok content ↔
          volume.read path = .ok content) := by
  have coherent := possible.coherent
  refine ⟨(coherent.location_eq found stands).2, plain_iff_last?_snapshotPath root name, ?_, ?_⟩
  · intro plain volume place
    exact volume.resolve_join_eq_ok_iff root (plain_file plain) (isName_file name) place
  · intro other otherHandle rival otherFound otherStands differ
    refine ⟨fun plain otherPlain => not_samePlace_of_plain plain otherPlain differ, ?_⟩
    intro volume apart content
    obtain ⟨normal, otherLocated⟩ := coherent.location_eq otherFound otherStands
    refine ⟨read_iff_of_close otherLocated (.inl apart) content, ?_⟩
    exact read_iff_of_delete (normal.symm ▸ otherFound) otherStands otherLocated apart content

/-- One of two datasets has been closed, and the other one, still open, is refused deletion. -/
theorem file_beside_open_dataset :
    let volume := Volume.empty.put ["r"] .directory
    let operations : List CatalogOperation := [.define (.keyed "a" 4), .define (.keyed "b c" 4),
      .use 0 (.openFor ⟨.inputOutput, .dynamic⟩), .use 0 (.write (.new [1] [5])), .use 0 .close,
      .use 1 (.openFor ⟨.inputOutput, .dynamic⟩)]
    let course := operations.foldl Course.ask ⟨[], empty (some "r"), volume⟩
    Possible (some "r") course ∧ course.catalog.entries.find? "A" = some 0 ∧ Path.Plain "A" ∧
      course.volume.resolve "r/A.ksds" = .ok ["r", "A.ksds"] ∧
      ∃ dataset rival content, course.catalog.dataset? 0 = some dataset ∧
        dataset.location = some "r/A.ksds" ∧ course.catalog.dataset? 1 = some rival ∧
        course.volume.read "r/A.ksds" = .ok content ∧
        (rival.close course.volume).2.2.read "r/A.ksds" = .ok content := by
  intro volume operations course
  have possible : Possible (some "r") course := (Possible.begun volume).run operations
  have found : course.catalog.entries.find? "A" = some 0 := by decide +kernel
  have otherFound : course.catalog.entries.find? "B C" = some 1 := by decide +kernel
  have plain : Path.Plain "A" := by decide
  have path : snapshotPath "r" "A" = "r/A.ksds" := by decide +kernel
  obtain ⟨dataset, stands, _⟩ := possible.coherent.registered _ _ found
  obtain ⟨rival, otherStands, _⟩ := possible.coherent.registered _ _ otherFound
  obtain ⟨located, _, inside, others⟩ := files_of_registered possible found stands
  obtain ⟨apart, left⟩ := others "B C" 1 rival otherFound otherStands (by decide)
  have resolved := (inside plain course.volume ["r", "A.ksds"]).mpr
    ⟨⟨_, rfl⟩, ["r"], by decide +kernel, by decide +kernel, by decide, by decide⟩
  have readable : ∃ content, course.volume.read "r/A.ksds" = .ok content := by
    have present : (course.volume.read "r/A.ksds").isOk = true := by decide +kernel
    cases result : course.volume.read "r/A.ksds" with
    | ok content => exact ⟨content, rfl⟩
    | error obstacle =>
      rw [result] at present
      cases present
  obtain ⟨content, readable⟩ := readable
  rw [path] at located resolved
  refine ⟨possible, found, plain, resolved, dataset, rival, content, stands, located,
    otherStands, readable, ?_⟩
  have kept := (left course.volume (apart plain (by decide) _) content).1
  rw [path] at kept
  exact kept.mpr readable

/-- Names with a dot and a slash are accepted; deleting the one dataset removes the file in which
the other one has been saved. -/
theorem lost_by_dotted_name :
    let volume := Volume.empty.put ["r"] .directory
    let operations : List CatalogOperation := [.define (.keyed "a" 4), .define (.keyed "./a" 4),
      .use 0 (.openFor ⟨.inputOutput, .dynamic⟩), .use 0 (.write (.new [1] [5])), .use 0 .close]
    let course := operations.foldl Course.ask ⟨[], empty (some "r"), volume⟩
    course.catalog.entries.find? "A" = some 0 ∧ course.catalog.entries.find? "./A" = some 1 ∧
      (course.catalog.dataset? 0).bind Dataset.location = some "r/A.ksds" ∧
      (course.catalog.dataset? 1).bind Dataset.location = some "r/./A.ksds" ∧
      (course.volume.read "r/A.ksds").isOk = true ∧
      (course.catalog.delete "./a" course.volume).2.2.read "r/A.ksds" = .error .missing := by
  decide +kernel

end Catalog

end KeySequenced
