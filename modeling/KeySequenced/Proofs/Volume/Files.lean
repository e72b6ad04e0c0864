import KeySequenced.Proofs.Table.Neighbours
import KeySequenced.Volume.Basic
import Mathlib.Data.List.Induction

/-!
# Files that are written and moved

Which place a path names depends on the directories of a volume only, and
neither writing nor moving a file changes those.  So a path that a file can be
written under names one place throughout, and writing and moving succeed on
such paths alone.
-/

set_option autoImplicit false

namespace KeySequenced.Volume

/-- The directories of two volumes stand at the same places. -/
def SameDirectories (volume other : Volume) : Prop :=
  ∀ place, volume.node? place = some .directory ↔ other.node? place = some .directory

/-- The directories of a volume are directories of another one as well. -/
def DirectoriesWithin (volume other : Volume) : Prop :=
  ∀ place, volume.node? place = some .directory → other.node? place = some .directory

/-- The path names a place where a file can be written. -/
structure Target (volume : Volume) (path : String) (place : Place) : Prop where
  resolved : volume.resolveEntry path = .ok place
  named : Path.endsInName (Path.segments path) = true
  free : volume.node? place ≠ some .directory

/-! ## Nodes -/

section Nodes

variable (volume : Volume) (place other : Place) (node : Node)

theorem node?_put (below : place ≠ []) :
    (volume.put place node).node? other
      = if other = place then some node else volume.node? other := by
  unfold node? put
  by_cases same : other = place
  · simp [same, below]
  · simp [same, Table.find?_insert]

theorem node?_remove (below : place ≠ []) :
    (volume.remove place).node? other = if other = place then none else volume.node? other := by
  unfold node? remove
  by_cases same : other = place
  · simp [same, below]
  · simp [same, Table.find?_erase]

end Nodes

/-! ## Directories -/

section Directories

variable {volume other third : Volume} {path : String} {place : Place} {content : Bytes}

theorem ne_nil_of_free (free : volume.node? place ≠ some .directory) : place ≠ [] := by
  rintro rfl
  exact free rfl

theorem SameDirectories.symm (same : SameDirectories volume other) :
    SameDirectories other volume :=
  fun place => (same place).symm

theorem SameDirectories.within (same : SameDirectories volume other) :
    DirectoriesWithin volume other :=
  fun place => (same place).mp

theorem SameDirectories.trans (first : SameDirectories volume other)
    (second : SameDirectories other third) : SameDirectories volume third :=
  fun place => (first place).trans (second place)

theorem sameDirectories_put (free : volume.node? place ≠ some .directory) (content : Bytes) :
    SameDirectories volume (volume.put place (.file content)) := by
  intro other
  rw [node?_put _ _ _ _ (ne_nil_of_free free)]
  split
  · rename_i same
    rw [same]
    simp [free]
  · rfl

theorem sameDirectories_remove (free : volume.node? place ≠ some .directory) :
    SameDirectories volume (volume.remove place) := by
  intro other
  rw [node?_remove _ _ _ (ne_nil_of_free free)]
  split
  · rename_i same
    rw [same]
    simp [free]
  · rfl

/-- A walk asks for nothing but directories. -/
theorem walk_of_directoriesWithin (within : DirectoriesWithin volume other)
    {segments : List String} {start goal : Place}
    (success : volume.walk segments start = .ok goal) :
    other.walk segments start = .ok goal := by
  induction segments generalizing start with
  | nil => exact success
  | cons segment rest ih =>
    unfold walk at success ⊢
    split at success
    · cases success
    · cases success
    rename_i directory
    rw [within start directory]
    simp only
    split at success
    · rename_i idle
      rw [if_pos idle]
      exact ih success
    rename_i moves
    rw [if_neg moves]
    split at success
    · rename_i up
      rw [if_pos up]
      exact ih success
    rename_i down
    rw [if_neg down]
    split at success
    · cases success
    rename_i short
    rw [if_neg short]
    exact ih success

theorem resolveEntry_of_directoriesWithin (within : DirectoriesWithin volume other)
    (success : volume.resolveEntry path = .ok place) : other.resolveEntry path = .ok place := by
  unfold resolveEntry at success ⊢
  split at success
  · cases success
  · exact walk_of_directoriesWithin within success

theorem resolveEntry_of_sameDirectories (same : SameDirectories volume other)
    (success : volume.resolveEntry path = .ok place) : other.resolveEntry path = .ok place :=
  resolveEntry_of_directoriesWithin same.within success

theorem Target.of_sameDirectories (target : Target volume path place)
    (same : SameDirectories volume other) : Target other path place :=
  ⟨resolveEntry_of_sameDirectories same target.resolved, target.named,
    fun directory => target.free ((same place).mpr directory)⟩

/-! ## Files -/

theorem trimSlashes_eq_self {segments : List String} (named : Path.endsInName segments = true) :
    Path.trimSlashes segments = segments := by
  cases segments using List.reverseRecOn with
  | nil => rfl
  | append_singleton before last =>
    have notEmpty : last ≠ "" := by
      rintro rfl
      simp [Path.endsInName, Path.isName, Path.isIdle] at named
    simp [Path.trimSlashes, notEmpty]

theorem segments_eq_of_segmentsOf {segments : List String}
    (fit : segmentsOf path = .ok segments) : Path.segments path = segments := by
  unfold segmentsOf at fit
  repeat' split at fit
  all_goals cases fit
  rfl

theorem Target.resolve_eq (target : Target volume path place) : volume.resolve path = .ok place := by
  have resolved := target.resolved
  unfold resolveEntry at resolved
  unfold resolve
  split at resolved
  · cases resolved
  · rename_i segments found
    have named := target.named
    rw [segments_eq_of_segmentsOf found] at named
    rw [trimSlashes_eq_self named] at resolved
    exact resolved

theorem Target.lookup_eq (target : Target volume path place)
    (stands : volume.node? place = some (.file content)) :
    volume.lookup path = .ok (place, .file content) := by
  unfold lookup
  rw [target.resolve_eq]
  simp only [stands]

theorem Target.read_eq (target : Target volume path place)
    (stands : volume.node? place = some (.file content)) : volume.read path = .ok content := by
  unfold read
  rw [target.lookup_eq stands]

theorem holds_of_read (readable : volume.read path = .ok content) : volume.holds path = true := by
  unfold read at readable
  unfold holds
  cases found : volume.lookup path with
  | error obstacle =>
    rw [found] at readable
    cases readable
  | ok node => rfl

theorem write_eq_ok_iff (volume after : Volume) (path : String) (content : Bytes) :
    volume.write path content = .ok after ↔
      ∃ place, Target volume path place ∧ after = volume.put place (.file content) := by
  unfold write
  constructor
  · intro success
    split at success
    · cases success
    rename_i place resolved
    split at success
    · cases success
    rename_i named
    split at success
    · cases success
    rename_i free
    cases success
    exact ⟨place, ⟨resolved, by simpa using named, free⟩, rfl⟩
  · rintro ⟨place, target, rfl⟩
    rw [target.resolved]
    simp only [target.named, Bool.not_true, Bool.false_eq_true, if_false]
    split
    · rename_i directory
      exact absurd directory target.free
    · rfl

/-- Moving a file puts it under the target and leaves nothing at its old place. -/
theorem rename_eq_ok_iff {source : String} {origin : Place} (moved : Target volume source origin)
    (stands : volume.node? origin = some (.file content)) (after : Volume) :
    volume.rename source path = .ok after ↔
      ∃ goal, Target volume path goal ∧
        after = (volume.remove origin).put goal (.file content) := by
  unfold rename
  rw [moved.lookup_eq stands]
  simp only
  constructor
  · intro success
    split at success
    · cases success
    rename_i goal resolved
    split at success
    · cases success
    split at success
    · cases success
    rename_i named
    split at success
    · cases success
    rename_i free
    cases success
    exact ⟨goal, ⟨resolved, by simpa using named, free⟩, rfl⟩
  · rintro ⟨goal, target, rfl⟩
    rw [target.resolved]
    simp only [trimSlashes_eq_self target.named, target.named, Bool.not_true,
      Bool.false_eq_true, if_false]
    split
    · rename_i directory
      exact absurd directory target.free
    · rfl

end Directories

end KeySequenced.Volume
