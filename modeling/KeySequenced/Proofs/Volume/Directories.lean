import KeySequenced.Proofs.Volume.Drafts

/-!
# Making directories

Making the directories of a path adds directories where nothing stood, and takes
nothing away.  Once they have been made, making them again changes nothing, as
long as no directory is removed; and what could be read before can be read
afterwards.
-/

set_option autoImplicit false

namespace KeySequenced.Volume

/-- What stands in a volume stands in the other one too. -/
def Extends (volume other : Volume) : Prop :=
  ∀ place node, volume.node? place = some node → other.node? place = some node

section Making

variable {volume made other third : Volume} {path : String} {place : Place}

theorem extends_refl (volume : Volume) : Extends volume volume := fun _ _ stands => stands

theorem Extends.trans (first : Extends volume other) (second : Extends other third) :
    Extends volume third :=
  fun place node stands => second place node (first place node stands)

theorem Extends.within (larger : Extends volume other) : DirectoriesWithin volume other :=
  fun place => larger place .directory

theorem DirectoriesWithin.trans (first : DirectoriesWithin volume other)
    (second : DirectoriesWithin other third) : DirectoriesWithin volume third :=
  fun place directory => second place (first place directory)

theorem Extends.read_eq_ok {content : Bytes} (larger : Extends volume other)
    (readable : volume.read path = .ok content) : other.read path = .ok content := by
  obtain ⟨place, resolved, stands⟩ := (read_eq_ok_iff _ _ _).mp readable
  exact (read_eq_ok_iff _ _ _).mpr
    ⟨place, resolve_of_directoriesWithin larger.within resolved, larger place _ stands⟩

theorem makeDirectory_eq_ok_iff (volume made : Volume) (path : String) :
    volume.makeDirectory path = .ok made ↔
      ∃ place, volume.resolveEntry path = .ok place ∧
        (volume.node? place = some .directory ∧ made = volume ∨
          volume.node? place = none ∧ made = volume.put place .directory) := by
  unfold makeDirectory
  cases volume.resolveEntry path with
  | error obstacle => simp
  | ok place =>
    cases stands : volume.node? place with
    | none => simp [stands, eq_comm]
    | some node => cases node <;> simp [stands, eq_comm]

theorem ne_nil_of_node?_eq_none (free : volume.node? place = none) : place ≠ [] :=
  ne_nil_of_free fun directory => by
    rw [free] at directory
    cases directory

theorem extends_put (free : volume.node? place = none) (node : Node) :
    Extends volume (volume.put place node) := by
  intro other stood stands
  have differ : other ≠ place := by
    rintro rfl
    rw [free] at stands
    cases stands
  rw [node?_put _ _ _ _ (ne_nil_of_node?_eq_none free), if_neg differ]
  exact stands

/-- A directory that has been made is there. -/
theorem extends_of_makeDirectory (success : volume.makeDirectory path = .ok made) :
    Extends volume made ∧
      ∃ place, volume.resolveEntry path = .ok place ∧ made.node? place = some .directory := by
  obtain ⟨place, resolved, ⟨directory, rfl⟩ | ⟨free, rfl⟩⟩ :=
    (makeDirectory_eq_ok_iff _ _ _).mp success
  · exact ⟨extends_refl _, place, resolved, directory⟩
  · refine ⟨extends_put free .directory, place, resolved, ?_⟩
    rw [node?_put _ _ _ _ (ne_nil_of_node?_eq_none free), if_pos rfl]

/-- Wherever there are at least these directories, there is nothing to make. -/
theorem makeDirectory_eq_self (success : volume.makeDirectory path = .ok made)
    (within : DirectoriesWithin made other) : other.makeDirectory path = .ok other := by
  obtain ⟨larger, place, resolved, directory⟩ := extends_of_makeDirectory success
  exact (makeDirectory_eq_ok_iff _ _ _).mpr
    ⟨place, resolveEntry_of_directoriesWithin (larger.within.trans within) resolved,
      .inl ⟨within place directory, rfl⟩⟩

theorem go_cons (volume : Volume) (base segment : String) (rest : List String) :
    makeDirectories.go volume base (segment :: rest) =
      if Path.join base segment = "" then makeDirectories.go volume "/" rest
      else
        match volume.makeDirectory (Path.join base segment) with
        | .error obstacle => .error obstacle
        | .ok made => makeDirectories.go made (Path.join base segment) rest := by
  rfl

theorem extends_of_go {base : String} {segments : List String}
    (success : makeDirectories.go volume base segments = .ok made) : Extends volume made := by
  induction segments generalizing volume base with
  | nil =>
    cases success
    exact extends_refl _
  | cons segment rest ih =>
    rw [go_cons] at success
    split at success
    · exact ih success
    · split at success
      · cases success
      · rename_i first
        exact (extends_of_makeDirectory first).1.trans (ih success)

theorem go_eq_self {base : String} {segments : List String}
    (success : makeDirectories.go volume base segments = .ok made)
    (within : DirectoriesWithin made other) :
    makeDirectories.go other base segments = .ok other := by
  induction segments generalizing volume base with
  | nil => rfl
  | cons segment rest ih =>
    rw [go_cons] at success ⊢
    split at success
    · rename_i bare
      rw [if_pos bare]
      exact ih success
    · rename_i named
      rw [if_neg named]
      split at success
      · cases success
      · rename_i first
        rw [makeDirectory_eq_self first ((extends_of_go success).within.trans within)]
        exact ih success

theorem extends_of_makeDirectories (success : volume.makeDirectories path = .ok made) :
    Extends volume made := extends_of_go success

theorem makeDirectories_eq_self (success : volume.makeDirectories path = .ok made)
    (within : DirectoriesWithin made other) : other.makeDirectories path = .ok other :=
  go_eq_self success within

end Making

/-! ## Empty directories -/

section Listing

variable {volume : Volume} {path : String}

/-- The path leads to a directory with nothing in it. -/
theorem list_eq_nil (bare : volume.list path = .ok []) :
    ∃ place, volume.resolve path = .ok place ∧ volume.node? place = some .directory ∧
      ∀ name, volume.node? (place ++ [name]) = none := by
  unfold list lookup at bare
  cases resolved : volume.resolve path with
  | error obstacle => simp [resolved] at bare
  | ok place =>
    cases stands : volume.node? place with
    | none => simp [resolved, stands] at bare
    | some node =>
      cases node with
      | file content => simp [resolved, stands] at bare
      | directory =>
        refine ⟨place, rfl, stands, ?_⟩
        intro name
        simp only [resolved, stands, Except.ok.injEq] at bare
        have shown := congrArg List.length bare
        rw [List.length_mergeSort, List.length_map, List.length_nil,
          List.length_eq_zero_iff] at shown
        cases below : volume.node? (place ++ [name]) with
        | none => rfl
        | some node =>
          have found : volume.nodes.find? (place ++ [name]) = some node := by
            simpa [node?] using below
          have listed : name ∈ volume.namesIn place := by
            refine List.mem_filterMap.mpr ⟨place ++ [name], ?_, by simp⟩
            exact List.mem_map_of_mem ((volume.nodes.find?_eq_some_iff _ _).mp found)
          rw [shown] at listed
          cases listed

end Listing

end KeySequenced.Volume
