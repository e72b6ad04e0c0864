import KeySequenced.Catalog.Operation
import KeySequenced.Proofs.Catalog.Names
import KeySequenced.Proofs.Dataset.Filed

/-!
# Registered datasets

A catalog with a root keeps the snapshot of every dataset in a file of its own:
plain names lead to different files, and a draft is never the file of another
dataset.  No request changes that a registered name has a dataset with its own
file, and a handle of its own.
-/

set_option autoImplicit false

namespace KeySequenced.Catalog

/-- Datasets get plain names, and none is used once it has been deleted. -/
def Orderly (catalog : Catalog) : CatalogOperation → Prop
  | .define definition => Path.Plain definition.clusterName
  | .use handle _ => (catalog.dataset? handle).isSome →
      ∃ entry ∈ catalog.entries.toList, entry.2 = handle
  | .lookup _ | .delete _ | .restart => True

instance (catalog : Catalog) : (operation : CatalogOperation) → Decidable (catalog.Orderly operation)
  | .define definition => inferInstanceAs (Decidable (Path.Plain definition.clusterName))
  | .use handle _ => inferInstanceAs (Decidable ((catalog.dataset? handle).isSome →
      ∃ entry ∈ catalog.entries.toList, entry.2 = handle))
  | .lookup _ | .delete _ | .restart => inferInstanceAs (Decidable True)

/-! ## Datasets that are registered -/

/-- What holds of a dataset that a catalog has defined, under whatever name. -/
structure Defined (root : Option String) (dataset : Dataset) : Prop where
  sound : ∃ definition, Dataset.Sound definition dataset
  normal : normalize dataset.clusterName = dataset.clusterName
  located : dataset.location = root.map fun root => snapshotPath root dataset.clusterName

/-- Every handle has a dataset that has been defined, every registered name a handle whose dataset
has that name, and a new handle is a new one. -/
structure Coherent (root : Option String) (catalog : Catalog) : Prop where
  rooted : catalog.root = root
  given : ∀ handle dataset, catalog.dataset? handle = some dataset → handle < catalog.nextHandle
  defined : ∀ handle dataset, catalog.dataset? handle = some dataset → Defined root dataset
  registered : ∀ name handle, catalog.entries.find? name = some handle →
    ∃ dataset, catalog.dataset? handle = some dataset ∧ dataset.clusterName = name

/-- A dataset that is kept under a name. -/
structure KeptUnder (root name : String) (dataset : Dataset) : Prop where
  plain : Path.Plain name
  sound : ∃ definition, Dataset.Sound definition dataset
  located : dataset.location = some (snapshotPath root name)

/-- Every registered name has a dataset with a file of its own, and a new handle is a new one. -/
structure Proper (root : String) (catalog : Catalog) : Prop where
  rooted : catalog.root = some root
  given : ∀ handle dataset, catalog.dataset? handle = some dataset → handle < catalog.nextHandle
  registered : ∀ name handle, catalog.entries.find? name = some handle →
    ∃ dataset, catalog.dataset? handle = some dataset ∧ KeptUnder root name dataset

section Registered

variable {root : Option String} {directory name other : String} {catalog after : Catalog}
  {handle : Handle} {dataset : Dataset} {definition : Definition} {volume : Volume}

theorem dataset?_setDataset (catalog : Catalog) (handle other : Handle) (dataset : Dataset) :
    (catalog.setDataset handle dataset).dataset? other
      = if other = handle then some dataset else catalog.dataset? other :=
  Table.find?_insert ..

theorem dataset?_register (catalog : Catalog) (name : String) (dataset : Dataset)
    (handle : Handle) : (catalog.register name dataset).dataset? handle
      = if handle = catalog.nextHandle then some dataset else catalog.dataset? handle :=
  Table.find?_insert ..

theorem clusterName_perform (sound : ∃ definition, Dataset.Sound definition dataset)
    (request : Operation) (volume : Volume) :
    (dataset.perform request volume).2.1.clusterName = dataset.clusterName := by
  obtain ⟨definition, sound⟩ := sound
  have later := sound.next (Dataset.transition_perform request dataset volume)
  rw [Dataset.clusterName, Dataset.clusterName, later.definition_eq, sound.definition_eq]

theorem Defined.perform (defined : Defined root dataset) (request : Operation) (volume : Volume) :
    Defined root (dataset.perform request volume).2.1 := by
  have transition := Dataset.transition_perform request dataset volume
  have same := clusterName_perform defined.sound request volume
  obtain ⟨definition, sound⟩ := defined.sound
  refine ⟨⟨definition, sound.next transition⟩, ?_, ?_⟩
  · rw [same, defined.normal]
  · rw [same, transition.location_eq, defined.located]

theorem clusterName_create {location : Option String}
    (created : Dataset.create { definition with clusterName := name } location volume
      = .ok dataset) : dataset.clusterName = name :=
  congrArg Definition.clusterName (Dataset.sound_of_create created).definition_eq

theorem locationFor_of_root (rooted : catalog.root = root) (name : String) :
    catalog.locationFor name = root.map fun root => snapshotPath root name := by
  rw [locationFor, rooted]
  rfl

theorem defined_create (rooted : catalog.root = root)
    (created : Dataset.create { definition with clusterName := normalize name }
      (catalog.locationFor (normalize name)) volume = .ok dataset) : Defined root dataset where
  sound := ⟨_, Dataset.sound_of_create created⟩
  normal := by rw [clusterName_create created, normalize_normalize]
  located := by
    rw [clusterName_create created, (Dataset.shut_of_create created).1,
      locationFor_of_root rooted]

theorem coherent_empty (root : Option String) : Coherent root (empty root) where
  rooted := rfl
  given handle dataset stands := by simp [dataset?, empty] at stands
  defined handle dataset stands := by simp [dataset?, empty] at stands
  registered name handle found := by simp [empty] at found

theorem Coherent.register (coherent : Coherent root catalog) (defined : Defined root dataset)
    (named : dataset.clusterName = name) : Coherent root (catalog.register name dataset) := by
  refine ⟨coherent.rooted, ?_, ?_, ?_⟩
  · intro handle found stands
    rw [dataset?_register] at stands
    split at stands
    · rename_i new
      rw [new]
      exact Nat.lt_succ_self _
    · exact Nat.lt_succ_of_lt (coherent.given handle found stands)
  · intro handle found stands
    rw [dataset?_register] at stands
    split at stands
    · cases stands
      exact defined
    · exact coherent.defined handle found stands
  · intro other handle found
    simp only [Catalog.register, Table.find?_insert] at found
    split at found
    · rename_i same
      cases found
      exact ⟨dataset, by rw [dataset?_register, if_pos rfl], named.trans same.symm⟩
    · obtain ⟨old, stands, oldName⟩ := coherent.registered other handle found
      have less := coherent.given handle old stands
      exact ⟨old, by rw [dataset?_register, if_neg (Nat.ne_of_lt less), stands], oldName⟩

theorem find?_unregister (catalog : Catalog) (name other : String) :
    (catalog.unregister name).entries.find? other
      = if other = name then none else catalog.entries.find? other :=
  Table.find?_erase ..

theorem Coherent.unregister (coherent : Coherent root catalog) (name : String) :
    Coherent root (catalog.unregister name) := by
  refine ⟨coherent.rooted, coherent.given, coherent.defined, ?_⟩
  intro other handle found
  rw [find?_unregister] at found
  split at found
  · cases found
  · exact coherent.registered other handle found

theorem Coherent.setDataset (coherent : Coherent root catalog)
    (stands : catalog.dataset? handle = some dataset) {changed : Dataset}
    (defined : Defined root changed) (named : changed.clusterName = dataset.clusterName) :
    Coherent root (catalog.setDataset handle changed) := by
  refine ⟨coherent.rooted, ?_, ?_, ?_⟩
  · intro other found stood
    rw [dataset?_setDataset] at stood
    split at stood
    · rename_i same
      rw [same]
      exact coherent.given handle dataset stands
    · exact coherent.given other found stood
  · intro other found stood
    rw [dataset?_setDataset] at stood
    split at stood
    · cases stood
      exact defined
    · exact coherent.defined other found stood
  · intro name other found
    obtain ⟨old, stood, oldName⟩ := coherent.registered name other found
    rw [dataset?_setDataset]
    split
    · rename_i same
      rw [same, stands] at stood
      cases stood
      exact ⟨changed, rfl, named.trans oldName⟩
    · exact ⟨old, stood, oldName⟩

theorem Coherent.clusterName_eq (coherent : Coherent root catalog)
    (found : catalog.entries.find? name = some handle)
    (stands : catalog.dataset? handle = some dataset) : dataset.clusterName = name := by
  obtain ⟨same, stood, named⟩ := coherent.registered name handle found
  rw [stands] at stood
  cases stood
  exact named

/-- A registered name is normalized, and its dataset has the file of that name. -/
theorem Coherent.location_eq (coherent : Coherent (some directory) catalog)
    (found : catalog.entries.find? name = some handle)
    (stands : catalog.dataset? handle = some dataset) :
    normalize name = name ∧ dataset.location = some (snapshotPath directory name) := by
  obtain rfl := coherent.clusterName_eq found stands
  have defined := coherent.defined handle dataset stands
  exact ⟨defined.normal, defined.located⟩

/-! ## What requests do -/

theorem create_eq_ok_iff : catalog.create definition volume = .ok dataset ↔
    catalog.entries.contains (normalize definition.clusterName) = false ∧
      Dataset.create { definition with clusterName := normalize definition.clusterName }
        (catalog.locationFor (normalize definition.clusterName)) volume = .ok dataset := by
  simp only [create]
  cases catalog.entries.contains (normalize definition.clusterName) with
  | true => simp
  | false =>
    cases Dataset.create { definition with clusterName := normalize definition.clusterName }
        (catalog.locationFor (normalize definition.clusterName)) volume <;> simp

theorem define_eq_ok (defined : catalog.define definition volume = (.ok handle, after)) :
    ∃ dataset, Dataset.create { definition with clusterName := normalize definition.clusterName }
        (catalog.locationFor (normalize definition.clusterName)) volume = .ok dataset ∧
      handle = catalog.nextHandle ∧
      after = catalog.register (normalize definition.clusterName) dataset := by
  unfold define at defined
  split at defined
  · cases defined
  · rename_i dataset created
    cases defined
    exact ⟨dataset, (create_eq_ok_iff.mp created).2, rfl, rfl⟩

/-- A definition that fails leaves the catalog as it was. -/
theorem define_eq_error {fault : CatalogFault}
    (refused : catalog.define definition volume = (.error fault, after)) : after = catalog := by
  unfold define at refused
  split at refused
  · cases refused
    rfl
  · cases refused

/-- Deleting either changes nothing or takes away the registration and the snapshot. -/
theorem delete_cases (catalog : Catalog) (name : String) (volume : Volume) :
    (∃ fault, catalog.delete name volume = (.error fault, catalog, volume)) ∨
      ∃ handle dataset beside, catalog.entries.find? (normalize name) = some handle ∧
        catalog.dataset? handle = some dataset ∧ removeSnapshot dataset volume = .ok beside ∧
        catalog.delete name volume = (.ok (), catalog.unregister (normalize name), beside) := by
  unfold delete
  simp only
  cases registered : catalog.entries.find? (normalize name) with
  | none => exact .inl ⟨_, rfl⟩
  | some handle =>
    cases stands : catalog.dataset? handle with
    | none =>
      simp only [Option.bind_some, stands]
      exact .inl ⟨_, rfl⟩
    | some dataset =>
      simp only [Option.bind_some, stands]
      split
      · exact .inl ⟨_, rfl⟩
      split
      · exact .inl ⟨_, rfl⟩
      · rename_i beside removed
        exact .inr ⟨handle, dataset, beside, rfl, stands, removed, rfl⟩

theorem perform_use (stands : catalog.dataset? handle = some dataset) (request : Operation)
    (volume : Volume) : catalog.perform (.use handle request) volume
      = (.used (some (dataset.perform request volume).1),
        catalog.setDataset handle (dataset.perform request volume).2.1,
        (dataset.perform request volume).2.2) := by
  simp [perform, stands]

theorem perform_unused (unused : catalog.dataset? handle = none) (request : Operation)
    (volume : Volume) :
    catalog.perform (.use handle request) volume = (.used none, catalog, volume) := by
  simp [perform, unused]

theorem Coherent.perform (coherent : Coherent root catalog) (operation : CatalogOperation)
    (volume : Volume) : Coherent root (catalog.perform operation volume).2.1 := by
  cases operation with
  | define definition =>
    cases defined : catalog.define definition volume with
    | mk result after =>
      simp only [Catalog.perform, defined]
      cases result with
      | error fault => exact define_eq_error defined ▸ coherent
      | ok handle =>
        obtain ⟨dataset, created, _, rfl⟩ := define_eq_ok defined
        exact coherent.register (defined_create coherent.rooted created)
          (clusterName_create created)
  | lookup name => exact coherent
  | delete name =>
    rcases catalog.delete_cases name volume with ⟨fault, refused⟩ | ⟨_, _, _, _, _, _, deleted⟩
    · simp only [Catalog.perform, refused]
      exact coherent
    · simp only [Catalog.perform, deleted]
      exact coherent.unregister _
  | restart =>
    simp only [Catalog.perform, restart, coherent.rooted]
    exact coherent_empty root
  | use handle request =>
    cases stands : catalog.dataset? handle with
    | none =>
      rw [perform_unused stands]
      exact coherent
    | some dataset =>
      have defined := coherent.defined handle dataset stands
      rw [perform_use stands]
      exact coherent.setDataset stands (defined.perform request volume)
        (clusterName_perform defined.sound request volume)

/-! ## Plain names -/

/-- An orderly request registers plain names only. -/
theorem plain_perform (plain : ∀ name handle, catalog.entries.find? name = some handle →
      Path.Plain name) {operation : CatalogOperation} (orderly : catalog.Orderly operation)
    (volume : Volume) (name : String) (handle : Handle)
    (found : (catalog.perform operation volume).2.1.entries.find? name = some handle) :
    Path.Plain name := by
  cases operation with
  | define definition =>
    cases defined : catalog.define definition volume with
    | mk result after =>
      simp only [Catalog.perform, defined] at found
      cases result with
      | error fault => exact plain name handle (define_eq_error defined ▸ found)
      | ok new =>
        obtain ⟨dataset, _, _, rfl⟩ := define_eq_ok defined
        simp only [Catalog.register, Table.find?_insert] at found
        split at found
        · rename_i same
          rw [same]
          exact plain_normalize orderly
        · exact plain name handle found
  | lookup other => exact plain name handle found
  | delete other =>
    rcases catalog.delete_cases other volume with ⟨_, refused⟩ | ⟨_, _, _, _, _, _, deleted⟩
    · simp only [Catalog.perform, refused] at found
      exact plain name handle found
    · simp only [Catalog.perform, deleted, find?_unregister] at found
      split at found
      · cases found
      · exact plain name handle found
  | restart => simp [Catalog.perform, restart, empty] at found
  | use other request =>
    cases stands : catalog.dataset? other with
    | none =>
      rw [perform_unused stands] at found
      exact plain name handle found
    | some dataset =>
      rw [perform_use stands] at found
      exact plain name handle found

theorem Coherent.proper (coherent : Coherent (some directory) catalog)
    (plain : ∀ name handle, catalog.entries.find? name = some handle → Path.Plain name) :
    Proper directory catalog := by
  refine ⟨coherent.rooted, coherent.given, ?_⟩
  intro name handle found
  obtain ⟨dataset, stands, rfl⟩ := coherent.registered name handle found
  have defined := coherent.defined handle dataset stands
  exact ⟨dataset, stands, plain _ handle found, defined.sound, defined.located⟩

theorem Proper.keptUnder (proper : Proper directory catalog)
    (found : catalog.entries.find? name = some handle)
    (stands : catalog.dataset? handle = some dataset) : KeptUnder directory name dataset := by
  obtain ⟨same, stood, kept⟩ := proper.registered name handle found
  rw [stands] at stood
  cases stood
  exact kept

theorem Proper.name_eq (proper : Proper directory catalog)
    (first : catalog.entries.find? name = some handle)
    (second : catalog.entries.find? other = some handle) : name = other := by
  obtain ⟨dataset, stands, kept⟩ := proper.registered name handle first
  have keptToo := proper.keptUnder second stands
  have located := kept.located
  rw [keptToo.located] at located
  exact (eq_of_snapshotPath_eq keptToo.plain kept.plain (Option.some.inj located)).symm

end Registered

end KeySequenced.Catalog
