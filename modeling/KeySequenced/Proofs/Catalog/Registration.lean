import KeySequenced.Proofs.Catalog.Durability

/-!
# The registry is a map

Whatever requests a catalog and the datasets behind its handles get, and whatever
becomes of the files meanwhile, the catalog is a map from normalized names to
handles: a name has the handle from its latest definition unless it has been
deleted since, and a request that fails changes neither the map nor the files.
-/

set_option autoImplicit false

namespace KeySequenced

/-- What an event makes of a name, if anything: registered with the handle that its definition
gives, or not registered when it is deleted or the program starts anew. -/
def CatalogEvent.registers? (name : String) (event : CatalogEvent) : Option (Option Handle) :=
  match event.operation, event.answer with
  | .define definition, .handle (.ok handle) =>
    if Catalog.normalize definition.clusterName = name then some (some handle) else none
  | .delete other, .deleted (.ok _) =>
    if Catalog.normalize other = name then some none else none
  | .restart, _ => some none
  | _, _ => none

/-- A request to the catalog itself has been refused. -/
def CatalogAnswer.isRefusal : CatalogAnswer → Bool
  | .handle (.error _) | .deleted (.error _) => true
  | _ => false

namespace Catalog

/-- The handle from the latest definition of a name, unless it has been deleted since; the latest
event comes first. -/
def lastRegistered (name : String) (events : List CatalogEvent) : Option Handle :=
  (events.findSome? (CatalogEvent.registers? name)).join

/-- The courses that requests of any kind can take, with any change of the files in between. -/
inductive Possible (root : Option String) : Course → Prop where
  | begun (volume : Volume) : Possible root ⟨[], empty root, volume⟩
  | asked {course : Course} (possible : Possible root course) (operation : CatalogOperation) :
      Possible root (course.ask operation)
  | elsewhere {course : Course} (possible : Possible root course) (volume : Volume) :
      Possible root { course with volume := volume }

/-- The catalog is the map that says which names are registered, with which handles. -/
structure ActsAs (registered : String → Option Handle) (catalog : Catalog) : Prop where
  /-- A registered name is normalized, and it is the name of its dataset. -/
  named : ∀ name handle, catalog.entries.find? name = some handle →
    normalize name = name ∧
      ∃ dataset, catalog.dataset? handle = some dataset ∧ dataset.clusterName = name
  found : ∀ name, catalog.lookup name =
    match registered (normalize name) with
    | some handle => .ok handle
    | none => .error (.notCataloged (normalize name))
  /-- A definition of a registered name is refused for that, whatever else may be wrong with it. -/
  taken_iff : ∀ definition volume name,
    (catalog.define definition volume).1 = .error (.alreadyCataloged name) ↔
      name = normalize definition.clusterName ∧ (registered name).isSome
  /-- A definition puts a new dataset behind a new handle and registers that, and nothing else. -/
  defined : ∀ definition volume handle after,
    catalog.define definition volume = (.ok handle, after) →
      catalog.dataset? handle = none ∧
      (∃ dataset, after.dataset? handle = some dataset ∧
        dataset.clusterName = normalize definition.clusterName) ∧
      (∀ other, other ≠ handle → after.dataset? other = catalog.dataset? other) ∧
      ∀ name, after.lookup name =
        if normalize name = normalize definition.clusterName then .ok handle
        else catalog.lookup name
  /-- A name is deleted if its dataset is closed and the file does not resist. -/
  deleted_iff : ∀ name volume, (catalog.delete name volume).1 = .ok () ↔
    ∃ handle dataset beside, registered (normalize name) = some handle ∧
      catalog.dataset? handle = some dataset ∧ dataset.session = none ∧
      removeSnapshot dataset volume = .ok beside
  /-- Deleting takes one name away and leaves every dataset behind its handle. -/
  deleted : ∀ name volume after beside,
    catalog.delete name volume = (.ok (), after, beside) →
      (∀ handle, after.dataset? handle = catalog.dataset? handle) ∧
      ∀ other, after.lookup other =
        if normalize other = normalize name then .error (.notCataloged (normalize other))
        else catalog.lookup other
  /-- A request to a dataset changes no other one, and no registration. -/
  used : ∀ handle request volume,
    let after := (catalog.perform (.use handle request) volume).2.1
    (∀ other, other ≠ handle → after.dataset? other = catalog.dataset? other) ∧
      ∀ name, after.lookup name = catalog.lookup name
  unchanged : ∀ operation volume, (catalog.perform operation volume).1.isRefusal = true →
    (catalog.perform operation volume).2 = (catalog, volume)
  ascending : catalog.names.Pairwise (· < ·)
  listed_iff : ∀ name, name ∈ catalog.names ↔ (registered name).isSome
  counted : catalog.size = catalog.names.length

/-- The first change in a list of events, the latest first, outweighs the rest. -/
theorem join_findSome?_cons {Value : Type} (change? : CatalogEvent → Option (Option Value))
    (event : CatalogEvent) (events : List CatalogEvent) :
    ((event :: events).findSome? change?).join
      = (change? event).getD (events.findSome? change?).join := by
  rw [List.findSome?_cons]
  cases change? event <;> rfl

section Courses

variable {root : Option String} {course : Course}

theorem Possible.run (possible : Possible root course) (operations : List CatalogOperation) :
    Possible root (operations.foldl Course.ask course) := by
  induction operations generalizing course with
  | nil => exact possible
  | cons operation rest ih => exact ih (possible.asked operation)

theorem Possible.coherent (possible : Possible root course) : Coherent root course.catalog := by
  induction possible with
  | begun volume => exact coherent_empty root
  | asked possible operation ih => exact ih.perform operation _
  | elsewhere possible volume ih => exact ih

theorem lastRegistered_cons (name : String) (event : CatalogEvent) (events : List CatalogEvent) :
    lastRegistered name (event :: events)
      = (event.registers? name).getD (lastRegistered name events) :=
  join_findSome?_cons _ event events

theorem find?_register (catalog : Catalog) (name other : String) (dataset : Dataset) :
    (catalog.register name dataset).entries.find? other
      = if other = name then some catalog.nextHandle else catalog.entries.find? other :=
  Table.find?_insert ..

/-- Whatever is asked of a catalog, the registered names change as the event says. -/
theorem find?_ask (course : Course) (operation : CatalogOperation) (name : String) :
    (course.ask operation).catalog.entries.find? name =
      (CatalogEvent.registers? name ⟨course.catalog, operation,
        (course.catalog.perform operation course.volume).1⟩).getD
        (course.catalog.entries.find? name) := by
  cases operation with
  | define definition =>
    cases defined : course.catalog.define definition course.volume with
    | mk result after =>
      simp only [Course.ask, Catalog.perform, defined]
      cases result with
      | error fault =>
        rw [define_eq_error defined]
        rfl
      | ok handle =>
        obtain ⟨dataset, _, rfl, rfl⟩ := define_eq_ok defined
        simp only [find?_register, CatalogEvent.registers?]
        by_cases same : name = normalize definition.clusterName
        · rw [if_pos same, if_pos same.symm, Option.getD_some]
        · rw [if_neg same, if_neg (Ne.symm same), Option.getD_none]
  | lookup other => rfl
  | delete other =>
    rcases course.catalog.delete_cases other course.volume with
      ⟨_, refused⟩ | ⟨_, _, _, _, _, _, deleted⟩
    · simp only [Course.ask, Catalog.perform, refused]
      rfl
    · simp only [Course.ask, Catalog.perform, deleted]
      simp only [find?_unregister, CatalogEvent.registers?]
      by_cases same : name = normalize other
      · rw [if_pos same, if_pos same.symm, Option.getD_some]
      · rw [if_neg same, if_neg (Ne.symm same), Option.getD_none]
  | restart => simp [Course.ask, Catalog.perform, restart, empty, CatalogEvent.registers?]
  | use handle request =>
    cases stands : course.catalog.dataset? handle with
    | none =>
      simp only [Course.ask, perform_unused stands]
      rfl
    | some dataset =>
      simp only [Course.ask, perform_use stands]
      rfl

theorem Possible.find?_eq (possible : Possible root course) (name : String) :
    course.catalog.entries.find? name = lastRegistered name course.events := by
  induction possible with
  | begun volume => simp [empty, lastRegistered]
  | asked possible operation ih => rw [find?_ask, ih, Course.ask, lastRegistered_cons]
  | elsewhere possible volume ih => exact ih

end Courses

/-! ## Requests -/

section Requests

variable {root : Option String} {catalog after : Catalog} {registered : String → Option Handle}
  {definition : Definition} {name : String} {volume beside : Volume} {handle : Handle}

theorem lookup_eq (catalog : Catalog) (name : String) : catalog.lookup name =
    match catalog.entries.find? (normalize name) with
    | some handle => .ok handle
    | none => .error (.notCataloged (normalize name)) := by
  unfold lookup
  cases catalog.entries.find? (normalize name) <;> rfl

theorem lookup_register (catalog : Catalog) (name other : String) (dataset : Dataset) :
    (catalog.register name dataset).lookup other =
      if normalize other = name then .ok catalog.nextHandle else catalog.lookup other := by
  rw [lookup_eq, lookup_eq, find?_register]
  by_cases same : normalize other = name
  · rw [if_pos same, if_pos same]
  · rw [if_neg same, if_neg same]

theorem lookup_unregister (catalog : Catalog) (name other : String) :
    (catalog.unregister name).lookup other =
      if normalize other = name then .error (.notCataloged (normalize other))
      else catalog.lookup other := by
  rw [lookup_eq, lookup_eq, find?_unregister]
  by_cases same : normalize other = name
  · rw [if_pos same, if_pos same]
  · rw [if_neg same, if_neg same]

theorem define_eq_taken_iff (catalog : Catalog) (definition : Definition) (volume : Volume)
    (name : String) : (catalog.define definition volume).1 = .error (.alreadyCataloged name) ↔
      name = normalize definition.clusterName ∧ (catalog.entries.find? name).isSome := by
  simp only [define, create]
  by_cases taken : catalog.entries.contains (normalize definition.clusterName) = true
  · simp only [taken, if_true, Except.error.injEq, CatalogFault.alreadyCataloged.injEq]
    constructor
    · rintro rfl
      exact ⟨rfl, taken⟩
    · rintro ⟨rfl, _⟩
      rfl
  · rw [if_neg taken]
    constructor
    · intro refused
      split at refused
      · rename_i failed
        split at failed <;> cases failed
        cases refused
      · cases refused
    · rintro ⟨rfl, stands⟩
      exact absurd stands taken

theorem delete_eq_ok_iff (catalog : Catalog) (name : String) (volume : Volume) :
    (catalog.delete name volume).1 = .ok () ↔
      ∃ handle dataset beside, catalog.entries.find? (normalize name) = some handle ∧
        catalog.dataset? handle = some dataset ∧ dataset.session = none ∧
        removeSnapshot dataset volume = .ok beside := by
  simp only [delete]
  cases found : catalog.entries.find? (normalize name) with
  | none => simp
  | some handle =>
    cases stands : catalog.dataset? handle with
    | none => simp [stands]
    | some dataset =>
      cases shut : dataset.session with
      | some session => simp [stands, Dataset.isOpen, shut]
      | none =>
        cases removed : removeSnapshot dataset volume <;>
          simp [stands, Dataset.isOpen, shut, removed]

/-- A request to the catalog itself that fails leaves the catalog and the files. -/
theorem perform_of_refusal (catalog : Catalog) (operation : CatalogOperation) (volume : Volume)
    (refused : (catalog.perform operation volume).1.isRefusal = true) :
    (catalog.perform operation volume).2 = (catalog, volume) := by
  cases operation with
  | define definition =>
    cases defined : catalog.define definition volume with
    | mk result after =>
      simp only [perform, defined] at refused ⊢
      cases result with
      | error fault => rw [define_eq_error defined]
      | ok handle => cases refused
  | lookup name => rfl
  | delete name =>
    rcases catalog.delete_cases name volume with ⟨fault, failed⟩ | ⟨_, _, _, _, _, _, deleted⟩
    · simp only [perform, failed]
    · simp only [perform, deleted] at refused
      cases refused
  | restart => cases refused
  | use handle request =>
    cases stands : catalog.dataset? handle with
    | none => rw [perform_unused stands]
    | some dataset =>
      rw [perform_use stands] at refused
      cases refused

theorem used_perform (catalog : Catalog) (handle : Handle) (request : Operation) (volume : Volume) :
    let after := (catalog.perform (.use handle request) volume).2.1
    (∀ other, other ≠ handle → after.dataset? other = catalog.dataset? other) ∧
      ∀ name, after.lookup name = catalog.lookup name := by
  intro after
  cases stands : catalog.dataset? handle with
  | none =>
    have same : after = catalog := by simp only [after, perform_unused stands]
    rw [same]
    exact ⟨fun _ _ => rfl, fun _ => rfl⟩
  | some dataset =>
    have changed : after = catalog.setDataset handle (dataset.perform request volume).2.1 := by
      simp only [after, perform_use stands]
    rw [changed]
    refine ⟨fun other differ => ?_, fun _ => rfl⟩
    rw [dataset?_setDataset, if_neg differ]

theorem mem_names_iff (catalog : Catalog) (name : String) :
    name ∈ catalog.names ↔ (catalog.entries.find? name).isSome := by
  rw [names, Table.keys, List.mem_map, Option.isSome_iff_exists]
  constructor
  · rintro ⟨⟨_, handle⟩, member, rfl⟩
    exact ⟨handle, (Table.find?_eq_some_iff _ _ _).mpr member⟩
  · rintro ⟨handle, stands⟩
    exact ⟨(name, handle), (Table.find?_eq_some_iff _ _ _).mp stands, rfl⟩

theorem pairwise_names (catalog : Catalog) : catalog.names.Pairwise (· < ·) := by
  rw [names, Table.keys, List.pairwise_map]
  exact catalog.entries.ascending_toList

end Requests

/-- After requests of any kind the catalog is the map that gives each name the handle from its
latest definition, unless the name has been deleted since. -/
theorem actsAs_lastRegistered {root : Option String} {course : Course}
    (possible : Possible root course) :
    ActsAs (fun name => lastRegistered name course.events) course.catalog := by
  have coherent := possible.coherent
  have entries := possible.find?_eq
  refine { named := ?_, found := ?_, taken_iff := ?_, defined := ?_, deleted_iff := ?_,
           deleted := ?_, used := course.catalog.used_perform,
           unchanged := course.catalog.perform_of_refusal,
           ascending := course.catalog.pairwise_names, listed_iff := ?_, counted := ?_ }
  · intro name handle stands
    obtain ⟨dataset, held, rfl⟩ := coherent.registered name handle stands
    exact ⟨(coherent.defined handle dataset held).normal, dataset, held, rfl⟩
  · intro name
    rw [lookup_eq, entries]
  · intro definition volume name
    rw [define_eq_taken_iff, entries]
  · intro definition volume handle after success
    obtain ⟨dataset, created, rfl, rfl⟩ := define_eq_ok success
    refine ⟨?_, ⟨dataset, ?_, clusterName_create created⟩, ?_, ?_⟩
    · cases held : course.catalog.dataset? course.catalog.nextHandle with
      | none => rfl
      | some other => exact absurd (coherent.given _ other held) (Nat.lt_irrefl _)
    · rw [dataset?_register, if_pos rfl]
    · intro other differ
      rw [dataset?_register, if_neg differ]
    · exact fun name => course.catalog.lookup_register _ name dataset
  · intro name volume
    simp only [delete_eq_ok_iff, entries]
  · intro name volume after beside success
    rcases course.catalog.delete_cases name volume with
      ⟨fault, refused⟩ | ⟨_, _, _, _, _, _, deleted⟩
    · rw [refused] at success
      cases success
    · rw [deleted] at success
      cases success
      exact ⟨fun _ => rfl, course.catalog.lookup_unregister _⟩
  · intro name
    rw [mem_names_iff, entries]
  · rw [size, names, Table.size_eq_length, Table.keys, List.length_map]

/-- A name that was open when it was first to be deleted has been deleted and defined again. -/
theorem registered_again :
    let operations : List CatalogOperation := [.define (.keyed " payroll" 4),
      .use 0 (.openFor ⟨.input, .random⟩), .delete "payroll", .define (.keyed "Payroll" 4),
      .use 0 .close, .delete "PAYROLL", .define (.keyed "b" 4), .define (.keyed "payroll\t" 4)]
    let course := operations.foldl Course.ask ⟨[], empty none, .empty⟩
    Possible none course ∧ course.catalog.lookup "Payroll" = .ok 2 ∧
      (course.catalog.define (.keyed "PayRoll" 0) .empty).1
        = .error (.alreadyCataloged "PAYROLL") ∧
      "B" ∈ course.catalog.names ∧ "b" ∉ course.catalog.names := by
  intro operations course
  have possible : Possible none course := (Possible.begun .empty).run operations
  have acts := actsAs_lastRegistered possible
  have latest : lastRegistered "PAYROLL" course.events = some 2 := by decide +kernel
  have upper : normalize "Payroll" = "PAYROLL" := by decide +kernel
  refine ⟨possible, ?_, ?_, ?_, ?_⟩
  · rw [acts.found, upper, latest]
  · rw [acts.taken_iff, latest]
    exact ⟨by decide +kernel, rfl⟩
  · rw [acts.listed_iff]
    decide +kernel
  · rw [acts.listed_iff]
    decide +kernel

end Catalog

end KeySequenced
