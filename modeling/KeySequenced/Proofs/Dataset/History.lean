import KeySequenced.Proofs.Dataset.Transition
import KeySequenced.Proofs.Snapshot.Frames

/-!
# Histories

A history is a list of requests to a dataset, each made beside a volume of its
own: what other programs do to the files between two requests is left open.
Whatever the requests are, the records and the index of addresses agree, and a
closed dataset has no cursors.
-/

set_option autoImplicit false

namespace KeySequenced

/-- A request and the volume beside which it is made. -/
structure Request where
  operation : Operation
  volume : Volume

/-- A request that has been made, its answer and the dataset after it. -/
structure Event where
  operation : Operation
  answer : Except Fault Answer
  after : Dataset

namespace Dataset

def event (dataset : Dataset) (request : Request) : Event where
  operation := request.operation
  answer := (dataset.perform request.operation request.volume).1
  after := (dataset.perform request.operation request.volume).2.1

def events : Dataset → List Request → List Event
  | _, [] => []
  | dataset, request :: rest =>
    dataset.event request :: (dataset.event request).after.events rest

def follow (dataset : Dataset) (requests : List Request) : Dataset :=
  requests.foldl (fun dataset request => (dataset.event request).after) dataset

section Histories

variable (dataset : Dataset) (first second requests : List Request) (request : Request)

@[simp] theorem follow_nil : dataset.follow [] = dataset := rfl

@[simp] theorem events_nil : dataset.events [] = [] := rfl

theorem follow_append :
    dataset.follow (first ++ second) = (dataset.follow first).follow second := List.foldl_append

theorem follow_concat :
    dataset.follow (requests ++ [request]) = ((dataset.follow requests).event request).after :=
  follow_append ..

theorem follow_append_cons :
    dataset.follow (first ++ request :: second)
      = (dataset.follow (first ++ [request])).follow second := by
  rw [← follow_append, List.append_assoc, List.singleton_append]

theorem events_append :
    dataset.events (first ++ second)
      = dataset.events first ++ (dataset.follow first).events second := by
  induction first generalizing dataset with
  | nil => rfl
  | cons request rest ih =>
    simp only [List.cons_append, events, ih]
    rfl

theorem events_concat :
    dataset.events (requests ++ [request])
      = dataset.events requests ++ [(dataset.follow requests).event request] :=
  events_append ..

theorem length_events : (dataset.events requests).length = requests.length := by
  induction requests generalizing dataset with
  | nil => rfl
  | cons request rest ih => exact congrArg Nat.succ (ih _)

theorem transition_event :
    Transition dataset request.volume request.operation (dataset.event request).answer
      (dataset.event request).after :=
  transition_perform ..

end Histories

/-- What every transition keeps, every history keeps. -/
theorem keeps_follow {motive : Dataset → Prop}
    (step : ∀ {dataset after : Dataset}, motive dataset →
      ∀ {volume operation answer}, Transition dataset volume operation answer after → motive after)
    {dataset : Dataset} (begun : motive dataset) (requests : List Request) :
    motive (dataset.follow requests) := by
  induction requests generalizing dataset with
  | nil => exact begun
  | cons request rest ih => exact ih (step begun (dataset.transition_event request))

theorem run_cons (operation : Operation) (rest : List Operation) (dataset : Dataset)
    (volume : Volume) :
    dataset.run (operation :: rest) volume =
      ((dataset.perform operation volume).1
          :: ((dataset.perform operation volume).2.1.run rest
            (dataset.perform operation volume).2.2).1,
        ((dataset.perform operation volume).2.1.run rest
          (dataset.perform operation volume).2.2).2) := rfl

/-- A run beside one volume is a history. -/
theorem follow_of_run (operations : List Operation) (dataset : Dataset) (volume : Volume) :
    ∃ requests : List Request, requests.map Request.operation = operations ∧
      (dataset.events requests).map Event.answer = (dataset.run operations volume).1 ∧
      dataset.follow requests = (dataset.run operations volume).2.1 := by
  induction operations generalizing dataset volume with
  | nil => exact ⟨[], rfl, rfl, rfl⟩
  | cons operation rest ih =>
    obtain ⟨requests, same, answers, followed⟩ :=
      ih (dataset.perform operation volume).2.1 (dataset.perform operation volume).2.2
    refine ⟨⟨operation, volume⟩ :: requests, ?_, ?_, ?_⟩
    · rw [List.map_cons, same]
    · rw [run_cons, ← answers]
      rfl
    · rw [run_cons, ← followed]
      rfl

/-- A dataset is created empty where its location holds nothing, and else loaded from there. -/
theorem new_or_load_of_create {definition : Definition} {location : Option String}
    {volume : Volume} {dataset : Dataset}
    (success : create definition location volume = .ok dataset) :
    (dataset = new definition location ∧
      ∀ path, location = some path → volume.holds path = false) ∨
    ∃ path, location = some path ∧
      (new definition location).load path volume = (.ok (), dataset) := by
  unfold create at success
  split at success
  · cases success
  split at success
  · cases success
  cases location with
  | none =>
    cases success
    exact .inl ⟨rfl, fun path located => by cases located⟩
  | some path =>
    simp only at success
    split at success
    · cases loaded : (new definition (some path)).load path volume with
      | mk result restored =>
        rw [loaded] at success
        cases result with
        | error fault => cases success
        | ok _ =>
          cases success
          exact .inr ⟨path, rfl, loaded⟩
    · rename_i missing
      cases success
      refine .inl ⟨rfl, ?_⟩
      intro other located
      cases located
      exact Bool.eq_false_iff.mpr missing

/-- A dataset that has been created has at most the history of one load. -/
theorem follow_of_create {definition : Definition} {location : Option String} {volume : Volume}
    {dataset : Dataset} (success : create definition location volume = .ok dataset) :
    ∃ requests, dataset = (new definition location).follow requests := by
  rcases new_or_load_of_create success with ⟨fresh, _⟩ | ⟨path, _, loaded⟩
  · exact ⟨[], fresh⟩
  · refine ⟨[⟨.load path, volume⟩], ?_⟩
    simp only [follow, List.foldl_cons, List.foldl_nil, event, perform, loaded]

/-! ## What every history keeps -/

/-- What holds of a dataset whatever has been requested of it. -/
structure Sound (definition : Definition) (dataset : Dataset) : Prop where
  definition_eq : dataset.definition = definition
  consistent : dataset.store.Consistent definition
  seated : dataset.session = none → ∀ number, dataset.cursors.find? number = none

section Sound

variable {definition : Definition} {dataset after : Dataset}

theorem sound_new (definition : Definition) (location : Option String) :
    Sound definition (new definition location) where
  definition_eq := rfl
  consistent := Store.consistent_empty definition 0
  seated _ number := by simp [new]

theorem Sound.setCursor (sound : Sound definition dataset) (number : UInt64) (cursor : Cursor)
    (unshut : dataset.closed? = none) : Sound definition (dataset.setCursor number cursor) := by
  refine ⟨sound.definition_eq, sound.consistent, ?_⟩
  intro shut
  obtain ⟨session, seated⟩ := (closed?_eq_none_iff dataset).mp unshut
  rw [show dataset.session = none from shut] at seated
  cases seated

theorem Sound.next (sound : Sound definition dataset) {volume : Volume} {operation : Operation}
    {answer : Except Fault Answer} (transition : Transition dataset volume operation answer after) :
    Sound definition after := by
  cases transition with
  | refused | shown | saved => exact sound
  | found => exact ⟨sound.definition_eq, sound.consistent, sound.seated⟩
  | opened session shut =>
    refine ⟨sound.definition_eq, sound.consistent, ?_⟩
    intro none
    cases none
  | closed unshut =>
    refine ⟨sound.definition_eq, sound.consistent, ?_⟩
    intro _ number
    simp [Dataset.closed]
  | wrote record next fit absent room =>
    have fits := ((unfit?_eq_none_iff ..).mp fit).2
    rw [sound.definition_eq] at fits
    have nonempty := ((definition.refusal?_eq_none_iff _ _).mp fits).1
    have long : 0 < record.key.length := List.length_pos_iff.mpr nonempty
    have ends := (Store.endOf?_eq_some_iff _ _ _).mp room
    simp only [Record.storedLength] at ends
    have less : dataset.store.nextRba < next := by
      rw [UInt64.lt_iff_toNat_lt]
      omega
    exact ⟨sound.definition_eq, sound.consistent.put rfl sound.consistent.index_nextRba absent
      ⟨rfl, fits⟩ less (UInt64.le_of_lt less), sound.seated⟩
  | updated key data stored fit stands =>
    have fits := ((unfit?_eq_none_iff ..).mp fit).2
    rw [sound.definition_eq] at fits
    exact ⟨sound.definition_eq, sound.consistent.replace stands fits, sound.seated⟩
  | erased key stored unlocked stands =>
    exact ⟨sound.definition_eq, sound.consistent.remove stands, sound.seated⟩
  | started key orAbove direction unshut =>
    have moved := sound.setCursor dataset.nextCursor ((Cursor.new direction).placeOn
      (if orAbove then dataset.store.atOrAbove? key else dataset.store.find? key) key) unshut
    exact ⟨moved.definition_eq, moved.consistent, moved.seated⟩
  | stepped operation number asked cursor record asks unshut live free next =>
    have moved := sound.setCursor number (cursor.advanceTo record.key record.address) unshut
    exact ⟨moved.definition_eq, moved.consistent, moved.seated⟩
  | stopped operation number asked cursor asks unshut live free nothing =>
    exact sound.setCursor number _ unshut
  | ended number unshut =>
    refine ⟨sound.definition_eq, sound.consistent, ?_⟩
    intro shut other
    rw [Table.find?_erase]
    split
    · rfl
    · exact sound.seated shut other
  | placed number key cursor unshut live => exact sound.setCursor number _ unshut
  | loaded path snapshot store shut readable restored =>
    rw [sound.definition_eq] at restored
    refine ⟨sound.definition_eq, Store.consistent_ofSnapshot restored, ?_⟩
    intro _ number
    simp

theorem Sound.follow (sound : Sound definition dataset) (requests : List Request) :
    Sound definition (dataset.follow requests) :=
  keeps_follow Sound.next sound requests

theorem sound_follow (definition : Definition) (location : Option String)
    (requests : List Request) : Sound definition ((new definition location).follow requests) :=
  (sound_new definition location).follow requests

end Sound

end Dataset

end KeySequenced
