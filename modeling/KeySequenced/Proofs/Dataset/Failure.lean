import KeySequenced.Proofs.Dataset.History
import Mathlib.Data.List.Induction

/-!
# Requests that fail

A request that ends in a fault leaves the dataset as it was.  Only a step that
meets an end of the data notes that, and in its own cursor.  A cursor that has
noted it before stays as it is, because no cursor is ever at both ends of the
data at once.
-/

set_option autoImplicit false

namespace KeySequenced

/-! ## Cursors at one end -/

namespace Cursor

/-- The cursor is not at both ends of the data at once. -/
def OneSided (cursor : Cursor) : Prop := cursor.atStart = false ∨ cursor.atEnd = false

/-- The cursor after a step through it has ended in a fault: an end of the data is noted. -/
def noting (cursor : Cursor) : Fault → Cursor
  | .endOfFile _ => { cursor with atStart := false, atEnd := true }
  | .startOfFile _ => { cursor with atStart := true, atEnd := false }
  | _ => cursor

section Ends

variable (cursor : Cursor) (direction : Direction)

theorem noting_endFault (number : UInt64) :
    cursor.noting (direction.endFault number) = cursor.stop direction := by
  cases direction <;> rfl

theorem oneSided_stop : (cursor.stop direction).OneSided := by
  cases direction with
  | forward => exact .inl rfl
  | backward => exact .inr rfl

theorem oneSided_advanceTo (key : Key) (address : Address) :
    (cursor.advanceTo key address).OneSided := .inl rfl

theorem oneSided_placeOn (found : Option Record) (requested : Key) :
    (cursor.placeOn found requested).OneSided := by
  cases found <;> exact .inl rfl

end Ends

/-- Noting an end of the data a second time changes nothing. -/
theorem OneSided.stop_eq_self {cursor : Cursor} {direction : Direction}
    (oneSided : cursor.OneSided) (stopped : cursor.stopped direction = true) :
    cursor.stop direction = cursor := by
  obtain ⟨way, resting, atStart, atEnd, recordsRead⟩ := cursor
  cases direction with
  | forward =>
    have ended : atEnd = true := stopped
    rcases oneSided with started | notEnded
    · simp only [stop, hitEnd, ended, show atStart = false from started]
    · rw [show atEnd = false from notEnded] at ended
      cases ended
  | backward =>
    have started : atStart = true := stopped
    rcases oneSided with notStarted | ended
    · rw [show atStart = false from notStarted] at started
      cases started
    · simp only [stop, hitStart, started, show atEnd = false from ended]

end Cursor

namespace Dataset

/-- No cursor of the dataset is at both ends of the data. -/
def OneSided (dataset : Dataset) : Prop :=
  ∀ number cursor, dataset.cursors.find? number = some cursor → cursor.OneSided

section OneSided

variable {dataset after : Dataset}

theorem OneSided.setCursor (oneSided : dataset.OneSided) (number : UInt64) {cursor : Cursor}
    (placed : cursor.OneSided) : (dataset.setCursor number cursor).OneSided := by
  intro other found live
  rw [find?_setCursor] at live
  split at live
  · cases live
    exact placed
  · exact oneSided other found live

theorem OneSided.next (oneSided : dataset.OneSided) {volume : Volume} {operation : Operation}
    {answer : Except Fault Answer} (transition : Transition dataset volume operation answer after) :
    after.OneSided := by
  cases transition with
  | refused | opened | found | wrote | updated | erased | shown | saved => exact oneSided
  | closed | loaded =>
    intro number cursor live
    simp [Dataset.closed] at live
  | started => exact oneSided.setCursor _ (Cursor.oneSided_placeOn ..)
  | stepped => exact oneSided.setCursor _ (Cursor.oneSided_advanceTo ..)
  | stopped => exact oneSided.setCursor _ (Cursor.oneSided_stop ..)
  | placed => exact oneSided.setCursor _ (Cursor.oneSided_placeOn ..)
  | ended number unshut =>
    intro other cursor live
    rw [Table.find?_erase] at live
    split at live
    · cases live
    · exact oneSided other cursor live

theorem OneSided.follow (oneSided : dataset.OneSided) (requests : List Request) :
    (dataset.follow requests).OneSided :=
  keeps_follow OneSided.next oneSided requests

theorem oneSided_new (definition : Definition) (location : Option String) :
    (new definition location).OneSided := by
  intro number cursor live
  simp [new] at live

end OneSided

/-! ## What a fault leaves behind -/

/-- Beside what the fault notes in the cursor that has been stepped, nothing has changed. -/
structure LeftBy (fault : Fault) (stepped : Option UInt64) (dataset after : Dataset) : Prop where
  session_eq : after.session = dataset.session
  store_eq : after.store = dataset.store
  statistics_eq : after.statistics = dataset.statistics
  nextCursor_eq : after.nextCursor = dataset.nextCursor
  cursors_eq : ∀ number, after.cursors.find? number = (dataset.cursors.find? number).map
    fun cursor => if stepped = some number then cursor.noting fault else cursor

section Failing

variable {dataset : Dataset} {fault : Fault}

theorem leftBy_self {stepped : Option UInt64}
    (noted : ∀ number cursor, stepped = some number →
      dataset.cursors.find? number = some cursor → cursor.noting fault = cursor) :
    LeftBy fault stepped dataset dataset := by
  refine ⟨rfl, rfl, rfl, rfl, ?_⟩
  intro number
  cases live : dataset.cursors.find? number with
  | none => rfl
  | some cursor =>
    by_cases same : stepped = some number
    · rw [Option.map_some, if_pos same, noted number cursor same live]
    · rw [Option.map_some, if_neg same]

theorem leftBy_setCursor {number : UInt64} {cursor : Cursor}
    (live : dataset.cursors.find? number = some cursor) :
    LeftBy fault (some number) dataset (dataset.setCursor number (cursor.noting fault)) := by
  refine ⟨rfl, rfl, rfl, rfl, ?_⟩
  intro other
  rw [find?_setCursor]
  by_cases same : other = number
  · rw [same, live, if_pos rfl, Option.map_some, if_pos rfl]
  · have differ : some number ≠ some other := fun equal => same (Option.some.inj equal).symm
    simp only [if_neg same, if_neg differ, Option.map_id']

/-- A step that fails leaves nothing but an end of the data in its cursor. -/
theorem OneSided.leftBy_step (oneSided : dataset.OneSided) {number : UInt64}
    {asked : Option Direction} (failed : (dataset.step number asked).1 = .error fault) :
    LeftBy fault (some number) dataset (dataset.step number asked).2 := by
  cases unshut : dataset.closed? with
  | some refusal =>
    simp only [step, unshut, dataset.eq_notOpen_of_closed? unshut] at failed ⊢
    cases failed
    exact leftBy_self fun _ _ _ _ => rfl
  | none =>
    cases live : dataset.cursors.find? number with
    | none =>
      simp only [step, unshut, live] at failed ⊢
      cases failed
      exact leftBy_self fun _ _ _ _ => rfl
    | some cursor =>
      rw [dataset.step_eq number asked unshut live] at failed ⊢
      cases free : cursor.stopped (asked.getD cursor.direction) with
      | true =>
        rw [free] at failed
        cases failed
        apply leftBy_self
        intro other found same stands
        cases same
        rw [live] at stands
        cases stands
        rw [Cursor.noting_endFault]
        exact (oneSided number cursor live).stop_eq_self free
      | false =>
        cases next : dataset.beyond? (asked.getD cursor.direction) cursor.resting with
        | none =>
          rw [free, next] at failed
          cases failed
          rw [← Cursor.noting_endFault _ _ number]
          exact leftBy_setCursor live
        | some record =>
          rw [free, next] at failed
          cases failed

theorem OneSided.leftBy (oneSided : dataset.OneSided) {request : Request}
    (failed : (dataset.event request).answer = .error fault) :
    LeftBy fault (request.operation.asks?.map Prod.fst) dataset (dataset.event request).after := by
  have transition := dataset.transition_event request
  rw [failed] at transition
  cases asks : request.operation.asks? with
  | none =>
    generalize (dataset.event request).after = after at transition ⊢
    generalize request.operation = operation at transition asks
    cases transition with
    | refused => exact leftBy_self fun _ _ stepped => nomatch stepped
    | stopped _ _ _ _ asked =>
      rw [asks] at asked
      cases asked
  | some pair =>
    obtain ⟨number, asked⟩ := pair
    have performed := dataset.perform_of_asks request.volume asks
    have answer : (dataset.step number asked).1.map Answer.record = .error fault :=
      (congrArg Prod.fst performed).symm.trans failed
    have stepped : (dataset.event request).after = (dataset.step number asked).2 :=
      congrArg (fun result => result.2.1) performed
    rw [stepped]
    apply oneSided.leftBy_step
    cases result : (dataset.step number asked).1 with
    | error other =>
      rw [result] at answer
      cases answer
      rfl
    | ok record =>
      rw [result] at answer
      cases answer

end Failing

/-- A request that ends in a fault changes neither the session nor the records, the index, the
next address, the statistics or the set of live cursors; a step that ends in an end of the data
notes it in its cursor. -/
theorem unchanged_of_error (definition : Definition) (location : Option String)
    (history : List Request) (request : Request) (fault : Fault)
    (failed : (((new definition location).follow history).event request).answer = .error fault) :
    let dataset := (new definition location).follow history
    let after := (dataset.event request).after
    after.session = dataset.session ∧ after.store.records = dataset.store.records ∧
      after.store.index = dataset.store.index ∧
      after.store.nextRba = dataset.store.nextRba ∧ after.statistics = dataset.statistics ∧
      after.nextCursor = dataset.nextCursor ∧
      ∀ number, after.cursors.find? number = (dataset.cursors.find? number).map fun cursor =>
        if request.operation.asks?.map Prod.fst = some number then cursor.noting fault
        else cursor := by
  intro dataset after
  have left := ((oneSided_new definition location).follow history).leftBy failed
  have stores := left.store_eq
  exact ⟨left.session_eq, congrArg Store.records stores, congrArg Store.index stores,
    congrArg Store.nextRba stores, left.statistics_eq, left.nextCursor_eq, left.cursors_eq⟩

/-- A step at the last of two records, with a second cursor beside it, after a refused write. -/
theorem unchanged_at_end_of_file :
    let history : List Request := [.openFor ⟨.inputOutput, .dynamic⟩, .write (.new [1] []),
      .write (.new [2] [7]), .write (.new [2] [8]), .startBrowse [1] true .forward,
      .startBrowse [2] true .forward].map fun operation => ⟨operation, .empty⟩
    let dataset := (new (.keyed "C" 4) none).follow history
    let event := dataset.event ⟨.readNext 2, .empty⟩
    let cursor : Cursor := ⟨.forward, some ⟨[2], .rba 1⟩, false, false, 0⟩
    event.answer = .error (.endOfFile 2) ∧ event.after.store.nextRba = dataset.store.nextRba ∧
      dataset.cursors.find? 2 = some cursor ∧
      event.after.cursors.find? 2 = some { cursor with atEnd := true } ∧
      event.after.cursors.find? 1 = dataset.cursors.find? 1 := by
  intro history dataset event cursor
  have failed : event.answer = .error (.endOfFile 2) := by decide +kernel
  have live : dataset.cursors.find? 2 = some cursor := by decide +kernel
  obtain ⟨_, _, _, next, _, _, cursors⟩ := unchanged_of_error (.keyed "C" 4) none history
    ⟨.readNext 2, .empty⟩ (.endOfFile 2) failed
  refine ⟨failed, next, live, ?_, ?_⟩
  · have noted := cursors 2
    change _ = (dataset.cursors.find? 2).map _ at noted
    rw [live] at noted
    exact noted
  · have kept := cursors 1
    change _ = (dataset.cursors.find? 1).map _ at kept
    exact kept.trans Option.map_id'

end Dataset

end KeySequenced
