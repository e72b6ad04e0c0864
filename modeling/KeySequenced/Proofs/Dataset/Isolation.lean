import KeySequenced.Proofs.Dataset.History
import Mathlib.Data.List.Basic

/-!
# Cursors do not interfere

Two runs of a dataset that differ only in reads by key or address and in requests
to other cursors show the same of one cursor and of the contents.  Such a request
leaves all but the other cursors and the statistics as it is, which is what
`Alike` compares, and every other request answers alike on datasets that are
alike.  So a run shows what it shows without the requests aside.
-/

set_option autoImplicit false

namespace KeySequenced

/-- The request reads by key or address, or it is one to a cursor of another number. -/
def Operation.isAside (number : UInt64) : Operation → Bool
  | .read _ | .readGeneric _ | .readAt _ => true
  | .readNext other | .readPrevious other | .readBrowse other | .endBrowse other
  | .resetBrowse other _ | .browseContext other => other != number
  | _ => false

/-- A step of a run: a request to the dataset, or a new state in which other programs leave the
files. -/
inductive Move where
  | ask (operation : Operation)
  | files (volume : Volume)

def Move.isAside (number : UInt64) : Move → Bool
  | .ask operation => operation.isAside number
  | .files _ => false

/-- A request that has been made, with the dataset and the files after it. -/
structure Moment extends Event where
  beside : Volume

/-- What a moment shows of a cursor, and of the dataset but for other cursors and statistics. -/
structure Glimpse where
  operation : Operation
  answer : Except Fault Answer
  cursor : Option Cursor
  records : Table Key Record
  index : Table UInt64 Key
  nextRba : UInt64
  session : Option Session
  beside : Volume

def Moment.glimpse (number : UInt64) (moment : Moment) : Glimpse where
  operation := moment.operation
  answer := moment.answer
  cursor := moment.after.cursors.find? number
  records := moment.after.store.records
  index := moment.after.store.index
  nextRba := moment.after.store.nextRba
  session := moment.after.session
  beside := moment.beside

namespace Dataset

def moment (dataset : Dataset) (volume : Volume) (operation : Operation) : Moment where
  operation := operation
  answer := (dataset.perform operation volume).1
  after := (dataset.perform operation volume).2.1
  beside := (dataset.perform operation volume).2.2

/-- The requests of a run, one after the other. -/
def moments (dataset : Dataset) (volume : Volume) : List Move → List Moment
  | [] => []
  | .ask operation :: rest =>
    dataset.moment volume operation
      :: (dataset.moment volume operation).after.moments
        (dataset.moment volume operation).beside rest
  | .files other :: rest => dataset.moments other rest

/-- What a run shows of a cursor by the requests that are not aside from it. -/
def glimpses (dataset : Dataset) (volume : Volume) (number : UInt64) (moves : List Move) :
    List Glimpse :=
  ((dataset.moments volume moves).filter fun moment => !moment.operation.isAside number).map
    (Moment.glimpse number)

/-! ## Datasets that are alike -/

/-- The datasets differ in nothing but the statistics and the cursors of other numbers. -/
structure Alike (number : UInt64) (dataset other : Dataset) : Prop where
  definition_eq : other.definition = dataset.definition
  location_eq : other.location = dataset.location
  session_eq : other.session = dataset.session
  store_eq : other.store = dataset.store
  nextCursor_eq : other.nextCursor = dataset.nextCursor
  cursor_eq : other.cursors.find? number = dataset.cursors.find? number

/-- Two requests give the same answer and leave datasets that are alike. -/
structure Agree {α : Type} (number : UInt64) (first second : Except Fault α × Dataset) : Prop where
  answer_eq : second.1 = first.1
  alike : Alike number first.2 second.2

theorem alike_refl (number : UInt64) (dataset : Dataset) : Alike number dataset dataset :=
  ⟨rfl, rfl, rfl, rfl, rfl, rfl⟩

theorem Alike.symm {number : UInt64} {dataset other : Dataset}
    (alike : Alike number dataset other) : Alike number other dataset :=
  ⟨alike.definition_eq.symm, alike.location_eq.symm, alike.session_eq.symm, alike.store_eq.symm,
    alike.nextCursor_eq.symm, alike.cursor_eq.symm⟩

theorem Alike.trans {number : UInt64} {first second third : Dataset}
    (alike : Alike number first second) (further : Alike number second third) :
    Alike number first third :=
  ⟨further.definition_eq.trans alike.definition_eq, further.location_eq.trans alike.location_eq,
    further.session_eq.trans alike.session_eq, further.store_eq.trans alike.store_eq,
    further.nextCursor_eq.trans alike.nextCursor_eq, further.cursor_eq.trans alike.cursor_eq⟩

theorem Agree.map_eq {α : Type} {number : UInt64} {first second : Except Fault α × Dataset}
    (agree : Agree number first second) (wrap : α → Answer) :
    second.1.map wrap = first.1.map wrap := by
  rw [agree.answer_eq]

section Alike

variable {number : UInt64} {dataset other : Dataset} (alike : Alike number dataset other)
  (volume : Volume) (key : Key) (data : Bytes) (path : String)

include alike

theorem Alike.refused {α : Type} (fault : Fault) :
    Agree (α := α) number (.error fault, dataset) (.error fault, other) := ⟨rfl, alike⟩

theorem Alike.clusterName_eq : other.clusterName = dataset.clusterName := by
  simp only [clusterName, alike.definition_eq]

theorem Alike.isOpen_eq : other.isOpen = dataset.isOpen := by
  simp only [isOpen, alike.session_eq]

theorem Alike.notOpen_eq : other.notOpen = dataset.notOpen := by
  simp only [notOpen, alike.clusterName_eq]

theorem Alike.closed?_eq : other.closed? = dataset.closed? := by
  simp only [closed?, alike.session_eq, alike.notOpen_eq]

theorem Alike.locked?_eq (request : OutputRequest) :
    other.locked? request = dataset.locked? request := by
  simp only [locked?, alike.session_eq, alike.clusterName_eq, alike.notOpen_eq]

theorem Alike.unfit?_eq (request : OutputRequest) :
    other.unfit? request key data = dataset.unfit? request key data := by
  simp only [unfit?, alike.locked?_eq, alike.definition_eq]

theorem Alike.setCursor (cursor : Cursor) (place : UInt64) :
    Alike number (dataset.setCursor place cursor) (other.setCursor place cursor) := by
  refine ⟨alike.definition_eq, alike.location_eq, alike.session_eq, alike.store_eq,
    alike.nextCursor_eq, ?_⟩
  rw [find?_setCursor, find?_setCursor, alike.cursor_eq]

theorem Alike.withStatistics (statistics later : Statistics) :
    Alike number { dataset with statistics := statistics } { other with statistics := later } :=
  ⟨alike.definition_eq, alike.location_eq, alike.session_eq, alike.store_eq, alike.nextCursor_eq,
    alike.cursor_eq⟩

theorem Alike.withStore (store : Store) (statistics later : Statistics) :
    Alike number { dataset with store := store, statistics := statistics }
      { other with store := store, statistics := later } :=
  ⟨alike.definition_eq, alike.location_eq, alike.session_eq, rfl, alike.nextCursor_eq,
    alike.cursor_eq⟩

/-! ## Requests that answer alike -/

theorem Alike.openFor (session : Session) :
    Agree number (dataset.openFor session) (other.openFor session) := by
  simp only [Dataset.openFor, alike.session_eq, alike.clusterName_eq]
  cases dataset.session with
  | some _ => exact alike.refused _
  | none =>
    simp only
    exact ⟨rfl, alike.definition_eq, alike.location_eq, rfl, alike.store_eq, alike.nextCursor_eq,
      alike.cursor_eq⟩

theorem Alike.readNumbered (record : UInt64) :
    Agree number (dataset.readNumbered record) (other.readNumbered record) := by
  simp only [Dataset.readNumbered, answerRead, alike.closed?_eq]
  cases dataset.closed? <;> exact alike.refused _

theorem Alike.write (record : Record) :
    Agree number (dataset.write record) (other.write record) := by
  simp only [Dataset.write, alike.unfit?_eq, alike.store_eq]
  cases dataset.unfit? .write record.key record.data with
  | some fault => exact alike.refused fault
  | none =>
    simp only
    split
    · exact alike.refused _
    · cases Store.endOf? dataset.store.nextRba record.storedLength with
      | none => exact alike.refused _
      | some next => exact ⟨rfl, alike.withStore ..⟩

theorem Alike.update : Agree number (dataset.update key data) (other.update key data) := by
  simp only [Dataset.update, alike.unfit?_eq, alike.store_eq]
  cases dataset.unfit? .update key data with
  | some fault => exact alike.refused fault
  | none =>
    cases dataset.store.records.find? key with
    | none => exact alike.refused _
    | some stored => exact ⟨rfl, alike.withStore ..⟩

theorem Alike.erase : Agree number (dataset.erase key) (other.erase key) := by
  simp only [Dataset.erase, alike.locked?_eq, alike.store_eq]
  cases dataset.locked? .delete with
  | some fault => exact alike.refused fault
  | none =>
    cases dataset.store.records.find? key with
    | none => exact alike.refused _
    | some stored => exact ⟨rfl, alike.withStore ..⟩

theorem Alike.startBrowse (orAbove : Bool) (direction : Direction) :
    Agree number (dataset.startBrowse key orAbove direction)
      (other.startBrowse key orAbove direction) := by
  simp only [Dataset.startBrowse, alike.closed?_eq, alike.store_eq, alike.nextCursor_eq]
  cases dataset.closed? with
  | some fault => exact alike.refused fault
  | none =>
    have placed := alike.setCursor ((Cursor.new direction).placeOn
      (if orAbove then dataset.store.atOrAbove? key else dataset.store.find? key) key)
      dataset.nextCursor
    exact ⟨rfl, placed.definition_eq, placed.location_eq, placed.session_eq, placed.store_eq, rfl,
      placed.cursor_eq⟩

theorem Alike.beyond?_eq (direction : Direction) (resting : Option Position) :
    other.beyond? direction resting = dataset.beyond? direction resting := by
  cases direction <;> cases resting <;>
    simp only [beyond?, recordAfter?, recordBefore?, alike.store_eq]

theorem Alike.step (asked : Option Direction) :
    Agree number (dataset.step number asked) (other.step number asked) := by
  cases unshut : dataset.closed? with
  | some fault =>
    simp only [Dataset.step, alike.closed?_eq, unshut]
    exact alike.refused fault
  | none =>
    cases live : dataset.cursors.find? number with
    | none =>
      simp only [Dataset.step, alike.closed?_eq, alike.cursor_eq, unshut, live]
      exact alike.refused _
    | some cursor =>
      rw [dataset.step_eq number asked unshut live, other.step_eq number asked
        (alike.closed?_eq.trans unshut) (alike.cursor_eq.trans live), alike.beyond?_eq]
      split
      · exact alike.refused _
      cases dataset.beyond? (asked.getD cursor.direction) cursor.resting with
      | none => exact ⟨rfl, alike.setCursor _ _⟩
      | some record =>
        have moved := alike.setCursor (cursor.advanceTo record.key record.address) number
        exact ⟨rfl, moved.withStatistics ..⟩

theorem Alike.endBrowse : Agree number (dataset.endBrowse number) (other.endBrowse number) := by
  simp only [Dataset.endBrowse, alike.closed?_eq]
  cases dataset.closed? with
  | some fault => exact alike.refused fault
  | none =>
    refine ⟨rfl, alike.definition_eq, alike.location_eq, alike.session_eq, alike.store_eq,
      alike.nextCursor_eq, ?_⟩
    simp only [Table.find?_erase, alike.cursor_eq]

theorem Alike.resetBrowse :
    Agree number (dataset.resetBrowse number key) (other.resetBrowse number key) := by
  simp only [Dataset.resetBrowse, alike.closed?_eq, alike.cursor_eq, alike.store_eq]
  cases dataset.closed? with
  | some fault => exact alike.refused fault
  | none =>
    cases dataset.cursors.find? number with
    | none => exact alike.refused _
    | some cursor => exact ⟨rfl, alike.setCursor _ _⟩

theorem Alike.load : Agree number (dataset.load path volume) (other.load path volume) := by
  simp only [Dataset.load, alike.isOpen_eq, alike.definition_eq]
  cases Snapshot.load path volume with
  | error fault => exact alike.refused fault
  | ok snapshot =>
    simp only
    cases Store.ofSnapshot dataset.definition snapshot with
    | error fault => exact alike.refused fault
    | ok store =>
      cases dataset.isOpen with
      | true => exact alike.refused _
      -- The cursors of either dataset are gone.
      | false =>
        exact ⟨rfl, rfl, alike.location_eq, alike.session_eq, rfl, alike.nextCursor_eq, rfl⟩

theorem Alike.close :
    (other.close volume).1 = (dataset.close volume).1 ∧
      Alike number (dataset.close volume).2.1 (other.close volume).2.1 ∧
      (other.close volume).2.2 = (dataset.close volume).2.2 := by
  have closed : Alike number dataset.closed other.closed :=
    ⟨alike.definition_eq, alike.location_eq, rfl, alike.store_eq, alike.nextCursor_eq, rfl⟩
  cases unshut : dataset.closed? with
  | some fault =>
    simp only [Dataset.close, alike.closed?_eq, unshut]
    exact ⟨trivial, alike, trivial⟩
  | none =>
    cases located : dataset.location with
    | none =>
      simp only [Dataset.close, alike.closed?_eq, alike.location_eq, unshut, located]
      exact ⟨trivial, closed, trivial⟩
    | some path =>
      have saves : other.save path volume = dataset.save path volume := by
        simp only [Dataset.save, alike.store_eq]
      simp only [Dataset.close, alike.closed?_eq, alike.location_eq, unshut, located, saves]
      cases dataset.save path volume with
      | mk result after =>
        cases result with
        | error fault => exact ⟨rfl, alike, rfl⟩
        | ok size => exact ⟨rfl, closed, rfl⟩

/-- A request that is not aside from the cursor answers alike on datasets that are alike. -/
theorem Alike.perform {operation : Operation} (concerned : operation.isAside number = false) :
    (other.perform operation volume).1 = (dataset.perform operation volume).1 ∧
      Alike number (dataset.perform operation volume).2.1 (other.perform operation volume).2.1 ∧
      (other.perform operation volume).2.2 = (dataset.perform operation volume).2.2 := by
  have own {place : UInt64} (notOther : (place != number) = false) : place = number :=
    bne_eq_false_iff_eq.mp notOther
  cases operation with
  | read | readGeneric | readAt => cases concerned
  | openFor session =>
    exact ⟨(alike.openFor session).map_eq _, (alike.openFor session).alike, rfl⟩
  | close =>
    obtain ⟨answer, after, beside⟩ := alike.close volume
    exact ⟨congrArg (Except.map fun _ => Answer.done) answer, after, beside⟩
  | readNumbered record =>
    exact ⟨(alike.readNumbered record).map_eq _, (alike.readNumbered record).alike, rfl⟩
  | write record => exact ⟨(alike.write record).map_eq _, (alike.write record).alike, rfl⟩
  | update key data => exact ⟨(alike.update key data).map_eq _, (alike.update key data).alike, rfl⟩
  | erase key => exact ⟨(alike.erase key).map_eq _, (alike.erase key).alike, rfl⟩
  | startBrowse key orAbove direction =>
    have agree := alike.startBrowse key orAbove direction
    exact ⟨agree.map_eq _, agree.alike, rfl⟩
  | readNext place =>
    obtain rfl := own concerned
    exact ⟨(alike.step (some .forward)).map_eq _, (alike.step (some .forward)).alike, rfl⟩
  | readPrevious place =>
    obtain rfl := own concerned
    exact ⟨(alike.step (some .backward)).map_eq _, (alike.step (some .backward)).alike, rfl⟩
  | readBrowse place =>
    obtain rfl := own concerned
    exact ⟨(alike.step none).map_eq _, (alike.step none).alike, rfl⟩
  | endBrowse place =>
    obtain rfl := own concerned
    exact ⟨alike.endBrowse.map_eq _, alike.endBrowse.alike, rfl⟩
  | resetBrowse place key =>
    obtain rfl := own concerned
    exact ⟨(alike.resetBrowse key).map_eq _, (alike.resetBrowse key).alike, rfl⟩
  | browseContext place =>
    obtain rfl := own concerned
    simp only [Dataset.perform, cursor, alike.cursor_eq]
    exact ⟨trivial, alike, trivial⟩
  | save path =>
    simp only [Dataset.perform, save, alike.store_eq]
    exact ⟨trivial, alike, trivial⟩
  | load path => exact ⟨(alike.load volume path).map_eq _, (alike.load volume path).alike, rfl⟩

theorem Alike.moment {operation : Operation} (concerned : operation.isAside number = false) :
    (other.moment volume operation).glimpse number
        = (dataset.moment volume operation).glimpse number ∧
      Alike number (dataset.moment volume operation).after
        (other.moment volume operation).after ∧
      (other.moment volume operation).beside = (dataset.moment volume operation).beside := by
  obtain ⟨answer, after, beside⟩ := alike.perform volume concerned
  refine ⟨?_, after, beside⟩
  simp only [Moment.glimpse, Dataset.moment, answer, beside, after.cursor_eq, after.store_eq,
    after.session_eq]

end Alike

/-! ## Requests aside -/

/-- A request aside from a cursor changes no more than other cursors and the statistics. -/
theorem alike_of_isAside {number : UInt64} {dataset after : Dataset} {volume : Volume}
    {operation : Operation} {answer : Except Fault Answer} (aside : operation.isAside number = true)
    (transition : Transition dataset volume operation answer after) :
    Alike number dataset after := by
  have unasked {asked : Option Direction} {place : UInt64}
      (asks : operation.asks? = some (place, asked)) : number ≠ place := by
    rintro rfl
    cases operation <;> cases asks <;> simp [Operation.isAside] at aside
  cases transition with
  | refused | shown => exact alike_refl number dataset
  | found => exact ⟨rfl, rfl, rfl, rfl, rfl, rfl⟩
  | stepped _ place _ _ _ asks | stopped _ place _ _ asks =>
    refine ⟨rfl, rfl, rfl, rfl, rfl, ?_⟩
    simp only [find?_setCursor, if_neg (unasked asks)]
  | ended place =>
    refine ⟨rfl, rfl, rfl, rfl, rfl, ?_⟩
    have differ : number ≠ place := Ne.symm (bne_iff_ne.mp aside)
    simp only [Table.find?_erase, if_neg differ]
  | placed place =>
    refine ⟨rfl, rfl, rfl, rfl, rfl, ?_⟩
    have differ : number ≠ place := Ne.symm (bne_iff_ne.mp aside)
    rw [find?_setCursor, if_neg differ]
  | _ => cases aside

theorem volume_of_isAside {number : UInt64} {operation : Operation}
    (aside : operation.isAside number = true) (dataset : Dataset) (volume : Volume) :
    (dataset.perform operation volume).2.2 = volume := by
  cases operation with
  | read | readGeneric | readAt => rfl
  | readNext | readPrevious | readBrowse | endBrowse | resetBrowse | browseContext => rfl
  | _ => cases aside

/-! ## Runs -/

section Runs

variable (dataset : Dataset) (volume : Volume) (number : UInt64)

theorem glimpses_ask_of_isAside {operation : Operation}
    (aside : operation.isAside number = true) (rest : List Move) :
    dataset.glimpses volume number (.ask operation :: rest)
      = (dataset.moment volume operation).after.glimpses volume number rest := by
  have same : (dataset.moment volume operation).beside = volume :=
    volume_of_isAside aside dataset volume
  rw [glimpses, moments, List.filter_cons_of_neg (by simp [moment, aside]), same]
  rfl

theorem glimpses_ask_of_concerned {operation : Operation}
    (concerned : operation.isAside number = false) (rest : List Move) :
    dataset.glimpses volume number (.ask operation :: rest)
      = (dataset.moment volume operation).glimpse number
        :: (dataset.moment volume operation).after.glimpses
          (dataset.moment volume operation).beside number rest := by
  rw [glimpses, moments, List.filter_cons_of_pos (by simp [moment, concerned])]
  rfl

end Runs

/-- A run shows of a cursor what it shows without the requests aside from it. -/
theorem Alike.glimpses_filter {number : UInt64} {dataset other : Dataset}
    (alike : Alike number dataset other) (volume : Volume) (moves : List Move) :
    other.glimpses volume number (moves.filter fun move => !move.isAside number)
      = dataset.glimpses volume number moves := by
  induction moves generalizing dataset other volume with
  | nil => rfl
  | cons move rest ih =>
    cases move with
    | files beside => exact ih alike beside
    | ask operation =>
      cases aside : operation.isAside number with
      | true =>
        -- Only the whole run moves on, to a dataset that is still like the other one.
        have still := alike_of_isAside aside (transition_perform operation dataset volume)
        rw [List.filter_cons_of_neg (by simp [Move.isAside, aside]),
          dataset.glimpses_ask_of_isAside volume number aside]
        exact ih (still.symm.trans alike) volume
      | false =>
        obtain ⟨shown, after, beside⟩ := alike.moment volume aside
        rw [List.filter_cons_of_pos (by simp [Move.isAside, aside]),
          dataset.glimpses_ask_of_concerned volume number aside,
          other.glimpses_ask_of_concerned volume number aside, shown, beside, ih after]

/-- Runs from one state that differ in nothing but reads by key or address and requests to other
cursors show the same of a cursor: every other request has the same answer and leaves the same
cursor, records, index, next address and files. -/
theorem unaffected_by_other_cursors (dataset : Dataset) (volume : Volume) (number : UInt64)
    (first second : List Move)
    (same : first.filter (fun move => !move.isAside number)
      = second.filter fun move => !move.isAside number) :
    dataset.glimpses volume number first = dataset.glimpses volume number second := by
  have alike := alike_refl number dataset
  calc dataset.glimpses volume number first
    _ = dataset.glimpses volume number (first.filter fun move => !move.isAside number) :=
      (alike.glimpses_filter volume first).symm
    _ = dataset.glimpses volume number (second.filter fun move => !move.isAside number) := by
      rw [same]
    _ = dataset.glimpses volume number second := alike.glimpses_filter volume second

/-- One cursor is read, a record is erased, a browse is started, and the dataset is saved and
closed; in the first run another cursor is read, placed anew and ended meanwhile, in the second a
third one is. -/
theorem unaffected_among_other_browses :
    let cursor : Cursor := (Cursor.new .forward).placeAt [1] (.rba 0)
    let start := (new (.keyed "C" 4) (some "S")).follow ([.openFor ⟨.inputOutput, .dynamic⟩,
      .write (.new [1] []), .write (.new [2] [7]), .write (.new [3] []),
      .startBrowse [1] true .forward, .startBrowse [2] true .forward,
      .startBrowse [9] true .backward].map fun operation => ⟨operation, .empty⟩)
    let first : List Move := [.ask (.readNext 1), .ask (.readNext 2), .ask (.erase [2]),
      .ask (.resetBrowse 2 [1]), .ask (.startBrowse [3] false .backward), .ask (.read [3]),
      .ask (.readBrowse 1), .ask (.endBrowse 2), .files .empty, .ask (.save "T"),
      .ask (.readNext 1), .ask .close]
    let second : List Move := [.ask (.readBrowse 3), .ask (.readNext 1), .ask (.erase [2]),
      .ask (.startBrowse [3] false .backward), .ask (.endBrowse 4), .ask (.readBrowse 1),
      .files .empty, .ask (.browseContext 3), .ask (.save "T"), .ask (.readPrevious 3),
      .ask (.readNext 1), .ask .close]
    start.cursors.find? 1 = some cursor ∧
      first.filter (fun move => !move.isAside 1) = second.filter (fun move => !move.isAside 1) ∧
      start.glimpses .empty 1 first = start.glimpses .empty 1 second ∧
      (start.glimpses .empty 1 second).map Glimpse.answer = [
        .ok (.record (.live [2] [7] (.rba 1))), .ok (.record ⟨[2], [7], .rba 1, true⟩),
        .ok (.started 4), .ok (.record (.live [3] [] (.rba 3))), .ok (.saved 130),
        .error (.endOfFile 1), .ok .done] := by
  intro cursor start first second
  have live : start.cursors.find? 1 = some cursor := by decide +kernel
  have same : first.filter (fun move => !move.isAside 1)
      = second.filter fun move => !move.isAside 1 := rfl
  have shown := unaffected_by_other_cursors start .empty 1 first second same
  have answers : (start.glimpses .empty 1 first).map Glimpse.answer = [
      .ok (.record (.live [2] [7] (.rba 1))), .ok (.record ⟨[2], [7], .rba 1, true⟩),
      .ok (.started 4), .ok (.record (.live [3] [] (.rba 3))), .ok (.saved 130),
      .error (.endOfFile 1), .ok .done] := by decide +kernel
  rw [shown] at answers
  exact ⟨live, same, shown, answers⟩

end Dataset

end KeySequenced
