import KeySequenced.Proofs.Dataset.Failure
import KeySequenced.Proofs.Dataset.Numbers

/-!
# What one request makes of one cursor

`cursorAfter` says it as a function: a read through the cursor carries it to the
record that the search offers or stops it there, a reset places it anew, and
every other request that neither ends its browse nor starts one under its number
leaves it as it is.  Runs of requests to one cursor are followed with it.
-/

set_option autoImplicit false

namespace KeySequenced

/-! ## Requests to one cursor -/

namespace Operation

/-- The direction in which the request reads through the cursor of the number, the direction of
which is `natural`. -/
def reads? (number : UInt64) (natural : Direction) (operation : Operation) : Option Direction :=
  match operation.asks? with
  | some (other, asked) => if other = number then some (asked.getD natural) else none
  | none => none

/-- The key for which the request places the cursor of the number anew. -/
def places? (number : UInt64) : Operation → Option Key
  | .resetBrowse other key => if other = number then some key else none
  | _ => none

/-- The request ends the browse of the number, if it succeeds. -/
def ends (number : UInt64) : Operation → Bool
  | .close => true
  | .endBrowse other => other == number
  | _ => false

section Requests

variable {operation : Operation} {number : UInt64} {natural : Direction}

theorem reads?_eq_some_iff {direction : Direction} :
    operation.reads? number natural = some direction ↔
      ∃ asked, operation.asks? = some (number, asked) ∧ asked.getD natural = direction := by
  unfold reads?
  split
  · rename_i other asked asks
    rw [asks]
    by_cases same : other = number <;> simp [same]
  · rename_i silent
    simp [silent]

theorem ne_of_reads?_eq_none {other : UInt64} {asked : Option Direction}
    (unread : operation.reads? number natural = none)
    (asks : operation.asks? = some (other, asked)) : number ≠ other := by
  rintro rfl
  simp [reads?, asks] at unread

theorem places?_eq_some_iff {key : Key} :
    operation.places? number = some key ↔ operation = .resetBrowse number key := by
  constructor
  · intro placed
    unfold places? at placed
    split at placed
    · split at placed
      · rename_i same
        rw [same, Option.some.inj placed]
      · cases placed
    · cases placed
  · rintro rfl
    exact if_pos rfl

end Requests

end Operation

/-! ## Steps of a cursor -/

namespace Direction

def opposite : Direction → Direction
  | .forward => .backward
  | .backward => .forward

theorem eq_or_eq_opposite (direction other : Direction) :
    other = direction ∨ other = direction.opposite := by
  cases direction <;> cases other <;> simp [opposite]

/-- The answer to a step in the direction by what its search has found. -/
def answer (direction : Direction) (number : UInt64) : Option Record → Except Fault Answer
  | some record => .ok (.record record)
  | none => .error (direction.endFault number)

theorem eq_none_of_answer {direction : Direction} {number : UInt64} {found : Option Record}
    {fault : Fault} (failed : direction.answer number found = .error fault) : found = none := by
  cases found with
  | none => rfl
  | some record => cases failed

end Direction

namespace Cursor

/-- The cursor after a step in the direction by what its search has found. -/
def carry (cursor : Cursor) (direction : Direction) : Option Record → Cursor
  | some record => cursor.advanceTo record.key record.address
  | none => cursor.stop direction

section Steps

variable (cursor : Cursor) (direction : Direction) (found : Option Record)

@[simp] theorem direction_carry : (cursor.carry direction found).direction = cursor.direction := by
  cases found with
  | none => exact cursor.direction_stop direction
  | some record => rfl

@[simp] theorem stopped_carry_self :
    (cursor.carry direction found).stopped direction = found.isNone := by
  cases found <;> cases direction <;> rfl

@[simp] theorem stopped_carry_opposite :
    (cursor.carry direction.opposite found).stopped direction = false := by
  cases found <;> cases direction <;> rfl

@[simp] theorem direction_placeOn (requested : Key) :
    (cursor.placeOn found requested).direction = cursor.direction := by
  cases found <;> rfl

@[simp] theorem stopped_forward_placeOn (requested : Key) :
    (cursor.placeOn found requested).stopped .forward = found.isNone := by
  cases found <;> rfl

@[simp] theorem stopped_backward_placeOn (requested : Key) :
    (cursor.placeOn found requested).stopped .backward = false := by
  cases found <;> rfl

end Steps

end Cursor

namespace Dataset

/-- The record to which a step in the direction carries the cursor, if it is not at that end. -/
def offers? (dataset : Dataset) (cursor : Cursor) (direction : Direction) : Option Record :=
  if cursor.stopped direction then none else dataset.beyond? direction cursor.resting

/-- What a request that does not end its browse makes of a live cursor. -/
def cursorAfter (dataset : Dataset) (number : UInt64) (cursor : Cursor) (operation : Operation) :
    Cursor :=
  match operation.reads? number cursor.direction with
  | some direction => cursor.carry direction (dataset.offers? cursor direction)
  | none =>
    match operation.places? number with
    | some key => cursor.placeOn (dataset.store.atOrAbove? key) key
    | none => cursor

section Steps

variable {definition : Definition} {dataset after : Dataset} {number : UInt64} {cursor : Cursor}
  {direction : Direction} {request : Request}

@[simp] theorem direction_cursorAfter (dataset : Dataset) (number : UInt64) (cursor : Cursor)
    (operation : Operation) :
    (dataset.cursorAfter number cursor operation).direction = cursor.direction := by
  unfold cursorAfter
  split
  · exact cursor.direction_carry ..
  · split
    · exact cursor.direction_placeOn ..
    · rfl

theorem cursorAfter_of_reads {operation : Operation}
    (reads : operation.reads? number cursor.direction = some direction) :
    dataset.cursorAfter number cursor operation
      = cursor.carry direction (dataset.offers? cursor direction) := by
  simp only [cursorAfter, reads]

theorem cursorAfter_of_places {operation : Operation} {key : Key}
    (places : operation.places? number = some key) :
    dataset.cursorAfter number cursor operation
      = cursor.placeOn (dataset.store.atOrAbove? key) key := by
  cases Operation.places?_eq_some_iff.mp places
  simp only [cursorAfter, Operation.reads?, Operation.asks?, places]

theorem cursorAfter_of_spares {operation : Operation}
    (unread : operation.reads? number cursor.direction = none)
    (unplaced : operation.places? number = none) :
    dataset.cursorAfter number cursor operation = cursor := by
  simp only [cursorAfter, unread, unplaced]

/-- A dataset with a live cursor is open. -/
theorem Sound.unshut (sound : Sound definition dataset)
    (live : dataset.cursors.find? number = some cursor) : dataset.closed? = none := by
  apply (closed?_eq_none_iff dataset).mpr
  apply Option.ne_none_iff_exists'.mp
  intro shut
  rw [sound.seated shut number] at live
  cases live

/-- A read through a live cursor answers with what its search offers, and leaves the store. -/
theorem event_of_reads (unshut : dataset.closed? = none) (oneSided : cursor.OneSided)
    (live : dataset.cursors.find? number = some cursor)
    (reads : request.operation.reads? number cursor.direction = some direction) :
    (dataset.event request).answer = direction.answer number (dataset.offers? cursor direction) ∧
      (dataset.event request).after.cursors.find? number
        = some (cursor.carry direction (dataset.offers? cursor direction)) ∧
      (dataset.event request).after.store = dataset.store := by
  obtain ⟨asked, asks, onward⟩ := Operation.reads?_eq_some_iff.mp reads
  simp only [event, dataset.perform_of_asks request.volume asks,
    dataset.step_eq number asked unshut live, onward, offers?]
  cases stopped : cursor.stopped direction with
  | true =>
    -- The step leaves the cursor as it is, and noting the end once more does so too.
    refine ⟨rfl, ?_, rfl⟩
    simpa only [Cursor.carry, if_true, oneSided.stop_eq_self stopped] using live
  | false =>
    cases dataset.beyond? direction cursor.resting with
    | none => exact ⟨rfl, by simp [Cursor.carry, find?_setCursor], rfl⟩
    | some record => exact ⟨rfl, by simp [deliver, Cursor.carry, find?_setCursor], rfl⟩

/-- A reset of a live cursor succeeds. -/
theorem event_of_places {key : Key} (unshut : dataset.closed? = none)
    (live : dataset.cursors.find? number = some cursor)
    (places : request.operation.places? number = some key) :
    (dataset.event request).answer = .ok .done ∧
      (dataset.event request).after.cursors.find? number
        = some (cursor.placeOn (dataset.store.atOrAbove? key) key) := by
  have asked := Operation.places?_eq_some_iff.mp places
  simp only [event, asked, perform, resetBrowse, unshut, live]
  exact ⟨rfl, by simp [find?_setCursor]⟩

/-- A request that neither reads through a cursor nor places it, that does not end its browse and
starts none under its number, leaves it. -/
theorem Sound.find?_of_spares {volume : Volume} {operation : Operation}
    {answer : Except Fault Answer} (sound : Sound definition dataset)
    (transition : Transition dataset volume operation answer after)
    (live : dataset.cursors.find? number = some cursor)
    (unended : operation.ends number = false) (untold : answer ≠ .ok (.started number))
    (unread : operation.reads? number cursor.direction = none)
    (unplaced : operation.places? number = none) :
    after.cursors.find? number = some cursor := by
  cases transition with
  | closed => cases unended
  | loaded path snapshot store shut =>
    rw [sound.seated shut number] at live
    cases live
  | started key orAbove direction unshut =>
    have differ : number ≠ dataset.nextCursor := by
      rintro rfl
      exact untold rfl
    have kept := dataset.find?_setCursor dataset.nextCursor number
    simp only [kept, if_neg differ]
    exact live
  | stepped operation other asked found record asks =>
    have differ := Operation.ne_of_reads?_eq_none unread asks
    simp only [find?_setCursor, if_neg differ]
    exact live
  | stopped operation other asked found asks =>
    have differ := Operation.ne_of_reads?_eq_none unread asks
    rw [find?_setCursor, if_neg differ]
    exact live
  | ended other unshut =>
    have differ : other ≠ number := by simpa [Operation.ends] using unended
    simp only [Table.find?_erase, if_neg differ.symm]
    exact live
  | placed other key found unshut stands =>
    have differ : other ≠ number := by
      rintro rfl
      cases unplaced.symm.trans (Operation.places?_eq_some_iff.mpr rfl)
    rw [find?_setCursor, if_neg differ.symm]
    exact live
  | refused | opened | found | wrote | updated | erased | shown | saved => exact live

/-- Every request that neither ends the browse nor starts one under its number makes `cursorAfter`
of its cursor. -/
theorem Sound.find?_event (sound : Sound definition dataset) (oneSided : dataset.OneSided)
    (live : dataset.cursors.find? number = some cursor)
    (unended : request.operation.ends number = false)
    (untold : (dataset.event request).answer ≠ .ok (.started number)) :
    (dataset.event request).after.cursors.find? number
      = some (dataset.cursorAfter number cursor request.operation) := by
  have unshut := sound.unshut live
  cases reads : request.operation.reads? number cursor.direction with
  | some direction =>
    rw [cursorAfter_of_reads reads]
    exact (event_of_reads unshut (oneSided number cursor live) live reads).2.1
  | none =>
    cases places : request.operation.places? number with
    | some key =>
      rw [cursorAfter_of_places places]
      exact (event_of_places unshut live places).2
    | none =>
      rw [cursorAfter_of_spares reads places]
      exact sound.find?_of_spares (dataset.transition_event request) live unended untold reads
        places

end Steps

end Dataset

end KeySequenced
