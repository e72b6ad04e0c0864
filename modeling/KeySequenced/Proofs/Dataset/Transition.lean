import KeySequenced.Dataset.Operation
import KeySequenced.Proofs.Store.Consistency

/-!
# What a request can do

`Transition` lists, with their conditions, all the ways in which a request can
take a dataset to another one, and `transition_perform` says that there are no
further ones.  A fault changes nothing unless a browse step has met an end of
the data.  Statements about all requests are proved by cases on `Transition`.
-/

set_option autoImplicit false

namespace KeySequenced

/-! ## The two directions as one -/

namespace Direction

def endFault : Direction → UInt64 → Fault
  | .forward, number => .endOfFile number
  | .backward, number => .startOfFile number

end Direction

namespace Cursor

/-- Whether the cursor stands at the end of the data in a direction. -/
def stopped (cursor : Cursor) : Direction → Bool
  | .forward => cursor.atEnd
  | .backward => cursor.atStart

def stop (cursor : Cursor) : Direction → Cursor
  | .forward => cursor.hitEnd
  | .backward => cursor.hitStart

@[simp] theorem stopped_advanceTo (cursor : Cursor) (key : Key) (address : Address)
    (direction : Direction) : (cursor.advanceTo key address).stopped direction = false := by
  cases direction <;> rfl

@[simp] theorem direction_stop (cursor : Cursor) (direction : Direction) :
    (cursor.stop direction).direction = cursor.direction := by
  cases direction <;> rfl

@[simp] theorem resting_stop (cursor : Cursor) (direction : Direction) :
    (cursor.stop direction).resting = cursor.resting := by
  cases direction <;> rfl

end Cursor

/-- The cursor through which a request reads and the direction that it names, if it is one. -/
def Operation.asks? : Operation → Option (UInt64 × Option Direction)
  | .readNext number => some (number, some .forward)
  | .readPrevious number => some (number, some .backward)
  | .readBrowse number => some (number, none)
  | _ => none

namespace Dataset

/-! ## Guards -/

section Guards

variable (dataset : Dataset) (request : OutputRequest) (key : Key) (data : Bytes)

theorem closed?_eq_none_iff :
    dataset.closed? = none ↔ ∃ session, dataset.session = some session := by
  unfold closed?
  cases dataset.session <;> simp

theorem eq_notOpen_of_closed? {fault : Fault} (shut : dataset.closed? = some fault) :
    fault = dataset.notOpen := by
  unfold closed? at shut
  split at shut
  · exact (Option.some.inj shut).symm
  · cases shut

theorem locked?_eq_none_iff :
    dataset.locked? request = none ↔
      ∃ session, dataset.session = some session ∧ session.access.allowsOutput = true := by
  unfold locked?
  cases dataset.session with
  | none => simp
  | some session => by_cases allowed : session.access.allowsOutput = true <;> simp [allowed]

theorem unfit?_eq_none_iff :
    dataset.unfit? request key data = none ↔
      dataset.locked? request = none ∧ dataset.definition.refusal? key data = none := by
  unfold unfit?
  cases dataset.locked? request <;> simp

end Guards

/-! ## Steps -/

section Steps

variable (dataset : Dataset) (volume : Volume)

theorem find?_setCursor (number other : UInt64) (cursor : Cursor) :
    (dataset.setCursor number cursor).cursors.find? other
      = if other = number then some cursor else dataset.cursors.find? other :=
  Table.find?_insert ..

theorem perform_of_asks {operation : Operation} {number : UInt64} {asked : Option Direction}
    (asks : operation.asks? = some (number, asked)) :
    dataset.perform operation volume
      = ((dataset.step number asked).1.map .record, (dataset.step number asked).2, volume) := by
  cases operation <;> cases asks <;> rfl

end Steps

/-! ## Searches -/

/-- The next record in a direction from the place where a cursor rests. -/
def beyond? (dataset : Dataset) (direction : Direction) (resting : Option Position) :
    Option Record :=
  match direction with
  | .forward => dataset.recordAfter? resting
  | .backward => dataset.recordBefore? resting

/-- The record that a reading request without a cursor looks for. -/
def sought? (dataset : Dataset) : Operation → Option Record
  | .read key => dataset.store.find? key
  | .readGeneric beginning =>
    (dataset.store.atOrAbove? beginning).filter fun record => beginning.isPrefixOf record.key
  | .readAt rba => dataset.store.findAt? rba
  | _ => none

/-! ## Transitions -/

/-- All that can become of a dataset by a request, the answer to it in between. -/
inductive Transition (dataset : Dataset) (volume : Volume) :
    Operation → Except Fault Answer → Dataset → Prop where
  | refused (operation : Operation) (fault : Fault) :
      Transition dataset volume operation (.error fault) dataset
  | opened (session : Session) (shut : dataset.session = none) :
      Transition dataset volume (.openFor session) (.ok .done)
        { dataset with session := some session }
  | closed (unshut : dataset.closed? = none) :
      Transition dataset volume .close (.ok .done) dataset.closed
  | found (operation : Operation) (record : Record) (unshut : dataset.closed? = none)
      (sought : dataset.sought? operation = some record) :
      Transition dataset volume operation (.ok (.record record))
        { dataset with statistics := dataset.statistics.countRead }
  | wrote (record : Record) (next : UInt64)
      (fit : dataset.unfit? .write record.key record.data = none)
      (absent : dataset.store.find? record.key = none)
      (room : Store.endOf? dataset.store.nextRba record.storedLength = some next) :
      Transition dataset volume (.write record) (.ok (.address (.rba dataset.store.nextRba)))
        { dataset with
          store := dataset.store.put (record.placedAt dataset.store.nextRba) next
          statistics :=
            (dataset.statistics.allocate (allocatedFor dataset.definition next)).countWrite
              (UInt64.ofNat record.storedLength) }
  | updated (key : Key) (data : Bytes) (stored : Record)
      (fit : dataset.unfit? .update key data = none)
      (stands : dataset.store.find? key = some stored) :
      Transition dataset volume (.update key data) (.ok .done)
        { dataset with
          store := dataset.store.replace key stored data
          statistics := dataset.statistics.countUpdate (UInt64.ofNat stored.storedLength)
            (UInt64.ofNat { stored with data := data }.storedLength) }
  | erased (key : Key) (stored : Record) (unlocked : dataset.locked? .delete = none)
      (stands : dataset.store.find? key = some stored) :
      Transition dataset volume (.erase key) (.ok (.record { stored with deleted := true }))
        { dataset with
          store := dataset.store.remove key stored
          statistics := dataset.statistics.countDelete (UInt64.ofNat stored.storedLength) }
  | started (key : Key) (orAbove : Bool) (direction : Direction)
      (unshut : dataset.closed? = none) :
      Transition dataset volume (.startBrowse key orAbove direction)
        (.ok (.started dataset.nextCursor))
        { dataset.setCursor dataset.nextCursor ((Cursor.new direction).placeOn
            (if orAbove then dataset.store.atOrAbove? key else dataset.store.find? key) key) with
          nextCursor := dataset.nextCursor + 1 }
  | stepped (operation : Operation) (number : UInt64) (asked : Option Direction) (cursor : Cursor)
      (record : Record) (asks : operation.asks? = some (number, asked))
      (unshut : dataset.closed? = none) (live : dataset.cursors.find? number = some cursor)
      (free : cursor.stopped (asked.getD cursor.direction) = false)
      (next : dataset.beyond? (asked.getD cursor.direction) cursor.resting = some record) :
      Transition dataset volume operation (.ok (.record record))
        { dataset.setCursor number (cursor.advanceTo record.key record.address) with
          statistics := dataset.statistics.countRead }
  | stopped (operation : Operation) (number : UInt64) (asked : Option Direction) (cursor : Cursor)
      (asks : operation.asks? = some (number, asked)) (unshut : dataset.closed? = none)
      (live : dataset.cursors.find? number = some cursor)
      (free : cursor.stopped (asked.getD cursor.direction) = false)
      (nothing : dataset.beyond? (asked.getD cursor.direction) cursor.resting = none) :
      Transition dataset volume operation
        (.error ((asked.getD cursor.direction).endFault number))
        (dataset.setCursor number (cursor.stop (asked.getD cursor.direction)))
  | ended (number : UInt64) (unshut : dataset.closed? = none) :
      Transition dataset volume (.endBrowse number) (.ok .done)
        { dataset with cursors := dataset.cursors.erase number }
  | placed (number : UInt64) (key : Key) (cursor : Cursor) (unshut : dataset.closed? = none)
      (live : dataset.cursors.find? number = some cursor) :
      Transition dataset volume (.resetBrowse number key) (.ok .done)
        (dataset.setCursor number (cursor.placeOn (dataset.store.atOrAbove? key) key))
  | shown (number : UInt64) (cursor : Cursor) (live : dataset.cursors.find? number = some cursor) :
      Transition dataset volume (.browseContext number) (.ok (.context cursor)) dataset
  | saved (path : String) (size : Nat) (written : (dataset.save path volume).1 = .ok size) :
      Transition dataset volume (.save path) (.ok (.saved size)) dataset
  | loaded (path : String) (snapshot : Snapshot) (store : Store) (shut : dataset.session = none)
      (readable : Snapshot.load path volume = .ok snapshot)
      (restored : Store.ofSnapshot dataset.definition snapshot = .ok store) :
      Transition dataset volume (.load path) (.ok .done)
        { dataset with
          store := store
          cursors := .empty
          statistics := dataset.statistics.resetSpace (UInt64.ofNat store.usedBytes)
            (allocatedFor dataset.definition store.nextRba) }

section Functions

variable (dataset : Dataset) (volume : Volume)

theorem step_eq (number : UInt64) (asked : Option Direction) {cursor : Cursor}
    (unshut : dataset.closed? = none) (live : dataset.cursors.find? number = some cursor) :
    dataset.step number asked =
      if cursor.stopped (asked.getD cursor.direction) then
        (.error ((asked.getD cursor.direction).endFault number), dataset)
      else
        match dataset.beyond? (asked.getD cursor.direction) cursor.resting with
        | none =>
          (.error ((asked.getD cursor.direction).endFault number),
            dataset.setCursor number (cursor.stop (asked.getD cursor.direction)))
        | some record => dataset.deliver number cursor record := by
  simp only [step, unshut, live]
  cases asked.getD cursor.direction <;> rfl

theorem transition_step (operation : Operation) (number : UInt64) (asked : Option Direction)
    (asks : operation.asks? = some (number, asked)) :
    Transition dataset volume operation ((dataset.step number asked).1.map .record)
      (dataset.step number asked).2 := by
  cases unshut : dataset.closed? with
  | some fault =>
    simp only [step, unshut]
    exact .refused operation fault
  | none =>
    cases live : dataset.cursors.find? number with
    | none =>
      simp only [step, unshut, live]
      exact .refused operation _
    | some cursor =>
      rw [dataset.step_eq number asked unshut live]
      cases free : cursor.stopped (asked.getD cursor.direction) with
      | true => exact .refused operation _
      | false =>
        cases next : dataset.beyond? (asked.getD cursor.direction) cursor.resting with
        | none => exact .stopped operation number asked cursor asks unshut live free next
        | some record =>
          exact .stepped operation number asked cursor record asks unshut live free next

theorem transition_answerRead (operation : Operation) (otherwise : Fault) :
    Transition dataset volume operation
      ((dataset.answerRead (dataset.sought? operation) otherwise).1.map .record)
      (dataset.answerRead (dataset.sought? operation) otherwise).2 := by
  unfold answerRead
  cases unshut : dataset.closed? with
  | some fault => exact .refused operation fault
  | none =>
    cases sought : dataset.sought? operation with
    | none => exact .refused operation otherwise
    | some record => exact .found operation record unshut sought

theorem transition_write (record : Record) :
    Transition dataset volume (.write record) ((dataset.write record).1.map .address)
      (dataset.write record).2 := by
  unfold write
  cases fit : dataset.unfit? .write record.key record.data with
  | some fault => exact .refused _ fault
  | none =>
    by_cases taken : dataset.store.records.contains record.key = true
    · simp only [taken, if_true]
      exact .refused _ _
    · have absent := (Table.contains_eq_false_iff _ _).mp (Bool.not_eq_true _ ▸ taken)
      simp only [taken]
      cases room : Store.endOf? dataset.store.nextRba record.storedLength with
      | none => exact .refused _ _
      | some next => exact .wrote record next fit absent room

theorem transition_update (key : Key) (data : Bytes) :
    Transition dataset volume (.update key data)
      ((dataset.update key data).1.map fun _ => .done) (dataset.update key data).2 := by
  unfold update
  cases fit : dataset.unfit? .update key data with
  | some fault => exact .refused _ fault
  | none =>
    cases stands : dataset.store.records.find? key with
    | none => exact .refused _ _
    | some stored => exact .updated key data stored fit stands

theorem transition_erase (key : Key) :
    Transition dataset volume (.erase key) ((dataset.erase key).1.map .record)
      (dataset.erase key).2 := by
  unfold erase
  cases unlocked : dataset.locked? .delete with
  | some fault => exact .refused _ fault
  | none =>
    cases stands : dataset.store.records.find? key with
    | none => exact .refused _ _
    | some stored => exact .erased key stored unlocked stands

theorem transition_openFor (session : Session) :
    Transition dataset volume (.openFor session)
      ((dataset.openFor session).1.map fun _ => .done) (dataset.openFor session).2 := by
  unfold openFor
  cases shut : dataset.session with
  | some other => exact .refused _ _
  | none => exact .opened session shut

theorem transition_close :
    Transition dataset volume .close ((dataset.close volume).1.map fun _ => .done)
      (dataset.close volume).2.1 := by
  unfold close
  cases unshut : dataset.closed? with
  | some fault => exact .refused _ fault
  | none =>
    cases dataset.location with
    | none => exact .closed unshut
    | some path =>
      cases saved : dataset.save path volume with
      | mk result after =>
        cases result with
        | error fault => simpa only [saved] using .refused _ fault
        | ok size => simpa only [saved] using .closed unshut

theorem transition_startBrowse (key : Key) (orAbove : Bool) (direction : Direction) :
    Transition dataset volume (.startBrowse key orAbove direction)
      ((dataset.startBrowse key orAbove direction).1.map .started)
      (dataset.startBrowse key orAbove direction).2 := by
  unfold startBrowse
  cases unshut : dataset.closed? with
  | some fault => exact .refused _ fault
  | none => exact .started key orAbove direction unshut

theorem transition_endBrowse (number : UInt64) :
    Transition dataset volume (.endBrowse number)
      ((dataset.endBrowse number).1.map fun _ => .done) (dataset.endBrowse number).2 := by
  unfold endBrowse
  cases unshut : dataset.closed? with
  | some fault => exact .refused _ fault
  | none => exact .ended number unshut

theorem transition_resetBrowse (number : UInt64) (key : Key) :
    Transition dataset volume (.resetBrowse number key)
      ((dataset.resetBrowse number key).1.map fun _ => .done)
      (dataset.resetBrowse number key).2 := by
  unfold resetBrowse
  cases unshut : dataset.closed? with
  | some fault => exact .refused _ fault
  | none =>
    cases live : dataset.cursors.find? number with
    | none => exact .refused _ _
    | some cursor => exact .placed number key cursor unshut live

theorem transition_load (path : String) :
    Transition dataset volume (.load path) ((dataset.load path volume).1.map fun _ => .done)
      (dataset.load path volume).2 := by
  unfold load
  cases readable : Snapshot.load path volume with
  | error fault => exact .refused _ fault
  | ok snapshot =>
    simp only
    cases restored : Store.ofSnapshot dataset.definition snapshot with
    | error fault => exact .refused _ fault
    | ok store =>
      by_cases busy : dataset.isOpen = true
      · simp only [busy, if_true]
        exact .refused _ _
      · have shut : dataset.session = none := by simpa [isOpen] using busy
        simp only [busy]
        exact .loaded path snapshot store shut readable restored

end Functions

/-- Every request takes the dataset along one of the transitions. -/
theorem transition_perform (operation : Operation) (dataset : Dataset) (volume : Volume) :
    Transition dataset volume operation (dataset.perform operation volume).1
      (dataset.perform operation volume).2.1 := by
  cases operation with
  | openFor session => exact dataset.transition_openFor volume session
  | close => exact dataset.transition_close volume
  | read key => exact dataset.transition_answerRead volume (.read key) _
  | readGeneric beginning => exact dataset.transition_answerRead volume (.readGeneric beginning) _
  | readAt rba => exact dataset.transition_answerRead volume (.readAt rba) _
  | readNumbered number => exact dataset.transition_answerRead volume (.readNumbered number) _
  | write record => exact dataset.transition_write volume record
  | update key data => exact dataset.transition_update volume key data
  | erase key => exact dataset.transition_erase volume key
  | startBrowse key orAbove direction =>
    exact dataset.transition_startBrowse volume key orAbove direction
  | readNext number => exact dataset.transition_step volume (.readNext number) number _ rfl
  | readPrevious number =>
    exact dataset.transition_step volume (.readPrevious number) number _ rfl
  | readBrowse number => exact dataset.transition_step volume (.readBrowse number) number _ rfl
  | endBrowse number => exact dataset.transition_endBrowse volume number
  | resetBrowse number key => exact dataset.transition_resetBrowse volume number key
  | browseContext number =>
    simp only [perform, cursor]
    cases live : dataset.cursors.find? number with
    | none => exact .refused _ _
    | some cursor => exact .shown number cursor live
  | save path =>
    simp only [perform]
    cases written : (dataset.save path volume).1 with
    | error fault => exact .refused _ fault
    | ok size => exact .saved path size written
  | load path => exact dataset.transition_load volume path

end Dataset

end KeySequenced
