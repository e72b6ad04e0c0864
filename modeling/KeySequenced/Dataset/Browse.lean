import KeySequenced.Dataset.Basic

/-!
# Browsing

A browse goes through the records in key order by means of a cursor.  Every
step searches the store anew from the key on which the cursor rests.
-/

set_option autoImplicit false

namespace KeySequenced.Dataset

/-- The dataset with a cursor in the place of the earlier one of that number. -/
def setCursor (dataset : Dataset) (number : UInt64) (cursor : Cursor) : Dataset :=
  { dataset with cursors := dataset.cursors.insert number cursor }

/-- Starts a browse at a key, or with `orAbove` at the least key not below it, and tells the
number of its cursor. -/
def startBrowse (dataset : Dataset) (key : Key) (orAbove : Bool) (direction : Direction) :
    Except Fault UInt64 × Dataset :=
  match dataset.closed? with
  | some fault => (.error fault, dataset)
  | none =>
    let found := if orAbove then dataset.store.atOrAbove? key else dataset.store.find? key
    (.ok dataset.nextCursor,
      { dataset.setCursor dataset.nextCursor ((Cursor.new direction).placeOn found key) with
        nextCursor := dataset.nextCursor + 1 })

def deliver (dataset : Dataset) (number : UInt64) (cursor : Cursor) (record : Record) :
    Except Fault Record × Dataset :=
  (.ok record,
    { dataset.setCursor number (cursor.advanceTo record.key record.address) with
      statistics := dataset.statistics.countRead })

def recordAfter? (dataset : Dataset) (resting : Option Position) : Option Record :=
  match resting with
  | some position => dataset.store.above? position.key
  | none => dataset.store.first?

def recordBefore? (dataset : Dataset) (resting : Option Position) : Option Record :=
  match resting with
  | some position => dataset.store.below? position.key
  | none => dataset.store.last?

def stepForward (dataset : Dataset) (number : UInt64) (cursor : Cursor) :
    Except Fault Record × Dataset :=
  if cursor.atEnd then (.error (.endOfFile number), dataset)
  else
    match dataset.recordAfter? cursor.resting with
    | none => (.error (.endOfFile number), dataset.setCursor number cursor.hitEnd)
    | some record => dataset.deliver number cursor record

def stepBackward (dataset : Dataset) (number : UInt64) (cursor : Cursor) :
    Except Fault Record × Dataset :=
  if cursor.atStart then (.error (.startOfFile number), dataset)
  else
    match dataset.recordBefore? cursor.resting with
    | none => (.error (.startOfFile number), dataset.setCursor number cursor.hitStart)
    | some record => dataset.deliver number cursor record

/-- Steps a cursor in a direction, its own if none is given. -/
def step (dataset : Dataset) (number : UInt64) (direction : Option Direction) :
    Except Fault Record × Dataset :=
  match dataset.closed? with
  | some fault => (.error fault, dataset)
  | none =>
    match dataset.cursors.find? number with
    | none => (.error (.unknownCursor number), dataset)
    | some cursor =>
      match direction.getD cursor.direction with
      | .forward => dataset.stepForward number cursor
      | .backward => dataset.stepBackward number cursor

/-- Ends a browse; an unknown number is no fault. -/
def endBrowse (dataset : Dataset) (number : UInt64) : Except Fault Unit × Dataset :=
  match dataset.closed? with
  | some fault => (.error fault, dataset)
  | none => (.ok (), { dataset with cursors := dataset.cursors.erase number })

/-- Places a cursor anew at the least key not below `key`. -/
def resetBrowse (dataset : Dataset) (number : UInt64) (key : Key) : Except Fault Unit × Dataset :=
  match dataset.closed? with
  | some fault => (.error fault, dataset)
  | none =>
    match dataset.cursors.find? number with
    | none => (.error (.unknownCursor number), dataset)
    | some cursor =>
      (.ok (),
        dataset.setCursor number (cursor.placeOn (dataset.store.atOrAbove? key) key))

def cursor (dataset : Dataset) (number : UInt64) : Except Fault Cursor :=
  match dataset.cursors.find? number with
  | none => .error (.unknownCursor number)
  | some cursor => .ok cursor

end KeySequenced.Dataset
