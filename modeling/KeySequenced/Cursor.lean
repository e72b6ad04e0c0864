import KeySequenced.Record

/-!
# Cursors

A cursor goes through the records of a dataset in key order.  It keeps a copy
of the key it rests on and no hold on the record itself, so records may be
written and erased around it.  At an end of the data it stays until it is
turned round or placed anew.
-/

set_option autoImplicit false

namespace KeySequenced

inductive Direction where
  | forward
  | backward
  deriving DecidableEq, Repr

def Direction.name : Direction → String
  | .forward => "Forward"
  | .backward => "Backward"

/-- A key and the address of the record that was found under it. -/
structure Position where
  key : Key
  address : Address
  deriving DecidableEq, Repr

structure Cursor where
  direction : Direction
  /-- Where the cursor rests; nowhere until it has been placed. -/
  resting : Option Position
  /-- The cursor has not been placed, or has met the start of the data. -/
  atStart : Bool
  /-- The cursor has met the end of the data, or was placed there for want of a record. -/
  atEnd : Bool
  recordsRead : UInt64
  deriving DecidableEq, Repr

namespace Cursor

def new (direction : Direction) : Cursor := ⟨direction, none, true, false, 0⟩

/-- The position that a report shows; without a place it has no key and no address. -/
def position (cursor : Cursor) : Position := cursor.resting.getD ⟨[], .invalid⟩

def placeAt (cursor : Cursor) (key : Key) (address : Address) : Cursor :=
  { cursor with resting := some ⟨key, address⟩, atStart := false, atEnd := false }

/-- Places the cursor at the end of the data, for want of a record for the requested key. -/
def exhaust (cursor : Cursor) (requested : Key) : Cursor :=
  { cursor with resting := some ⟨requested, .invalid⟩, atStart := false, atEnd := true }

/-- Places the cursor on a record that has been found, or else at the end of the data. -/
def placeOn (cursor : Cursor) (found : Option Record) (requested : Key) : Cursor :=
  match found with
  | some record => cursor.placeAt record.key record.address
  | none => cursor.exhaust requested

def advanceTo (cursor : Cursor) (key : Key) (address : Address) : Cursor :=
  { cursor.placeAt key address with recordsRead := cursor.recordsRead + 1 }

def hitEnd (cursor : Cursor) : Cursor := { cursor with atStart := false, atEnd := true }

def hitStart (cursor : Cursor) : Cursor := { cursor with atStart := true, atEnd := false }

end Cursor

end KeySequenced
