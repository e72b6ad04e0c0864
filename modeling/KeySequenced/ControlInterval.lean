import KeySequenced.Fault

/-!
# Control intervals

A control interval is a page of fixed capacity.  Every record in it costs its
length and three bytes for its descriptor.  Descriptors give the place of each
record in the data area, in the order of insertion.
-/

set_option autoImplicit false

namespace KeySequenced

/-- The place of a record in the data area of a control interval. -/
structure Descriptor where
  offset : Nat
  length : Nat
  deriving DecidableEq, Repr

structure ControlInterval where
  capacity : Nat
  freeSpace : Nat
  descriptors : List Descriptor
  area : Bytes
  deriving DecidableEq, Repr

namespace ControlInterval

def descriptorSize : Nat := 3

def empty (capacity : Nat) : ControlInterval := ⟨capacity, capacity, [], []⟩

def size (interval : ControlInterval) : Nat := interval.descriptors.length

def occupied (interval : ControlInterval) : Nat := interval.capacity - interval.freeSpace

def hasSpaceFor (interval : ControlInterval) (length : Nat) : Bool :=
  length + descriptorSize ≤ interval.freeSpace

/-- Adds a record behind those present and tells its slot, if it fits. -/
def insert (interval : ControlInterval) (record : Bytes) :
    Except Fault (Nat × ControlInterval) :=
  if interval.hasSpaceFor record.length then
    .ok (interval.size,
      { interval with
        freeSpace := interval.freeSpace - (record.length + descriptorSize)
        descriptors := interval.descriptors ++ [⟨interval.area.length, record.length⟩]
        area := interval.area ++ record })
  else
    .error (.refused (.intervalFull interval.freeSpace (record.length + descriptorSize)))

def record? (interval : ControlInterval) (slot : Nat) : Option Bytes :=
  interval.descriptors[slot]?.map fun descriptor =>
    (interval.area.drop descriptor.offset).take descriptor.length

def clear (interval : ControlInterval) : ControlInterval := empty interval.capacity

end ControlInterval

end KeySequenced
