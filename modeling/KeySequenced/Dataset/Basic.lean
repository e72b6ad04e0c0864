import KeySequenced.Access
import KeySequenced.Cursor
import KeySequenced.Fault
import KeySequenced.Statistics
import KeySequenced.Store

/-!
# Datasets

A dataset is a record store with its definition, the path of its snapshot, the
modes for which it is open, the cursors of its browses and its statistics.

Every request answers with a result and the dataset after it.  A request that
ends in a fault leaves the dataset as it was; only a browse step that meets an
end of the data notes that in its cursor.
-/

set_option autoImplicit false

namespace KeySequenced

structure Dataset where
  definition : Definition
  /-- The path of the snapshot that closing saves. -/
  location : Option String
  /-- The modes for which the dataset is open. -/
  session : Option Session
  store : Store
  /-- The cursors of the browses under way, by their numbers. -/
  cursors : Table UInt64 Cursor
  /-- The number of the next browse; after the greatest word it begins anew with zero. -/
  nextCursor : UInt64
  statistics : Statistics

namespace Dataset

def new (definition : Definition) (location : Option String) : Dataset where
  definition := definition
  location := location
  session := none
  store := .empty
  cursors := .empty
  nextCursor := 1
  statistics := .zero

def clusterName (dataset : Dataset) : String := dataset.definition.clusterName

def isOpen (dataset : Dataset) : Bool := dataset.session.isSome

def size (dataset : Dataset) : Nat := dataset.store.size

def activeBrowses (dataset : Dataset) : Nat := dataset.cursors.size

/-! ## Who may do what -/

def notOpen (dataset : Dataset) : Fault := .notOpen dataset.clusterName

/-- What keeps a request from being considered at all. -/
def closed? (dataset : Dataset) : Option Fault :=
  match dataset.session with
  | none => some dataset.notOpen
  | some _ => none

/-- What keeps a request from changing the contents. -/
def locked? (dataset : Dataset) (request : OutputRequest) : Option Fault :=
  match dataset.session with
  | none => some dataset.notOpen
  | some session =>
    if session.access.allowsOutput then none
    else some (.refused (.notPermitted request dataset.clusterName session.access))

/-- What keeps a record from being written or updated. -/
def unfit? (dataset : Dataset) (request : OutputRequest) (key : Key) (data : Bytes) :
    Option Fault :=
  match dataset.locked? request with
  | some fault => some fault
  | none => (dataset.definition.refusal? key data).map .refused

/-- The space of whole control intervals that holds all addresses below `rba`. -/
def allocatedFor (definition : Definition) (rba : UInt64) : UInt64 :=
  let size := max definition.intervalSize.toNat 1
  UInt64.ofNat (min Statistics.greatest ((rba.toNat + (size - 1)) / size * size))

def openFor (dataset : Dataset) (session : Session) : Except Fault Unit × Dataset :=
  match dataset.session with
  | some _ => (.error (.alreadyOpen dataset.clusterName), dataset)
  | none => (.ok (), { dataset with session := some session })

end Dataset

end KeySequenced
