import KeySequenced.Dataset.Basic
import KeySequenced.Snapshot.File

/-!
# Durable datasets

A dataset outlives a program in its snapshot: it is saved when it is closed and
restored when it is created at a location that already holds one.
-/

set_option autoImplicit false

namespace KeySequenced.Dataset

def save (dataset : Dataset) (path : String) (volume : Volume) : Except Fault Nat × Volume :=
  dataset.store.toSnapshot.save path volume

def closed (dataset : Dataset) : Dataset := { dataset with session := none, cursors := .empty }

/-- Closes the dataset; one with a location is saved first and stays open if that fails. -/
def close (dataset : Dataset) (volume : Volume) : Except Fault Unit × Dataset × Volume :=
  match dataset.closed? with
  | some fault => (.error fault, dataset, volume)
  | none =>
    match dataset.location with
    | none => (.ok (), dataset.closed, volume)
    | some path =>
      match dataset.save path volume with
      | (.error fault, after) => (.error fault, dataset, after)
      | (.ok _, after) => (.ok (), dataset.closed, after)

def load (dataset : Dataset) (path : String) (volume : Volume) : Except Fault Unit × Dataset :=
  match Snapshot.load path volume with
  | .error fault => (.error fault, dataset)
  | .ok snapshot =>
    match Store.ofSnapshot dataset.definition snapshot with
    | .error fault => (.error fault, dataset)
    | .ok store =>
      if dataset.isOpen then (.error (.refused .loadIntoOpen), dataset)
      else
        (.ok (),
          { dataset with
            store := store
            cursors := .empty
            statistics := dataset.statistics.resetSpace (UInt64.ofNat store.usedBytes)
              (allocatedFor dataset.definition store.nextRba) })

/-- Creates a dataset by a sound definition, with the records of the snapshot that its location
holds. -/
def create (definition : Definition) (location : Option String) (volume : Volume) :
    Except Fault Dataset :=
  match definition.defect? with
  | some defect => .error (.defective defect)
  | none =>
    if definition.organization ≠ .keySequenced then
      .error (.unsupported definition.organization)
    else
      let dataset := new definition location
      match location with
      | none => .ok dataset
      | some path =>
        if volume.holds path then
          match dataset.load path volume with
          | (.error fault, _) => .error fault
          | (.ok _, restored) => .ok restored
        else .ok dataset

end KeySequenced.Dataset
