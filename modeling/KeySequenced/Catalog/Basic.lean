import KeySequenced.Dataset.Durable
import KeySequenced.Text.Quoted
import KeySequenced.Text.Summary

/-!
# Catalogs

A catalog registers datasets under normalized cluster names: without blanks at
the ends and with ASCII letters in upper case.  A registered dataset is reached
through its handle, which stays good when the dataset is deleted from the
catalog.  A catalog with a root directory gives every dataset a file there.
-/

set_option autoImplicit false

namespace KeySequenced

inductive CatalogFault where
  | notCataloged (name : String)
  | alreadyCataloged (name : String)
  | inUse (name : String)
  | dataset (fault : Fault)
  deriving DecidableEq, Repr

def CatalogFault.message : CatalogFault → String
  | .notCataloged name => s!"Dataset not cataloged: {name}"
  | .alreadyCataloged name => s!"Dataset already cataloged: {name}"
  | .inUse name => s!"Dataset in use: {name} is open"
  | .dataset fault => fault.message

/-- What identifies a dataset that a catalog has defined. -/
abbrev Handle := Nat

/-- The datasets that have been defined, and the names under which they are registered. -/
structure Catalog where
  root : Option String
  entries : Table String Handle
  datasets : Table Handle Dataset
  nextHandle : Handle

namespace Catalog

def empty (root : Option String) : Catalog := ⟨root, .empty, .empty, 0⟩

/-- The form of a cluster name under which its dataset is registered. -/
def normalize (name : String) : String :=
  String.ofList ((Text.trimBlanks name.toList).map Char.toUpper)

def locationFor (catalog : Catalog) (name : String) : Option String :=
  catalog.root.map fun root => Path.join root (name ++ ".ksds")

def dataset? (catalog : Catalog) (handle : Handle) : Option Dataset :=
  catalog.datasets.find? handle

/-- The registered names in ascending order.  The table keeps them so, which stands for sorting the
keys of a map that has no order. -/
def names (catalog : Catalog) : List String := catalog.entries.keys

def size (catalog : Catalog) : Nat := catalog.entries.size

def register (catalog : Catalog) (name : String) (dataset : Dataset) : Catalog :=
  { catalog with
    entries := catalog.entries.insert name catalog.nextHandle
    datasets := catalog.datasets.insert catalog.nextHandle dataset
    nextHandle := catalog.nextHandle + 1 }

/-- Creates the dataset for a name that is not registered yet, with the records of its snapshot if
there is one. -/
def create (catalog : Catalog) (definition : Definition) (volume : Volume) :
    Except CatalogFault Dataset :=
  let name := normalize definition.clusterName
  if catalog.entries.contains name then .error (.alreadyCataloged name)
  else
    match Dataset.create { definition with clusterName := name } (catalog.locationFor name)
        volume with
    | .error fault => .error (.dataset fault)
    | .ok dataset => .ok dataset

/-- Creates a dataset and registers it. -/
def define (catalog : Catalog) (definition : Definition) (volume : Volume) :
    Except CatalogFault Handle × Catalog :=
  match catalog.create definition volume with
  | .error fault => (.error fault, catalog)
  | .ok dataset =>
    (.ok catalog.nextHandle, catalog.register (normalize definition.clusterName) dataset)

def lookup (catalog : Catalog) (name : String) : Except CatalogFault Handle :=
  match catalog.entries.find? (normalize name) with
  | none => .error (.notCataloged (normalize name))
  | some handle => .ok handle

def unregister (catalog : Catalog) (name : String) : Catalog :=
  { catalog with entries := catalog.entries.erase name }

/-- Removes the snapshot of a dataset; one that does not exist is no fault. -/
def removeSnapshot (dataset : Dataset) (volume : Volume) : Except CatalogFault Volume :=
  match dataset.location with
  | none => .ok volume
  | some path =>
    match volume.removeFile path with
    | .ok after => .ok after
    | .error .missing => .ok volume
    | .error obstacle =>
      .error (.dataset (.inputOutput none obstacle.failureClass obstacle.message))

def delete (catalog : Catalog) (name : String) (volume : Volume) :
    Except CatalogFault Unit × Catalog × Volume :=
  let name := normalize name
  match (catalog.entries.find? name).bind catalog.dataset? with
  | none => (.error (.notCataloged name), catalog, volume)
  | some dataset =>
    if dataset.isOpen then (.error (.inUse name), catalog, volume)
    else
      match removeSnapshot dataset volume with
      | .error fault => (.error fault, catalog, volume)
      | .ok after => (.ok (), catalog.unregister name, after)

/-- The catalog of a program that has started anew beside the same volume. -/
def restart (catalog : Catalog) : Catalog := empty catalog.root

def setDataset (catalog : Catalog) (handle : Handle) (dataset : Dataset) : Catalog :=
  { catalog with datasets := catalog.datasets.insert handle dataset }

def summary (catalog : Catalog) : String :=
  let root :=
    match catalog.root with
    | none => "None"
    | some path => "Some(" ++ Text.quote path ++ ")"
  Text.summary "Catalog" [⟨"root", root⟩, ⟨"datasets", toString catalog.size⟩]

end Catalog

end KeySequenced
