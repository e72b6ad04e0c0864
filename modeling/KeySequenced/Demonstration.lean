import KeySequenced.Catalog.Basic
import KeySequenced.Dataset.Access
import KeySequenced.Dataset.Browse
import KeySequenced.Text.Utf8

/-!
# A demonstration

Loads a key-sequenced dataset with numbered records, reads the middle one,
erases the third and browses the rest.  With a snapshot directory the dataset
is kept there between runs; keys that it already holds are passed over.
-/

set_option autoImplicit false

namespace KeySequenced.Demonstration

structure Request where
  records : Nat
  cluster : String
  directory : Option String

/-- What a run has printed, and the fault message with which it has ended, if it has failed. -/
structure Report where
  lines : List String
  failure : Option String

def fiveDigits (number : Nat) : String :=
  let digits := Nat.toDigits 10 number
  String.ofList (List.replicate (5 - digits.length) '0' ++ digits)

def keyOf (number : Nat) : Key := Bytes.ofText ("KEY" ++ fiveDigits number)

def dataOf (number : Nat) : Bytes := Bytes.ofText ("record " ++ toString number)

/-- Writes `count` records from `number` on, passing over keys that are stored. -/
def fill : Nat → Nat → Dataset → Except Fault Unit × Dataset
  | 0, _, dataset => (.ok (), dataset)
  | count + 1, number, dataset =>
    match dataset.write (.new (keyOf number) (dataOf number)) with
    | (.ok _, after) => fill count (number + 1) after
    | (.error (.duplicateKey _), after) => fill count (number + 1) after
    | (.error fault, after) => (.error fault, after)

def recordLine (record : Record) : String :=
  Key.display record.key ++ "  " ++ record.address.display ++ "  " ++ Text.ofBytes record.data

/-- Reads through a cursor until an end of the data, at most `steps` times; `printed` holds the
lines before, the last one first. -/
def browse : Nat → UInt64 → List String → Dataset → Option Fault × List String × Dataset
  | 0, _, printed, dataset => (none, printed, dataset)
  | steps + 1, number, printed, dataset =>
    match dataset.step number (some .forward) with
    | (.ok record, after) => browse steps number (recordLine record :: printed) after
    | (.error fault, after) =>
      (if fault.isEndOfData then none else some fault, printed, after)

def startLines (cursor : Cursor) : List String :=
  match cursor.atEnd, cursor.resting with
  | false, some position => ["browse positioned on " ++ Key.display position.key]
  | _, _ => []

def summaryLine (dataset : Dataset) : String :=
  dataset.clusterName ++ ": " ++ toString dataset.size ++ " records, "
    ++ toString dataset.statistics.totalOperations ++ " operations, "
    ++ dataset.statistics.spaceUtilization.fixed 1 ++ "% space used"

def prepare (records : Nat) (dataset : Dataset) : Except Fault Unit × Dataset :=
  match dataset.openFor ⟨.inputOutput, .dynamic⟩ with
  | (.error fault, after) => (.error fault, after)
  | (.ok _, opened) =>
    match fill records 1 opened with
    | (.error fault, after) => (.error fault, after)
    | (.ok _, filled) =>
      match filled.read (keyOf ((records + 1) / 2)) with
      | (.error fault, after) => (.error fault, after)
      | (.ok _, read) =>
        if records < 3 then (.ok (), read)
        else
          match read.erase (keyOf 3) with
          | (.error fault, after) => (.error fault, after)
          | (.ok _, erased) => (.ok (), erased)

def present (dataset : Dataset) (volume : Volume) : Report × Volume :=
  match dataset.startBrowse (keyOf 1) true .forward with
  | (.error fault, _) => (⟨[], some fault.message⟩, volume)
  | (.ok number, started) =>
    match started.cursor number with
    | .error fault => (⟨[], some fault.message⟩, volume)
    | .ok cursor =>
      match browse (started.size + 1) number (startLines cursor).reverse started with
      | (some fault, printed, _) => (⟨printed.reverse, some fault.message⟩, volume)
      | (none, printed, browsed) =>
        match browsed.endBrowse number with
        | (.error fault, _) => (⟨printed.reverse, some fault.message⟩, volume)
        | (.ok _, ended) =>
          let lines := (summaryLine ended :: printed).reverse
          match ended.close volume with
          | (.error fault, _, after) => (⟨lines, some fault.message⟩, after)
          | (.ok _, _, after) => (⟨lines, none⟩, after)

def makeRoot (directory : Option String) (volume : Volume) : Except String Volume :=
  match directory with
  | none => .ok volume
  | some path =>
    match volume.makeDirectories path with
    | .ok made => .ok made
    | .error obstacle =>
      .error ("creating snapshot directory " ++ path ++ "\n\nCaused by:\n    " ++ obstacle.message)

def definition (cluster : String) : Definition := .keyed cluster 8

def run (request : Request) (volume : Volume) : Report × Volume :=
  if request.records = 0 then (⟨[], some "--records must be at least 1"⟩, volume)
  else
    match makeRoot request.directory volume with
    | .error message => (⟨[], some message⟩, volume)
    | .ok volume =>
      match (Catalog.empty request.directory).create (definition request.cluster) volume with
      | .error fault => (⟨[], some fault.message⟩, volume)
      | .ok dataset =>
        match prepare request.records dataset with
        | (.error fault, _) => (⟨[], some fault.message⟩, volume)
        | (.ok _, prepared) => present prepared volume

end KeySequenced.Demonstration
