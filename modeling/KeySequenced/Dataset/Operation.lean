import KeySequenced.Dataset.Access
import KeySequenced.Dataset.Browse
import KeySequenced.Dataset.Durable

/-!
# Operations

The requests that a dataset takes, as values, and what each answers.  `perform`
carries one out and `run` a sequence of them, so that statements about any
history of a dataset can be made.
-/

set_option autoImplicit false

namespace KeySequenced

inductive Operation where
  | openFor (session : Session)
  | close
  | read (key : Key)
  | readGeneric (beginning : Key)
  | readAt (rba : UInt64)
  | readNumbered (number : UInt64)
  | write (record : Record)
  | update (key : Key) (data : Bytes)
  | erase (key : Key)
  | startBrowse (key : Key) (orAbove : Bool) (direction : Direction)
  | readNext (cursor : UInt64)
  | readPrevious (cursor : UInt64)
  | readBrowse (cursor : UInt64)
  | endBrowse (cursor : UInt64)
  | resetBrowse (cursor : UInt64) (key : Key)
  | browseContext (cursor : UInt64)
  | save (path : String)
  | load (path : String)
  deriving DecidableEq, Repr

inductive Answer where
  | done
  | record (record : Record)
  | address (address : Address)
  /-- The number of the cursor of a browse that has been started. -/
  | started (cursor : UInt64)
  | context (cursor : Cursor)
  /-- The size of a file that has been saved. -/
  | saved (size : Nat)
  deriving DecidableEq, Repr

namespace Dataset

def perform (operation : Operation) (dataset : Dataset) (volume : Volume) :
    Except Fault Answer × Dataset × Volume :=
  match operation with
  | .openFor session =>
    let (result, after) := dataset.openFor session
    (result.map fun _ => .done, after, volume)
  | .close =>
    let (result, after) := dataset.close volume
    (result.map fun _ => .done, after)
  | .read key =>
    let (result, after) := dataset.read key
    (result.map .record, after, volume)
  | .readGeneric beginning =>
    let (result, after) := dataset.readGeneric beginning
    (result.map .record, after, volume)
  | .readAt rba =>
    let (result, after) := dataset.readAt rba
    (result.map .record, after, volume)
  | .readNumbered number =>
    let (result, after) := dataset.readNumbered number
    (result.map .record, after, volume)
  | .write record =>
    let (result, after) := dataset.write record
    (result.map .address, after, volume)
  | .update key data =>
    let (result, after) := dataset.update key data
    (result.map fun _ => .done, after, volume)
  | .erase key =>
    let (result, after) := dataset.erase key
    (result.map .record, after, volume)
  | .startBrowse key orAbove direction =>
    let (result, after) := dataset.startBrowse key orAbove direction
    (result.map .started, after, volume)
  | .readNext number =>
    let (result, after) := dataset.step number (some .forward)
    (result.map .record, after, volume)
  | .readPrevious number =>
    let (result, after) := dataset.step number (some .backward)
    (result.map .record, after, volume)
  | .readBrowse number =>
    let (result, after) := dataset.step number none
    (result.map .record, after, volume)
  | .endBrowse number =>
    let (result, after) := dataset.endBrowse number
    (result.map fun _ => .done, after, volume)
  | .resetBrowse number key =>
    let (result, after) := dataset.resetBrowse number key
    (result.map fun _ => .done, after, volume)
  | .browseContext number => ((dataset.cursor number).map .context, dataset, volume)
  | .save path =>
    let (result, after) := dataset.save path volume
    (result.map .saved, dataset, after)
  | .load path =>
    let (result, after) := dataset.load path volume
    (result.map fun _ => .done, after, volume)

def run : List Operation → Dataset → Volume → List (Except Fault Answer) × Dataset × Volume
  | [], dataset, volume => ([], dataset, volume)
  | operation :: rest, dataset, volume =>
    let (answer, dataset, volume) := dataset.perform operation volume
    let (answers, dataset, volume) := run rest dataset volume
    (answer :: answers, dataset, volume)

end Dataset

end KeySequenced
