import KeySequenced.Dataset.Basic

/-!
# Records by key and address

Reading, writing, updating and erasing single records.
-/

set_option autoImplicit false

namespace KeySequenced.Dataset

/-! ## Reading -/

/-- Counts a read that found a record; a fault changes nothing. -/
def answerRead (dataset : Dataset) (found : Option Record) (otherwise : Fault) :
    Except Fault Record × Dataset :=
  match dataset.closed? with
  | some fault => (.error fault, dataset)
  | none =>
    match found with
    | none => (.error otherwise, dataset)
    | some record => (.ok record, { dataset with statistics := dataset.statistics.countRead })

def read (dataset : Dataset) (key : Key) : Except Fault Record × Dataset :=
  dataset.answerRead (dataset.store.find? key) (.recordNotFound (Key.display key))

/-- Reads the record with the least key that begins with `beginning`. -/
def readGeneric (dataset : Dataset) (beginning : Key) : Except Fault Record × Dataset :=
  dataset.answerRead
    ((dataset.store.atOrAbove? beginning).filter fun record => beginning.isPrefixOf record.key)
    (.recordNotFound (Key.display beginning))

def readAt (dataset : Dataset) (rba : UInt64) : Except Fault Record × Dataset :=
  dataset.answerRead (dataset.store.findAt? rba) (.nothingAt rba.toNat)

/-- Refuses a relative record number, which no record of a key-sequenced dataset has. -/
def readNumbered (dataset : Dataset) (number : UInt64) : Except Fault Record × Dataset :=
  dataset.answerRead none (.refused (.recordNumber number.toNat))

/-! ## Changing -/

/-- Writes a record and tells the address that it gets.  All else of it is kept as it comes, the
mark of an erasure as well. -/
def write (dataset : Dataset) (record : Record) : Except Fault Address × Dataset :=
  match dataset.unfit? .write record.key record.data with
  | some fault => (.error fault, dataset)
  | none =>
    if dataset.store.records.contains record.key then
      (.error (.duplicateKey (Key.display record.key)), dataset)
    else
      let rba := dataset.store.nextRba
      match Store.endOf? rba record.storedLength with
      | none => (.error (.refused .addressSpaceExhausted), dataset)
      | some next =>
        (.ok (.rba rba),
          { dataset with
            store := dataset.store.put (record.placedAt rba) next
            statistics :=
              (dataset.statistics.allocate (allocatedFor dataset.definition next)).countWrite
                (UInt64.ofNat record.storedLength) })

/-- Replaces the payload of a stored record, which keeps its address and its mark. -/
def update (dataset : Dataset) (key : Key) (data : Bytes) : Except Fault Unit × Dataset :=
  match dataset.unfit? .update key data with
  | some fault => (.error fault, dataset)
  | none =>
    match dataset.store.records.find? key with
    | none => (.error (.recordNotFound (Key.display key)), dataset)
    | some stored =>
      (.ok (),
        { dataset with
          store := dataset.store.replace key stored data
          statistics := dataset.statistics.countUpdate
            (UInt64.ofNat stored.storedLength)
            (UInt64.ofNat { stored with data := data }.storedLength) })

def erase (dataset : Dataset) (key : Key) : Except Fault Record × Dataset :=
  match dataset.locked? .delete with
  | some fault => (.error fault, dataset)
  | none =>
    match dataset.store.records.find? key with
    | none => (.error (.recordNotFound (Key.display key)), dataset)
    | some stored =>
      (.ok { stored with deleted := true },
        { dataset with
          store := dataset.store.remove key stored
          statistics := dataset.statistics.countDelete (UInt64.ofNat stored.storedLength) })

end KeySequenced.Dataset
