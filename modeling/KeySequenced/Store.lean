import KeySequenced.Fault
import KeySequenced.Record
import KeySequenced.Snapshot.Format
import KeySequenced.Table.Change

/-!
# The record store

The records of a dataset by key, an index of their relative byte addresses, and
the address that the next record gets.  Addresses are handed out in ascending
order and never again.
-/

set_option autoImplicit false

namespace KeySequenced

/-- The records of a dataset, the index of their addresses and the next address. -/
structure Store where
  records : Table Key Record
  index : Table UInt64 Key
  nextRba : UInt64

namespace Store

def empty : Store := ⟨Table.empty, Table.empty, 0⟩

def toList (store : Store) : List Record := store.records.toList.map Prod.snd

def size (store : Store) : Nat := store.records.size

def usedBytes (store : Store) : Nat :=
  store.toList.foldr (fun record total => record.storedLength + total) 0

/-! ## Finding records -/

def find? (store : Store) (key : Key) : Option Record := store.records.find? key

def findAt? (store : Store) (rba : UInt64) : Option Record :=
  (store.index.find? rba).bind store.find?

def first? (store : Store) : Option Record := store.records.first?.map Prod.snd

def last? (store : Store) : Option Record := store.records.last?.map Prod.snd

def atOrAbove? (store : Store) (key : Key) : Option Record :=
  (store.records.atOrAbove? key).map Prod.snd

def above? (store : Store) (key : Key) : Option Record :=
  (store.records.above? key).map Prod.snd

def below? (store : Store) (key : Key) : Option Record :=
  (store.records.below? key).map Prod.snd

/-! ## Changing records -/

/-- The address behind a record of the given length, if there is one. -/
def endOf? (rba : UInt64) (length : Nat) : Option UInt64 :=
  if rba.toNat + length < UInt64.size then some (UInt64.ofNat (rba.toNat + length)) else none

/-- Puts a record under its key; `next` is the next address from then on. -/
def put (store : Store) (record : Record) (next : UInt64) : Store :=
  { records := store.records.insert record.key record
    index := store.index.insert record.address.offset record.key
    nextRba := next }

def replace (store : Store) (key : Key) (stored : Record) (data : Bytes) : Store :=
  { store with records := store.records.insert key { stored with data := data } }

def remove (store : Store) (key : Key) (stored : Record) : Store :=
  { store with
    records := store.records.erase key
    index := store.index.erase stored.address.offset }

/-! ## Snapshots -/

def toSnapshot (store : Store) : Snapshot := ⟨store.nextRba, store.toList⟩

/-- Restores one record, if it fits the definition and its key and address are new. -/
def restore (definition : Definition) (store : Store) (record : Record) : Except Fault Store :=
  match definition.refusal? record.key record.data with
  | some refusal => .error (.refused refusal)
  | none =>
    match record.address.rba? with
    | none => .error (.corrupted ⟨0, .unaddressed (Key.display record.key)⟩)
    | some rba =>
      match endOf? rba record.storedLength with
      | none => .error (.corrupted ⟨0, .overflow (Key.display record.key) rba.toNat⟩)
      | some behind =>
        if store.index.contains rba then .error (.corrupted ⟨0, .addressTwice rba.toNat⟩)
        else if store.records.contains record.key then .error (.corrupted ⟨0, .keyTwice⟩)
        else
          .ok (store.put record (if store.nextRba < behind then behind else store.nextRba))

def ofSnapshot (definition : Definition) (snapshot : Snapshot) : Except Fault Store :=
  snapshot.records.foldlM (restore definition) { empty with nextRba := snapshot.nextRba }

end Store

end KeySequenced
