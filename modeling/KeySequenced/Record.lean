import KeySequenced.Address
import KeySequenced.Definition
import KeySequenced.Key
import KeySequenced.Refusal

/-!
# Records and their wire form

A record carries a payload under a key.  On the wire it is the length of the
key in eight bytes, the key, the length of the payload in eight bytes, the
payload, and the block of its address.  `Record.encode?` writes that form for
every record within the wire limits and `Record.decode` reads it from the front
of a byte string.
-/

set_option autoImplicit false

namespace KeySequenced

/-- The rule of a definition that a record breaks, if it breaks one. -/
def Definition.refusal? (definition : Definition) (key : Key) (data : Bytes) : Option Refusal :=
  if key.length = 0 then some .emptyKey
  else if definition.keyLength.toNat < key.length then
    some (.keyTooLong key.length definition.keyLength.toNat)
  else if definition.recordLimit.toNat < data.length then
    some (.recordTooLong data.length definition.recordLimit.toNat)
  else none

/-- A payload under its key, where it lies, and whether it has been erased. -/
structure Record where
  key : Key
  data : Bytes
  address : Address
  deleted : Bool
  deriving DecidableEq, Repr

namespace Record

def live (key : Key) (data : Bytes) (address : Address) : Record := ⟨key, data, address, false⟩

/-- A record that has not been written yet and so lies nowhere. -/
def new (key : Key) (data : Bytes) : Record := live key data .invalid

def placedAt (record : Record) (rba : UInt64) : Record := { record with address := .rba rba }

def storedLength (record : Record) : Nat := record.key.length + record.data.length

def encodedLength (record : Record) : Nat :=
  8 + record.key.length + 8 + record.data.length + Address.blockSize

def oversize? (record : Record) : Option Refusal :=
  if record.key.length = 0 ∨ maximumKeyLength < record.key.length then
    some (.keyOutsideWire record.key.length maximumKeyLength)
  else if maximumRecordLength < record.data.length then
    some (.dataOutsideWire record.data.length maximumRecordLength)
  else none

/-- The wire form, whatever the size of the record. -/
def encode (record : Record) : Bytes :=
  LittleEndian.encode 8 record.key.length ++ record.key
    ++ LittleEndian.encode 8 record.data.length ++ record.data
    ++ record.address.encode

def encode? (record : Record) : Except Refusal Bytes :=
  match record.oversize? with
  | some refusal => .error refusal
  | none => .ok record.encode

/-! ## Reading -/

/-- Splits `count` bytes off the front of `rest`, which begins at `offset`. -/
def split (part : RecordPart) (offset : Nat) (rest : Bytes) (count : Nat) :
    Except Damage (Bytes × Bytes) :=
  let front := rest.take count
  if front.length < count then
    .error ⟨offset, .truncatedPart part count front.length⟩
  else .ok (front, rest.drop count)

def splitLength (part : RecordPart) (offset : Nat) (rest : Bytes) :
    Except Damage (Nat × Bytes) := do
  let (front, rest) ← split part offset rest 8
  return (LittleEndian.decode front, rest)

/-- Reads the record at the front of a byte string, and the count of its bytes. -/
def decode (bytes : Bytes) : Except Damage (Record × Nat) := do
  let (keyLength, rest) ← splitLength .key 0 bytes
  if keyLength = 0 ∨ maximumKeyLength < keyLength then
    throw ⟨0, .keyLength keyLength⟩
  let (key, rest) ← split .key 8 rest keyLength
  let (dataLength, rest) ← splitLength .data (8 + keyLength) rest
  if maximumRecordLength < dataLength then
    throw ⟨8 + keyLength, .recordLength dataLength maximumRecordLength⟩
  let (data, rest) ← split .data (16 + keyLength) rest dataLength
  let addressOffset := 16 + keyLength + dataLength
  let (block, _) ← split .address addressOffset rest Address.blockSize
  match Address.decode block with
  | .error damage => throw (damage.shift addressOffset)
  | .ok address => return (live key data address, addressOffset + Address.blockSize)

def decodeAll (bytes : Bytes) : List (Except Damage (Record × Nat)) :=
  go (bytes.length + 1) bytes
where
  /-- Reads at most `steps` records. -/
  go : Nat → Bytes → List (Except Damage (Record × Nat))
    | 0, _ => []
    | steps + 1, bytes =>
      match decode bytes with
      | .error damage => [.error damage]
      | .ok (record, used) =>
        let rest := bytes.drop used
        .ok (record, used) :: if rest.isEmpty then [] else go steps rest

end Record

end KeySequenced
