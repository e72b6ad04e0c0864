import KeySequenced.Bytes.Checksum
import KeySequenced.Fault
import KeySequenced.Record

/-!
# Snapshots

A snapshot is a durable copy of a dataset's records.  Its file is a header of
32 bytes (magic, version, record count, next relative byte address, eight
reserved bytes) and a frame for every record: the length of the record's wire
form and its CRC-32C, four bytes each, and the wire form itself.
`Snapshot.encode` is that file, `Snapshot.write` writes it up to the first record
that has no frame, and `Snapshot.decode` reads it.
-/

set_option autoImplicit false

namespace KeySequenced

/-- The records of a dataset and the address that the next one would get. -/
structure Snapshot where
  nextRba : UInt64
  records : List Record
  deriving DecidableEq, Repr

namespace Snapshot

def magic : Bytes := [0x56, 0x53, 0x41, 0x4d]

def version : Nat := 1

def headerSize : Nat := 32

/-- The size of the lengths and checksum before the record in a frame. -/
def frameHeaderSize : Nat := 8

/-! ## Writing -/

def header (count : Nat) (nextRba : UInt64) : Bytes :=
  magic ++ LittleEndian.encode 4 version ++ LittleEndian.encode 8 count
    ++ LittleEndian.encode 8 nextRba.toNat ++ LittleEndian.encode 8 0

def frame (body : Bytes) : Bytes :=
  LittleEndian.encode 4 body.length
    ++ LittleEndian.encode 4 (Checksum.ofBytes body).toNat ++ body

def frames (records : List Record) : Bytes :=
  records.flatMap fun record => frame record.encode

def encode (snapshot : Snapshot) : Bytes :=
  header snapshot.records.length snapshot.nextRba ++ frames snapshot.records

/-- The frame of a record, if the record has a wire form and its length fits in four bytes. -/
def frame? (record : Record) : Except Refusal Bytes :=
  match record.encode? with
  | .error refusal => .error refusal
  | .ok body =>
    if body.length < UInt32.size then .ok (frame body) else .error .frameTooLarge

/-- The frames of the records up to the first one that has none, and why that one has none. -/
def writeFrames : List Record → Bytes × Option Refusal
  | [] => ([], none)
  | record :: rest =>
    match frame? record with
    | .error refusal => ([], some refusal)
    | .ok written =>
      let later := writeFrames rest
      (written ++ later.1, later.2)

/-- The bytes that get written, and what has kept the rest from being written. -/
def write (snapshot : Snapshot) : Bytes × Option Refusal :=
  let written := writeFrames snapshot.records
  (header snapshot.records.length snapshot.nextRba ++ written.1, written.2)

/-! ## Reading -/

/-- What a frame of `held` bytes at `offset` gives by the record that has been read from them. -/
def accept (offset held : Nat) : Except Damage (Record × Nat) → Except Fault (Record × Nat)
  | .error damage => .error (.corrupted damage)
  | .ok (record, used) =>
    if used ≠ held then .error (.corrupted ⟨offset, .looseFrame held used⟩)
    else .ok (record, held)

/-- Reads the frame at the front of `rest`, which begins at `offset` of the file, and tells the
size of the record in it. -/
def decodeFrame (path : String) (offset : Nat) (rest : Bytes) : Except Fault (Record × Nat) :=
  let head := rest.take frameHeaderSize
  if head.length < frameHeaderSize then
    .error (.corrupted ⟨offset, .truncatedFrameHeader⟩)
  else
    let held := LittleEndian.decode (head.take 4)
    let expected := UInt32.ofNat (LittleEndian.decode (head.drop 4))
    let body := (rest.drop frameHeaderSize).take held
    let actual := Checksum.ofBytes body
    if body.length < held then
      .error (.corrupted ⟨offset, .truncatedFrame held body.length⟩)
    else if actual ≠ expected then
      .error (.checksumMismatch path expected actual offset)
    else accept offset held (Record.decode body)

/-- Reads frames until nothing is left, at most `steps` of them; `found` holds the records of the
frames before, the last one first. -/
def decodeFrames (path : String) : Nat → Nat → Bytes → List Record → Except Fault (List Record)
  | 0, _, _, found => .ok found.reverse
  | steps + 1, offset, rest, found =>
    if rest.isEmpty then .ok found.reverse
    else
      match decodeFrame path offset rest with
      | .error fault => .error fault
      | .ok (record, held) =>
        decodeFrames path steps (offset + frameHeaderSize + held)
          (rest.drop (frameHeaderSize + held)) (record :: found)

/-- The snapshot by the records that have been read, if they are as many as the header promises. -/
def conclude (promised : Nat) (nextRba : UInt64) :
    Except Fault (List Record) → Except Fault Snapshot
  | .error fault => .error fault
  | .ok records =>
    if records.length ≠ promised then
      .error (.corrupted ⟨8, .recordCount promised records.length⟩)
    else .ok ⟨nextRba, records⟩

/-- Reads the file of a snapshot; `path` is the name under which a mismatch is reported. -/
def decode (path : String) (bytes : Bytes) : Except Fault Snapshot :=
  if bytes.length < headerSize then
    .error (.corrupted ⟨0, .shortFile bytes.length headerSize⟩)
  else if bytes.take 4 ≠ magic then .error (.corrupted ⟨0, .wrongMagic⟩)
  else
    let found := LittleEndian.decode ((bytes.drop 4).take 4)
    let promised := LittleEndian.decode ((bytes.drop 8).take 8)
    let nextRba := UInt64.ofNat (LittleEndian.decode ((bytes.drop 16).take 8))
    if found ≠ version then .error (.corrupted ⟨4, .version found⟩)
    else
      conclude promised nextRba
        (decodeFrames path bytes.length headerSize (bytes.drop headerSize) [])

end Snapshot

end KeySequenced
