/-!
# Damage in stored bytes

A reader that meets bytes no writer leaves says what is wrong with them and at
which offset.
-/

set_option autoImplicit false

namespace KeySequenced

inductive RecordPart where
  | key
  | data
  | address
  deriving DecidableEq, Repr

def RecordPart.name : RecordPart → String
  | .key => "key"
  | .data => "data"
  | .address => "address"

inductive Flaw where
  /-- A reserved byte of an address block is not zero. -/
  | reservedBytes
  /-- A slot that the tag of an address block leaves unused is not zero. -/
  | unusedSlot
  /-- No kind of address has this tag. -/
  | addressTag (tag : Nat)
  | keyLength (length : Nat)
  | recordLength (length limit : Nat)
  | truncatedPart (part : RecordPart) (needed available : Nat)
  | shortFile (length needed : Nat)
  | wrongMagic
  | version (found : Nat)
  | truncatedFrameHeader
  | truncatedFrame (needed available : Nat)
  /-- The record in a frame ends before the frame does. -/
  | looseFrame (held used : Nat)
  | recordCount (promised found : Nat)
  /-- A record of a snapshot has no relative byte address. -/
  | unaddressed (key : String)
  /-- A record of a snapshot ends beyond the last address. -/
  | overflow (key : String) (rba : Nat)
  | addressTwice (rba : Nat)
  | keyTwice
  /-- A flaw in the words of whoever reports it. -/
  | stated (reason : String)
  deriving DecidableEq, Repr

def Flaw.message : Flaw → String
  | .reservedBytes => "non-zero reserved bytes in address block"
  | .unusedSlot => "inactive address slot is not zero"
  | .addressTag tag => s!"invalid address tag: {tag}"
  | .keyLength length => s!"invalid key length: {length}"
  | .recordLength length limit => s!"record length {length} exceeds {limit}"
  | .truncatedPart part needed available =>
    s!"truncated {part.name}: need {needed} bytes, {available} available"
  | .shortFile length needed =>
    s!"snapshot too short: {length} bytes, need at least {needed}"
  | .wrongMagic => "snapshot magic not found"
  | .version found => s!"unsupported snapshot version {found}"
  | .truncatedFrameHeader => "truncated frame header"
  | .truncatedFrame needed available =>
    s!"truncated frame: need {needed} bytes, {available} available"
  | .looseFrame held used => s!"frame holds {held} bytes, record used {used}"
  | .recordCount promised found => s!"header promises {promised} records, found {found}"
  | .unaddressed key => s!"record {key} has no RBA"
  | .overflow key rba => s!"record {key} at RBA {rba} overflows the address space"
  | .addressTwice rba => s!"RBA {rba} assigned twice"
  | .keyTwice => "duplicate key in snapshot"
  | .stated reason => reason

structure Damage where
  offset : Nat
  flaw : Flaw
  deriving DecidableEq, Repr

/-- The same damage, seen from `distance` bytes earlier. -/
def Damage.shift (damage : Damage) (distance : Nat) : Damage :=
  { damage with offset := distance + damage.offset }

end KeySequenced
