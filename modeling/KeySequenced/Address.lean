import KeySequenced.Bytes.LittleEndian
import KeySequenced.Damage

/-!
# Addresses

A record lies at a relative byte address, has a relative record number, or has
no address.  An address is stored in a block of 24 bytes: a tag, seven zero
bytes, and one slot of eight bytes for each kind of address; the slots that the
tag leaves unused are zero.
-/

set_option autoImplicit false

namespace KeySequenced

inductive Address where
  | invalid
  /-- A relative byte address. -/
  | rba (offset : UInt64)
  /-- A relative record number. -/
  | rrn (number : UInt64)
  deriving DecidableEq, Repr, Inhabited

namespace Address

def rba? : Address → Option UInt64
  | .rba offset => some offset
  | _ => none

/-- The relative byte address; for want of one the greatest word stands in. -/
def offset (address : Address) : UInt64 := address.rba?.getD 0xffffffffffffffff

def rrn? : Address → Option UInt64
  | .rrn number => some number
  | _ => none

def isValid : Address → Bool
  | .invalid => false
  | _ => true

def display : Address → String
  | .invalid => "INVALID"
  | .rba offset => s!"RBA({offset.toNat})"
  | .rrn number => s!"RRN({number.toNat})"

def inspect : Address → String
  | .invalid => "Invalid"
  | .rba offset => s!"Rba({offset.toNat})"
  | .rrn number => s!"Rrn({number.toNat})"

/-! ## Stored form -/

def blockSize : Nat := 24

def block (tag : UInt8) (rba rrn : UInt64) : Bytes :=
  tag :: List.replicate 7 0
    ++ LittleEndian.encode 8 rba.toNat ++ LittleEndian.encode 8 rrn.toNat

def encode : Address → Bytes
  | .invalid => block 0 0 0
  | .rba offset => block 1 offset 0
  | .rrn number => block 2 0 number

/-- The address with this tag and these slots, the unused of which must be zero. -/
def ofSlots (tag : Nat) (rba rrn : UInt64) : Except Damage Address :=
  match tag with
  | 0 => if rba = 0 ∧ rrn = 0 then .ok .invalid else .error ⟨8, .unusedSlot⟩
  | 1 => if rrn = 0 then .ok (.rba rba) else .error ⟨8, .unusedSlot⟩
  | 2 => if rba = 0 then .ok (.rrn rrn) else .error ⟨8, .unusedSlot⟩
  | other => .error ⟨0, .addressTag other⟩

def decode (block : Bytes) : Except Damage Address :=
  if ((block.drop 1).take 7).any (· != 0) then .error ⟨1, .reservedBytes⟩
  else
    ofSlots (LittleEndian.decode (block.take 1))
      (UInt64.ofNat (LittleEndian.decode ((block.drop 8).take 8)))
      (UInt64.ofNat (LittleEndian.decode ((block.drop 16).take 8)))

end Address

end KeySequenced
