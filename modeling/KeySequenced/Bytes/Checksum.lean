import KeySequenced.Bytes.Basic

/-!
# The checksum of a byte string

CRC-32C: the 32-bit cyclic redundancy check of the Castagnoli polynomial, with
reflected input and output and all bits of the register inverted at both ends.
-/

set_option autoImplicit false

namespace KeySequenced.Checksum

/-- The Castagnoli polynomial, lowest power in the highest bit. -/
def polynomial : UInt32 := 0x82f63b78

/-- Shifts one bit out of the register and divides if it was set. -/
def shift (register : UInt32) : UInt32 :=
  if register &&& 1 = 1 then (register >>> 1) ^^^ polynomial else register >>> 1

def absorb (register : UInt32) (byte : UInt8) : UInt32 :=
  shift (shift (shift (shift (shift (shift (shift (shift
    (register ^^^ byte.toUInt32))))))))

def ofBytes (bytes : Bytes) : UInt32 :=
  bytes.foldl absorb 0xffffffff ^^^ 0xffffffff

example : ofBytes [] = 0 := by decide +kernel

example : ofBytes [0x31, 0x32, 0x33, 0x34, 0x35, 0x36, 0x37, 0x38, 0x39] = 0xe3069283 := by
  decide +kernel

end KeySequenced.Checksum
