import KeySequenced.Bytes.Basic

/-!
# Keys

A key is a string of bytes; keys are ordered byte by byte, a proper beginning
before its extensions.  A key of printable ASCII characters is shown as text,
every other key in hexadecimal.
-/

set_option autoImplicit false

namespace KeySequenced

/-- The bytes under which a record is stored, in lexicographic order. -/
abbrev Key := Bytes

namespace Key

/-- A byte that is shown as a character: the space and the visible ASCII characters. -/
def isShown (byte : UInt8) : Bool := 0x20 ≤ byte && byte ≤ 0x7e

/-- The key as text if every byte of it is shown, else in hexadecimal. -/
def display (key : Key) : String :=
  if !key.isEmpty && key.all isShown then
    String.ofList (key.map fun byte => Char.ofNat byte.toNat)
  else "0x" ++ Bytes.hex key

def inspect (key : Key) : String := "Key(" ++ display key ++ ")"

end Key

end KeySequenced
