/-!
# Byte strings

Keys, payloads, wire forms and file contents are lists of bytes.  A byte string
is shown in lower-case hexadecimal, two digits a byte.
-/

set_option autoImplicit false

namespace KeySequenced

abbrev Bytes := List UInt8

namespace Bytes

def ofText (text : String) : Bytes := text.toUTF8.toList

def hexDigit (value : Nat) : Char :=
  if value < 10 then Char.ofNat (48 + value) else Char.ofNat (87 + value)

def hexPair (byte : UInt8) : List Char :=
  [hexDigit (byte.toNat / 16), hexDigit (byte.toNat % 16)]

def hex (bytes : Bytes) : String := String.ofList (bytes.flatMap hexPair)

end Bytes

end KeySequenced
