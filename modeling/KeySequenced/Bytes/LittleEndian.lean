import KeySequenced.Bytes.Basic

/-!
# Little-endian numbers

A number is written in a fixed count of bytes, the least significant first.
`decode_encode` and `encode_decode` say that numbers below `bound width` and
byte strings of length `width` correspond one to one.
-/

set_option autoImplicit false

namespace KeySequenced.LittleEndian

/-- The `width` low bytes of a number, the least significant first. -/
def encode : Nat → Nat → Bytes
  | 0, _ => []
  | width + 1, value => UInt8.ofNat value :: encode width (value / 256)

/-- The number whose bytes, the least significant first, are given. -/
def decode : Bytes → Nat
  | [] => 0
  | byte :: rest => byte.toNat + 256 * decode rest

@[simp] theorem length_encode (width value : Nat) : (encode width value).length = width := by
  induction width generalizing value with
  | zero => rfl
  | succ width ih => simp [encode, ih]

/-- The number of values that `width` bytes can hold. -/
def bound : Nat → Nat
  | 0 => 1
  | width + 1 => 256 * bound width

theorem decode_lt (bytes : Bytes) : decode bytes < bound bytes.length := by
  induction bytes with
  | nil => simp [decode, bound]
  | cons byte rest ih =>
    have small := byte.toNat_lt
    simp only [decode, List.length_cons, bound]
    omega

theorem decode_encode (width value : Nat) (fits : value < bound width) :
    decode (encode width value) = value := by
  induction width generalizing value with
  | zero =>
    have : value = 0 := by simpa [bound] using fits
    simp [encode, decode, this]
  | succ width ih =>
    have quotient : value / 256 < bound width := by
      simp only [bound] at fits
      omega
    simp only [encode, decode, ih _ quotient, UInt8.toNat_ofNat']
    omega

theorem encode_decode (bytes : Bytes) : encode bytes.length (decode bytes) = bytes := by
  induction bytes with
  | nil => rfl
  | cons byte rest ih =>
    have small := byte.toNat_lt
    have quotient : (byte.toNat + 256 * decode rest) / 256 = decode rest := by omega
    have remainder : UInt8.ofNat (byte.toNat + 256 * decode rest) = byte := by
      apply UInt8.toNat_inj.mp
      simp only [UInt8.toNat_ofNat']
      omega
    simp only [List.length_cons, encode, decode, quotient, remainder, ih]

end KeySequenced.LittleEndian
