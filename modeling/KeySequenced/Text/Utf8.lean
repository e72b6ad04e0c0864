import KeySequenced.Bytes.Basic

/-!
# Text from bytes

Bytes are read as UTF-8.  Every longest beginning of a character that is not
completed, and every byte that begins none, becomes a replacement character.
-/

set_option autoImplicit false

namespace KeySequenced.Text

/-- A character of which some bytes have been read: how many are missing, between which bounds
the next one lies, and the value so far. -/
structure Partial where
  missing : Nat
  low : Nat
  high : Nat
  value : Nat

def replacement : Char := '\ufffd'

/-- What the first byte of a character of several bytes announces. -/
def Partial.ofFirst? (byte : Nat) : Option Partial :=
  if 0xc2 ≤ byte ∧ byte ≤ 0xdf then some ⟨1, 0x80, 0xbf, byte - 0xc0⟩
  else if byte = 0xe0 then some ⟨2, 0xa0, 0xbf, 0⟩
  else if byte = 0xed then some ⟨2, 0x80, 0x9f, 0xd⟩
  else if 0xe1 ≤ byte ∧ byte ≤ 0xef then some ⟨2, 0x80, 0xbf, byte - 0xe0⟩
  else if byte = 0xf0 then some ⟨3, 0x90, 0xbf, 0⟩
  else if 0xf1 ≤ byte ∧ byte ≤ 0xf3 then some ⟨3, 0x80, 0xbf, byte - 0xf0⟩
  else if byte = 0xf4 then some ⟨3, 0x80, 0x8f, 4⟩
  else none

/-- The characters that begin with the given bytes. -/
def decodeFrom : Option Partial → Bytes → List Char
  | none, [] => []
  | some _, [] => [replacement]
  | pending, byte :: rest =>
    let code := byte.toNat
    let continued := pending.filter fun sequence => sequence.low ≤ code && code ≤ sequence.high
    match continued with
    | some sequence =>
      let value := sequence.value * 64 + (code - 0x80)
      if sequence.missing ≤ 1 then Char.ofNat value :: decodeFrom none rest
      else decodeFrom (some ⟨sequence.missing - 1, 0x80, 0xbf, value⟩) rest
    | none =>
      let broken := if pending.isSome then [replacement] else []
      if code < 0x80 then broken ++ Char.ofNat code :: decodeFrom none rest
      else
        match Partial.ofFirst? code with
        | some first => broken ++ decodeFrom (some first) rest
        | none => broken ++ replacement :: decodeFrom none rest

def ofBytes (bytes : Bytes) : String := String.ofList (decodeFrom none bytes)

end KeySequenced.Text
