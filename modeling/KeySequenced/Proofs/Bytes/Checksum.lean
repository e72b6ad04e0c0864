import KeySequenced.Bytes.Checksum
import KeySequenced.Bytes.LittleEndian

/-!
# Checksums of strings that differ in one place

A shift of the register is linear over exclusive or, and no two registers have
one shift in common.  Up to four bytes are absorbed by laying them over the
register as one word and shifting, so they are determined by the registers
before and after.  Hence strings that differ only within four consecutive bytes
have different checksums.
-/

set_option autoImplicit false

namespace KeySequenced

theorem LittleEndian.bound_mono {width wider : Nat} (le : width ≤ wider) :
    bound width ≤ bound wider := by
  induction le with
  | refl => exact Nat.le_refl _
  | step _ ih => exact Nat.le_trans ih (Nat.le_mul_of_pos_left _ (by decide))

namespace Checksum

/-! ## One shift -/

section Shift

variable (register first second : UInt32)

theorem and_one_eq_one_iff : register &&& 1 = 1 ↔ register.toNat % 2 = 1 := by
  rw [← UInt32.toNat_inj, UInt32.toNat_and, show (1 : UInt32).toNat = 1 from rfl,
    Nat.and_one_is_mod]

theorem xor_and_one_eq_one_iff :
    (first ^^^ second) &&& 1 = 1 ↔ ¬ (first &&& 1 = 1 ↔ second &&& 1 = 1) := by
  simp only [and_one_eq_one_iff, UInt32.toNat_xor, Nat.xor_mod_two_eq_one]

theorem shift_xor : shift (first ^^^ second) = shift first ^^^ shift second := by
  have parity := xor_and_one_eq_one_iff first second
  unfold shift
  by_cases odd : first &&& 1 = 1
  · by_cases odder : second &&& 1 = 1
    · have even : ¬ (first ^^^ second) &&& 1 = 1 := by simp [parity, odd, odder]
      -- The polynomial is taken twice and so not at all.
      have twice : polynomial ^^^ (second >>> 1 ^^^ polynomial) = second >>> 1 := by
        rw [UInt32.xor_comm, UInt32.xor_assoc, UInt32.xor_self, UInt32.xor_zero]
      rw [if_pos odd, if_pos odder, if_neg even, UInt32.shiftRight_xor, UInt32.xor_assoc, twice]
    · have once : (first ^^^ second) &&& 1 = 1 := by simp [parity, odd, odder]
      rw [if_pos odd, if_neg odder, if_pos once, UInt32.shiftRight_xor]
      ac_rfl
  · by_cases odder : second &&& 1 = 1
    · have once : (first ^^^ second) &&& 1 = 1 := by simp [parity, odd, odder]
      rw [if_neg odd, if_pos odder, if_pos once, UInt32.shiftRight_xor]
      ac_rfl
    · have even : ¬ (first ^^^ second) &&& 1 = 1 := by simp [parity, odd, odder]
      rw [if_neg odd, if_neg odder, if_neg even, UInt32.shiftRight_xor]

theorem toNat_shiftRight_one : (register >>> 1).toNat = register.toNat / 2 := by
  rw [UInt32.toNat_shiftRight]
  exact Nat.shiftRight_eq_div_pow register.toNat 1

/-- A register that is zero after a shift was zero before: the top bit of the polynomial is one and
that of a shifted word is not. -/
theorem eq_zero_of_shift (gone : shift register = 0) : register = 0 := by
  have small := register.toNat_lt
  unfold shift at gone
  split at gone
  · have taken := congrArg UInt32.toNat (UInt32.xor_eq_zero_iff.mp gone)
    rw [toNat_shiftRight_one] at taken
    have top : polynomial.toNat = 2197175160 := rfl
    omega
  · rename_i even
    rw [and_one_eq_one_iff] at even
    have halved := congrArg UInt32.toNat gone
    rw [toNat_shiftRight_one] at halved
    apply UInt32.toNat_inj.mp
    change register.toNat / 2 = 0 at halved
    change register.toNat = 0
    omega

theorem shift_injective (same : shift first = shift second) : first = second := by
  apply UInt32.xor_eq_zero_iff.mp
  apply eq_zero_of_shift
  rw [shift_xor, same, UInt32.xor_self]

/-- An even word is halved. -/
theorem shift_double {value : Nat} (fits : 2 * value < UInt32.size) :
    shift (UInt32.ofNat (2 * value)) = UInt32.ofNat value := by
  have whole : (UInt32.ofNat (2 * value)).toNat = 2 * value := UInt32.toNat_ofNat_of_lt' fits
  have even : ¬ UInt32.ofNat (2 * value) &&& 1 = 1 := by
    rw [and_one_eq_one_iff, whole]
    omega
  unfold shift
  rw [if_neg even]
  apply UInt32.toNat_inj.mp
  rw [toNat_shiftRight_one, whole, UInt32.toNat_ofNat_of_lt' (by omega)]
  omega

end Shift

/-! ## Many shifts -/

def shifts : Nat → UInt32 → UInt32
  | 0, register => register
  | count + 1, register => shifts count (shift register)

section Shifts

variable (count more : Nat) (register first second : UInt32) (byte : UInt8)

theorem absorb_eq_shifts : absorb register byte = shifts 8 (register ^^^ byte.toUInt32) := rfl

theorem shifts_shifts : shifts more (shifts count register) = shifts (count + more) register := by
  induction count generalizing register with
  | zero => rw [Nat.zero_add, shifts]
  | succ count ih => rw [Nat.add_right_comm, shifts, shifts, ih]

theorem shifts_xor : shifts count (first ^^^ second) = shifts count first ^^^ shifts count second := by
  induction count generalizing first second with
  | zero => rfl
  | succ count ih => rw [shifts, shifts, shifts, shift_xor, ih]

theorem shifts_injective (same : shifts count first = shifts count second) : first = second := by
  induction count generalizing first second with
  | zero => exact same
  | succ count ih => exact shift_injective _ _ (ih _ _ same)

theorem shifts_eight {value : Nat} (fits : 256 * value < UInt32.size) :
    shifts 8 (UInt32.ofNat (256 * value)) = UInt32.ofNat value := by
  have doubled : 256 * value = 2 * (2 * (2 * (2 * (2 * (2 * (2 * (2 * value))))))) := by omega
  rw [doubled] at fits ⊢
  simp (disch := omega) only [shifts, shift_double]

end Shifts

/-! ## Absorbing bytes -/

section Absorbing

variable (register first second : UInt32) (bytes front left right after : Bytes)

theorem foldl_absorb_injective (same : bytes.foldl absorb first = bytes.foldl absorb second) :
    first = second := by
  induction bytes generalizing first second with
  | nil => exact same
  | cons byte rest ih =>
    have absorbed := ih _ _ same
    rw [absorb_eq_shifts, absorb_eq_shifts] at absorbed
    exact (UInt32.xor_left_inj _).mp (shifts_injective _ _ _ absorbed)

/-- The low byte of a word lies beside the others. -/
theorem ofNat_add_eq_xor (byte : UInt8) (value : Nat) :
    UInt32.ofNat (byte.toNat + 256 * value) = byte.toUInt32 ^^^ UInt32.ofNat (256 * value) := by
  have small : byte.toNat < 2 ^ 8 := byte.toNat_lt
  have beside : byte.toNat + 2 ^ 8 * value = byte.toNat ^^^ 2 ^ 8 * value := by
    apply Nat.eq_of_testBit_eq
    intro place
    rw [Nat.add_comm, Nat.testBit_two_pow_mul_add _ small, Nat.testBit_xor,
      Nat.testBit_two_pow_mul]
    by_cases low : place < 8
    · simp [low, Nat.not_le.mpr low]
    · have blank : byte.toNat.testBit place = false := by
        apply Nat.testBit_lt_two_pow
        exact Nat.lt_of_lt_of_le small (Nat.pow_le_pow_right (by decide) (Nat.not_lt.mp low))
      simp [low, blank, Nat.not_lt.mp low]
  rw [show 256 * value = 2 ^ 8 * value from rfl, beside, UInt32.ofNat_xor, UInt32.ofNat_uInt8ToNat]

/-- Up to four bytes are laid over the register as one word, which is shifted out. -/
theorem foldl_absorb_eq_shifts (short : bytes.length ≤ 4) :
    bytes.foldl absorb register
      = shifts (8 * bytes.length) (register ^^^ UInt32.ofNat (LittleEndian.decode bytes)) := by
  induction bytes generalizing register with
  | nil => simp [shifts, LittleEndian.decode]
  | cons byte rest ih =>
    have few : rest.length ≤ 3 := Nat.le_of_succ_le_succ short
    have fits : 256 * LittleEndian.decode rest < UInt32.size := by
      have small := LittleEndian.decode_lt rest
      have three : LittleEndian.bound rest.length ≤ LittleEndian.bound 3 :=
        LittleEndian.bound_mono few
      simp only [LittleEndian.bound] at three
      simp only [UInt32.size]
      omega
    rw [List.foldl_cons, ih _ (by omega), absorb_eq_shifts, ← shifts_eight fits, ← shifts_xor,
      shifts_shifts, LittleEndian.decode, ofNat_add_eq_xor, UInt32.xor_assoc, List.length_cons,
      Nat.mul_add, Nat.add_comm]

/-- The registers before and after up to four bytes determine them. -/
theorem eq_of_foldl_absorb (length : left.length = right.length) (short : left.length ≤ 4)
    (same : left.foldl absorb register = right.foldl absorb register) : left = right := by
  have shorter : right.length ≤ 4 := length ▸ short
  have leftFits : LittleEndian.decode left < UInt32.size :=
    Nat.lt_of_lt_of_le (LittleEndian.decode_lt left) (LittleEndian.bound_mono short)
  have rightFits : LittleEndian.decode right < UInt32.size :=
    Nat.lt_of_lt_of_le (LittleEndian.decode_lt right) (LittleEndian.bound_mono shorter)
  rw [foldl_absorb_eq_shifts register left short, foldl_absorb_eq_shifts register right shorter,
    length] at same
  have words := (UInt32.xor_right_inj register).mp (shifts_injective _ _ _ same)
  have numbers := congrArg UInt32.toNat words
  rw [UInt32.toNat_ofNat_of_lt' leftFits, UInt32.toNat_ofNat_of_lt' rightFits] at numbers
  rw [← LittleEndian.encode_decode left, ← LittleEndian.encode_decode right, numbers, length]

/-- Strings that differ only within four consecutive bytes have different checksums. -/
theorem ofBytes_ne_of_window (length : left.length = right.length) (short : left.length ≤ 4)
    (differ : left ≠ right) :
    ofBytes (front ++ left ++ after) ≠ ofBytes (front ++ right ++ after) := by
  intro same
  have registers := (UInt32.xor_left_inj _).mp same
  simp only [List.foldl_append] at registers
  exact differ (eq_of_foldl_absorb _ _ _ length short (foldl_absorb_injective _ _ _ registers))

end Absorbing

end Checksum

end KeySequenced
