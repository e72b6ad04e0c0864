import KeySequenced.Number.Rounding

/-!
# Binary floating point

Non-negative numbers with a significand of 53 bits, as the double format of
IEEE 754 holds them.  Each operation is exact and then rounded once to the
nearest such number, halfway cases to the even significand.  Exponents are
unbounded here: the quotients of 64-bit integers stay far inside the range of
the format.
-/

set_option autoImplicit false

namespace KeySequenced

/-- The number `significand * 2 ^ exponent`; the significand of every number but zero has its
highest bit, bit 52, set. -/
structure Binary64 where
  significand : Nat
  exponent : Int
  deriving DecidableEq, Repr

namespace Binary64

/-- The least significand of a number that is not zero, `2 ^ 52`. -/
def leastSignificand : Nat := 0x10000000000000

def zero : Binary64 := ⟨0, 0⟩

/-- A quotient that equals `numerator / denominator / 2 ^ exponent`. -/
def scale (numerator denominator : Nat) : Int → Nat × Nat
  | .ofNat exponent => (numerator, denominator <<< exponent)
  | .negSucc exponent => (numerator <<< (exponent + 1), denominator)

/-- The nearest number to `numerator / denominator`. -/
def ofRatio (numerator denominator : Nat) : Binary64 :=
  if numerator = 0 then zero
  else
    let estimate : Int := Int.ofNat numerator.log2 - Int.ofNat denominator.log2 - 52
    let (high, low) := scale numerator denominator estimate
    let exponent := if high < leastSignificand * low then estimate - 1 else estimate
    let (high, low) := scale numerator denominator exponent
    let significand := roundHalfEven high low
    if significand = 2 * leastSignificand then ⟨leastSignificand, exponent + 1⟩ else ⟨significand, exponent⟩

def ofNat (value : Nat) : Binary64 := ofRatio value 1

def toRatio (number : Binary64) : Nat × Nat := scale number.significand 1 (-number.exponent)

def div (left right : Binary64) : Binary64 :=
  let (leftHigh, leftLow) := left.toRatio
  let (rightHigh, rightLow) := right.toRatio
  ofRatio (leftHigh * rightLow) (leftLow * rightHigh)

def mul (left right : Binary64) : Binary64 :=
  let (leftHigh, leftLow) := left.toRatio
  let (rightHigh, rightLow) := right.toRatio
  ofRatio (leftHigh * rightHigh) (leftLow * rightLow)

/-- The percentage that `part` is of `whole`, and zero of nothing.  Both integers, their quotient
and its hundredfold are rounded in turn. -/
def percentage (part whole : Nat) : Binary64 :=
  if whole = 0 then zero else ((ofNat part).div (ofNat whole)).mul (ofNat 100)

/-- The 64 bits of the number in the double format. -/
def bits (number : Binary64) : Nat :=
  if number.significand = 0 then 0
  else
    (number.exponent + 1075).toNat * leastSignificand + (number.significand - leastSignificand)

/-- The exact value rounded to the given count of decimal places, a half to the even neighbour. -/
def fixed (places : Nat) (number : Binary64) : String :=
  let (high, low) := number.toRatio
  let digits := (Nat.toDigits 10 (roundHalfEven (high * Nat.pow 10 places) low))
  let padded := List.replicate (places + 1 - digits.length) '0' ++ digits
  let whole := padded.take (padded.length - places)
  String.ofList (whole ++ '.' :: padded.drop (padded.length - places))

example : (percentage 1 4).bits = 0x4039000000000000 := by decide +kernel

example : (percentage 1 3).fixed 1 = "33.3" := by decide +kernel

end Binary64

end KeySequenced
