import AgentSpec.Decimal.Digits
import AgentSpec.Power

/-!
# Finite binary64 numbers

A number is its sign and its remaining 63 bits, read as a natural number. That number grows with the
absolute value, so two numbers of one sign are equal exactly when their bits are. All arithmetic
is exact on naturals, followed by one rounding to the nearest number, a tie going to the even one.
-/

namespace AgentSpec

/-- Divide to the nearest natural number, a tie going to the even one. -/
def divNearest (n d : Nat) : Nat :=
  let q := n / d
  let r := n % d
  if 2 * r < d then q else if d < 2 * r then q + 1 else q + q % 2

structure Binary64 where
  negative : Bool
  bits : Nat
  bits_lt : bits < 2047 * twoTo 52
  deriving DecidableEq

namespace Binary64

/-! ## Value -/

/-- The significand, with the leading bit that normal numbers leave out. -/
def significand (bits : Nat) : Nat := if bits < twoTo 52 then bits else bits % twoTo 52 + twoTo 52

/-- The power of two by which the significand counts multiples of `2 ^ -1074`. -/
def exponent (bits : Nat) : Nat := bits / twoTo 52 - 1

/-- The absolute value as a multiple of `2 ^ -1074`, the least positive number. -/
def units (bits : Nat) : Nat := significand bits * twoTo (exponent bits)

def zero (negative : Bool) : Binary64 := ⟨negative, 0, by decide⟩

def isZero (x : Binary64) : Bool := x.bits == 0

/-- Equality of values: the two zeros are equal, all else differs when written differently. -/
def same (x y : Binary64) : Bool :=
  x.bits == y.bits && (x.negative == y.negative || x.bits == 0)

/-! ## Rounding -/

/-- The bits of the number nearest to `num / den`; past the largest number they run on upwards. -/
def nearest (num den : Nat) : Nat :=
  let n := num <<< 1074
  let k := Nat.log2 (n / den) - 52
  k * twoTo 52 + divNearest n (den <<< k)

def ofBits? (negative : Bool) (bits : Nat) : Option Binary64 :=
  if h : bits < 2047 * twoTo 52 then some ⟨negative, bits, h⟩ else none

/-- The number nearest to `num / den`, or `none` when that is out of range. -/
def ofRatio? (negative : Bool) (num den : Nat) : Option Binary64 :=
  ofBits? negative (nearest num den)

/-- The number nearest to `n`. -/
def ofNat? (negative : Bool) (n : Nat) : Option Binary64 := ofRatio? negative n 1

/-- The number nearest to `m * 10 ^ e`. A power beyond the range of the type, in either direction,
is answered without being computed. -/
def ofDecimal? (negative : Bool) (m : Nat) (e : Int) : Option Binary64 :=
  if m = 0 then
    some (zero negative)
  else
    let magnitude := e + (Decimal.digits m).length
    if 310 < magnitude then none
    else if magnitude < -330 then some (zero negative)
    else if 0 ≤ e then ofRatio? negative (m * tenTo e.toNat) 1
    else ofRatio? negative m (tenTo (-e).toNat)

/-! ## Multiplication and division -/

/-- The product, rounded once. -/
def mul? (x y : Binary64) : Option Binary64 :=
  ofRatio? (x.negative != y.negative) (units x.bits * units y.bits) (twoTo 2148)

/-- The quotient, rounded once; `y` is not zero. -/
def div? (x y : Binary64) : Option Binary64 :=
  ofRatio? (x.negative != y.negative) (units x.bits) (units y.bits)

end Binary64
end AgentSpec
