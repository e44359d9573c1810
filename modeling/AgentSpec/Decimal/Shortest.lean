import AgentSpec.Binary64

/-!
# The shortest decimal that reads back

Every real number strictly between the midpoints to a binary64 number's two neighbours rounds to
that number, and the midpoints do so too when its significand is even. Among the decimals in that
interval `shortest` picks one with the fewest digits and, of those, the nearest.
-/

namespace AgentSpec.Decimal

/-- The decimal `digits * 10 ^ exponent`. -/
structure Scaled where
  digits : Nat
  exponent : Int
  deriving DecidableEq, Repr

/-- The reals that round to a number, in multiples of `2 ^ -1076`. -/
structure Interval where
  low : Nat
  middle : Nat
  high : Nat
  closed : Bool

/-- Below a power of two the neighbour is only half as far away as above it. -/
def interval (bits : Nat) : Interval :=
  let m := Binary64.significand bits
  let gap := twoTo (Binary64.exponent bits)
  { low := if m = twoTo 52 ∧ 1 < gap then 4 * m * gap - gap else 4 * m * gap - 2 * gap
    middle := 4 * m * gap
    high := 4 * m * gap + 2 * gap
    closed := m % 2 == 0 }

/-- The multiple of `10 ^ p` in the interval that is nearest to its middle, if it holds any. A tie
goes to the even multiple. -/
def onGrid? (i : Interval) (p : Int) : Option Scaled :=
  let scale := tenTo (-p).toNat
  let step := tenTo p.toNat * twoTo 1076
  let inside (k : Nat) : Bool :=
    if i.closed then i.low * scale ≤ k * step && k * step ≤ i.high * scale
    else i.low * scale < k * step && k * step < i.high * scale
  let below := i.middle * scale / step
  let nearer := divNearest (i.middle * scale) step
  let further := if nearer = below then below + 1 else below
  if inside nearer then some ⟨nearer, p⟩
  else if inside further then some ⟨further, p⟩
  else none

/-- A power of ten above the number with these bits. -/
def powerAbove (bits : Nat) : Int :=
  Int.fdiv (((Nat.log2 (Binary64.units bits) : Int) - 1073) * 30103) 100000 + 2

/-- The grids are tried from coarse to fine; the first that meets the interval has the fewest
digits. -/
def shortest (bits : Nat) : Scaled :=
  let i := interval bits
  let top := powerAbove bits
  ((List.range 40).findSome? fun (n : Nat) => onGrid? i (top - n)).getD ⟨0, 0⟩

end AgentSpec.Decimal
