import AgentSpec.Tree

/-!
# The value of a JSON number

An integer that fits 64 bits, with or without a sign, stays an integer. Any other number becomes a
float in two rounded steps: as many leading digits as fit 64 bits are made a float, which is then
multiplied or divided by a power of ten.
-/

namespace AgentSpec.Json

/-- A number as written: the digits before the point, those after it, and the exponent's sign and
digits. -/
structure Literal where
  negative : Bool
  whole : List Char
  fraction : Option (List Char)
  exponent : Option (Bool × List Char)

/-- Continue `n` by the digits that keep it below `limit`; the others are left over. -/
def absorb (limit n : Nat) : List Char → Nat × List Char
  | [] => (n, [])
  | c :: cs =>
    let m := 10 * n + Decimal.digitValue c
    if m < limit then absorb limit m cs else (n, c :: cs)

/-- The leading digits as a natural number, and the power of ten it has to be multiplied by. A
digit that does not fit still counts before the point and is ignored after it. -/
def Literal.significand (l : Literal) : Nat × Int :=
  let (n, dropped) := absorb (twoTo 64) 0 l.whole
  let fraction := l.fraction.getD []
  let (m, ignored) := absorb (twoTo 64) n fraction
  (m, (dropped.length : Int) - ((fraction.length - ignored.length : Nat) : Int))

def tenToThe (k : Nat) : Option Binary64 := Binary64.ofNat? false (tenTo k)

/-- `x * 10 ^ e`, by one multiplication or division where `10 ^ |e|` is a float and by two divisions
below that. Whatever 64 bits hold, smaller powers leave nothing of it. -/
def scale (x : Binary64) (e : Int) : Option Binary64 :=
  if e.natAbs ≤ 308 then
    (tenToThe e.natAbs).bind fun p => if 0 ≤ e then x.mul? p else x.div? p
  else if 0 ≤ e then
    if x.isZero then some x else none
  else if e < -616 then
    some (Binary64.zero x.negative)
  else do
    let y ← (tenToThe 308).bind x.div?
    (tenToThe (e + 308).natAbs).bind y.div?

def withSign (negative : Bool) (x : Binary64) : Binary64 := { x with negative }

/-- The value, or how many of its last digits stand after the place where it is known to be out of
range. -/
def Literal.float (l : Literal) : Except Nat Number :=
  let (m, shift) := l.significand
  let (up, ds) := l.exponent.getD (true, [])
  let (e, left) := absorb (twoTo 31) 0 ds
  match left with
  | _ :: unread =>
    if m ≠ 0 ∧ up then .error unread.length else .ok (.float (Binary64.zero l.negative))
  | [] =>
    match (Binary64.ofNat? false m).bind (scale · (shift + (if up then (e : Int) else -e))) with
    | some x => .ok (.float (withSign l.negative x))
    | none => .error 0

def Literal.number (l : Literal) : Except Nat Number :=
  if l.fraction.isSome || l.exponent.isSome then
    l.float
  else
    let n := Decimal.value l.whole
    if l.negative then
      if n ≠ 0 ∧ n ≤ twoTo 63 then .ok (.integer (-n)) else l.float
    else if n < twoTo 64 then .ok (.integer n)
    else l.float

end AgentSpec.Json
