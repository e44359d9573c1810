import AgentSpec.Decimal.Shortest

/-!
# The written form of a float

A float is written with the shortest digits that read back. `Style` says how the digits are laid
out and `Written.style` is the one layout of this library.
-/

namespace AgentSpec.Decimal

/-- Powers of ten from `plainFrom` up to but not including `plainTo` are written positionally. -/
structure Style where
  plainFrom : Int
  plainTo : Int
  exponentMark : String
  positiveSign : String
  integralTail : String

/-- Plain from `0.00001` up to `1e16`, integral values with `.0`, and a signed exponent beyond. -/
def style : Style := ⟨-5, 16, "e", "+", ".0"⟩

def exponentText (s : Style) (e : Int) : String :=
  s.exponentMark ++ (if 0 ≤ e then s.positiveSign else "") ++ ofInt e

/-- Lay out the digits `ds` whose first stands for the power `e` of ten. -/
def layOut (s : Style) (ds : List Char) (e : Int) : String :=
  if s.plainFrom ≤ e ∧ e < s.plainTo then
    if 0 ≤ e then
      let whole := e.toNat + 1
      if ds.length ≤ whole then
        String.ofList (ds ++ List.replicate (whole - ds.length) '0') ++ s.integralTail
      else
        String.ofList (ds.take whole) ++ "." ++ String.ofList (ds.drop whole)
    else
      "0." ++ String.ofList (List.replicate ((-e).toNat - 1) '0' ++ ds)
  else
    String.ofList (ds.take 1)
      ++ (if ds.length ≤ 1 then "" else "." ++ String.ofList (ds.drop 1)) ++ exponentText s e

def magnitudeText (bits : Nat) : String :=
  if bits = 0 then
    layOut style ['0'] 0
  else
    let d := shortest bits
    let ds := digits d.digits
    layOut style ds (d.exponent + ds.length - 1)

def ofBinary64 (x : Binary64) : String :=
  (if x.negative then "-" else "") ++ magnitudeText x.bits

end AgentSpec.Decimal
