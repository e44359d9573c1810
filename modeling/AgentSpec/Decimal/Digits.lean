/-!
# Decimal digits

`digits n` writes a natural number without leading zeros and `value` reads digits back; `ofInt`
puts a minus sign before a negative number.
-/

namespace AgentSpec.Decimal

def digitChar (d : Nat) : Char := Char.ofNat (48 + d)

/-- The value of a decimal digit; meaningful on `0` to `9` only. -/
def digitValue (c : Char) : Nat := c.toNat - 48

/-- The digits of `n`, the most significant first; zero has the one digit `0`. -/
def digits (n : Nat) : List Char :=
  if n < 10 then [digitChar n] else digits (n / 10) ++ [digitChar (n % 10)]

def value (ds : List Char) : Nat := ds.foldl (fun n c => 10 * n + digitValue c) 0

def ofNat (n : Nat) : String := String.ofList (digits n)

def ofInt : Int → String
  | .ofNat n => ofNat n
  | .negSucc n => "-" ++ ofNat (n + 1)

end AgentSpec.Decimal
