/-!
# Ranges of characters

A property of characters is a list of ranges of their numbers, both ends included.
-/

namespace AgentSpec.Text

abbrev Ranges := List (Nat × Nat)

def Ranges.contains (rs : Ranges) (c : Char) : Bool :=
  rs.any fun (first, last) => first ≤ c.toNat && c.toNat ≤ last

end AgentSpec.Text
