/-!
# Powers of two and of ten

The bases of binary and decimal numbers, raised to natural exponents.
-/

namespace AgentSpec

def twoTo (n : Nat) : Nat := Nat.pow 2 n

def tenTo (n : Nat) : Nat := Nat.pow 10 n

end AgentSpec
