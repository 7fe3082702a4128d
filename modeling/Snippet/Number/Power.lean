namespace Snippet.Number

/-- The power of natural numbers itself, whatever other powers are in scope. -/
def power (base exponent : Nat) : Nat :=
  @HPow.hPow Nat Nat Nat (@instHPow Nat Nat instPowNat) base exponent

def twoTo (n : Nat) : Nat := power 2 n

def tenTo (n : Nat) : Nat := power 10 n

theorem twoTo_pos (n : Nat) : 0 < twoTo n := Nat.two_pow_pos n

end Snippet.Number
