namespace Clippings

def twoTo (n : Nat) : Nat := Nat.pow 2 n

def tenTo (n : Nat) : Nat := Nat.pow 10 n

/-- The least number that is too large for an integer of 64 bits with a sign. -/
def signedLimit : Int := (twoTo 63 : Nat)

end Clippings
