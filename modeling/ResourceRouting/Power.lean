/-!
# Power — powers of two and ten

The sizes of machine words and the scales of decimal and binary numbers, as natural numbers.
-/

namespace ResourceRouting

/-- Two to the power of `n`. -/
def twoTo (n : Nat) : Nat := Nat.pow 2 n

/-- Ten to the power of `n`. -/
def tenTo (n : Nat) : Nat := Nat.pow 10 n

/-- Whether an integer fits a word of 64 bits with a sign. -/
def fitsSigned (n : Int) : Bool := -(twoTo 63 : Int) ≤ n && n < twoTo 63

end ResourceRouting
