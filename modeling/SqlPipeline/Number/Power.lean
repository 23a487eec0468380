/-!
Numbers times powers of two and of ten.

A negative exponent counts as zero, so that `n` times a power with any exponent is the quotient of
what two of these functions give: one for the exponent and one for its opposite.
-/

namespace SqlPipeline

/-- Two to the power of `k`. -/
def twoTo (k : Nat) : Nat :=
  Nat.pow 2 k

theorem twoTo_add (m n : Nat) : twoTo (m + n) = twoTo m * twoTo n :=
  Nat.pow_add 2 m n

theorem twoTo_pos (k : Nat) : 0 < twoTo k :=
  Nat.two_pow_pos k

/-- The number times two to the power of `q`. -/
def timesTwoTo (n : Nat) (q : Int) : Nat :=
  n * twoTo q.toNat

/-- Ten to the power of `k`. -/
def tenTo (k : Nat) : Nat :=
  Nat.pow 10 k

theorem tenTo_succ (k : Nat) : tenTo (k + 1) = tenTo k * 10 :=
  Nat.pow_succ 10 k

/-- The number times ten to the power of `q`. -/
def timesTenTo (n : Nat) (q : Int) : Nat :=
  n * tenTo q.toNat

example : timesTwoTo 3 4 = 48 ∧ timesTwoTo 3 (-4) = 3 := by decide

end SqlPipeline
