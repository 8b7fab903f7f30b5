import QuoteMomentum.Decimal.Binary

/-!
# Whole numbers against doubles

A whole number and a double compare by their exact values, never by rounding
the whole number to a double first: `2^53 + 1` is greater than the double
`2^53`. NaN stands in no order with anything, so the comparison gives nothing
there.
-/

namespace QuoteMomentum.Decimal

/-- The exact value of a finite double as a fraction `num / 2^shift`. -/
def Binary.num (b : Binary) : Int :=
  (if b.neg then -1 else 1) * ((b.sig * Nat.pow 2 b.exp.toNat : Nat) : Int)

/-- The power of two that divides `Binary.num` to give the value. -/
def Binary.shift (b : Binary) : Nat := (-b.exp).toNat

/-- Where the whole number `n` stands against the double `x`; nothing when `x`
is NaN. -/
def cmpIntFloat (n : Int) (x : Float) : Option Ordering :=
  match Kind.ofFloat x with
  | .nan => none
  | .inf neg => some (if neg then .gt else .lt)
  | .finite b => some (compare (n * Int.pow 2 b.shift) b.num)

/-- Where the double `x` stands against the double `y`; nothing when either is
NaN. The two zeros are equal. -/
def cmpFloat (x y : Float) : Option Ordering :=
  if x < y then some .lt
  else if y < x then some .gt
  else if x == y then some .eq
  else none

end QuoteMomentum.Decimal
