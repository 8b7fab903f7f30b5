/-!
# The numbers prices are computed in

The indicators are written once over a type of numbers with the four
operations, negation, magnitude, the order tests, and whole numbers as
constants. Doubles are the numbers the dashboard runs on; exact rationals
read the same formulas without rounding, which is how laws such as "the EMA of
a line lags it by a constant" are stated.

Constants are whole numbers and their quotients: `2.0` is `ofNat 2`, and
`0.25` is `ofNat 1 / ofNat 4`, which is exact in both instances. A number
*is zero* when it is both at most and at least zero: for doubles that holds of
`0.0` and `-0.0` and not of NaN, just as a double compares equal to zero.
-/

namespace QuoteMomentum

/-- Numbers with the operations the indicators use. -/
class Numeric (α : Type) extends Add α, Sub α, Mul α, Div α, Neg α, LT α, LE α where
  /-- A whole number as a number of the type. -/
  ofNat : Nat → α
  /-- The magnitude. -/
  abs : α → α
  decLt : ∀ a b : α, Decidable (a < b)
  decLe : ∀ a b : α, Decidable (a ≤ b)

/- The operations a `Numeric` type brings are found after the type's own, so
that arithmetic on doubles written anywhere means the same whether or not
this module is in scope. -/
attribute [instance (10)] Numeric.toAdd Numeric.toSub Numeric.toMul Numeric.toDiv Numeric.toNeg

attribute [instance (10)] Numeric.toLT Numeric.toLE

/-- The order tests of a `Numeric` type are decidable. -/
instance (priority := low) Numeric.decideLt {α : Type} [Numeric α] (a b : α) :
    Decidable (a < b) :=
  Numeric.decLt a b

/-- The order tests of a `Numeric` type are decidable. -/
instance (priority := low) Numeric.decideLe {α : Type} [Numeric α] (a b : α) :
    Decidable (a ≤ b) :=
  Numeric.decLe a b

namespace Numeric

variable {α : Type} [Numeric α]

/-- Zero of the type. -/
def zero : α := ofNat 0

/-- Whether a number compares equal to zero. -/
def isZero (x : α) : Bool := decide (x ≤ ofNat 0) && decide (ofNat 0 ≤ x)

/-- The greater of `a` and `b`, keeping `a` unless `b` is strictly greater; so a
NaN in first place is kept. -/
def keepMax (a b : α) : α := if a < b then b else a

/-- The smaller of `a` and `b`, keeping `a` unless `b` is strictly smaller. -/
def keepMin (a b : α) : α := if b < a then b else a

/-- The sum of a list from zero, left to right. -/
def total (xs : List α) : α := xs.foldl (· + ·) (ofNat 0)

end Numeric

instance : Numeric Float where
  ofNat := Float.ofNat
  abs := Float.abs
  decLt := Float.decLt
  decLe := Float.decLe

instance : Numeric Rat where
  ofNat n := (n : Rat)
  abs := Rat.abs
  decLt a b := inferInstanceAs (Decidable (a < b))
  decLe a b := inferInstanceAs (Decidable (a ≤ b))

end QuoteMomentum
