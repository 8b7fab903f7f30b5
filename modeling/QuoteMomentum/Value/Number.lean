import QuoteMomentum.Fault

/-!
# Values as numbers

Settings and indicator periods arrive as values, and the checks on them order
and add values. Booleans, whole numbers and doubles are numbers: a boolean
counts as `0` or `1`, a whole number and a double compare by exact value, and
NaN stands in no order, so every order test with it is false. Any other value
stands in no order with a number: testing it is the fault `unordered`, which
names the relation and both types in the order they were written.

Adding two whole numbers gives a whole number; adding a double turns the whole
number into the nearest double first, which fails when it is too large for
one.
-/

namespace QuoteMomentum

/-- A number as arithmetic sees it. -/
inductive Num where
  | whole (n : Int)
  | double (x : Float)
  deriving Inhabited

/-- The relations the checks test. -/
inductive Rel where
  | lt
  | le
  | gt
  | ge
  deriving Repr, DecidableEq

/-- How a relation is written in a message. -/
def Rel.symbol : Rel → String
  | lt => "<"
  | le => "<="
  | gt => ">"
  | ge => ">="

/-- Whether an outcome of a comparison satisfies the relation; no outcome (a
NaN took part) satisfies none. -/
def Rel.holds : Rel → Option Ordering → Bool
  | lt, some .lt => true
  | le, some .lt => true
  | le, some .eq => true
  | gt, some .gt => true
  | ge, some .gt => true
  | ge, some .eq => true
  | _, _ => false

namespace Num

/-- Where one number stands against another, exactly; nothing with NaN. -/
def cmp : Num → Num → Option Ordering
  | whole a, whole b => some (compare a b)
  | whole a, double y => Decimal.cmpIntFloat a y
  | double x, whole b => (Decimal.cmpIntFloat b x).map Ordering.swap
  | double x, double y => Decimal.cmpFloat x y

/-- The nearest double to a whole number; too large a number is a fault. -/
def wholeToDouble (n : Int) : Except Fault Float :=
  let x := Float.ofInt n
  if x.isInf then .error .intTooLarge else .ok x

/-- The whole part of a double, toward zero, exactly; NaN and the infinities
have none. -/
def doubleToWhole (x : Float) : Except Fault Int :=
  match Decimal.Kind.ofFloat x with
  | .nan => .error .nanToWhole
  | .inf _ => .error .infinityToWhole
  | .finite b => .ok (b.num.tdiv (Int.pow 2 b.shift))

/-- The number as a double. -/
def toDouble : Num → Except Fault Float
  | whole n => wholeToDouble n
  | double x => .ok x

/-- The sum of two numbers: whole if both are whole. -/
def add : Num → Num → Except Fault Num
  | whole a, whole b => .ok (whole (a + b))
  | double x, double y => .ok (double (x + y))
  | whole a, double y => do return double ((← wholeToDouble a) + y)
  | double x, whole b => do return double (x + (← wholeToDouble b))

/-- The number as a value. -/
def toValue : Num → Value
  | whole n => .int n
  | double x => .float x

end Num

namespace Value

/-- The number a value stands for, if it is one. -/
def num? : Value → Option Num
  | bool b => some (.whole (if b then 1 else 0))
  | int n => some (.whole n)
  | float x => some (.double x)
  | _ => none

/-- Tests `a rel b` between two values; a value that is no number makes it the
fault `unordered`. -/
def test (rel : Rel) (a b : Value) : Except Fault Bool :=
  match a.num?, b.num? with
  | some x, some y => .ok (rel.holds (x.cmp y))
  | _, _ => .error (.unordered rel.symbol a.typeName b.typeName)

/-- The sum `a + b` of two values; booleans add as whole numbers. -/
def add (a b : Value) : Except Fault Value :=
  match a.num?, b.num? with
  | some x, some y => Num.toValue <$> x.add y
  | _, _ => .error (.unsupportedOperands "+" a.typeName b.typeName)

/-- Whether a value is a whole number; booleans are not. -/
def whole? : Value → Option Int
  | int n => some n
  | _ => none

end Value

end QuoteMomentum
