/-!
# The parts of a double

A double is NaN, an infinity, or a finite value `(-1)^neg · sig · 2^exp` with a
significand `sig < 2^53`. Subnormals share the least exponent, `-1074`, and have
no hidden bit. Everything that prints or compares a double exactly works on
these parts in natural-number arithmetic, so no step depends on a rounding of
the machine: the printers in `Decimal.Shortest` and `Decimal.Fixed`, and the
exact order between whole numbers and doubles in `Decimal.Compare`.
-/

namespace QuoteMomentum.Decimal

/-- A finite double as sign, significand and binary exponent: its value is
`(-1)^neg · sig · 2^exp`. -/
structure Binary where
  neg : Bool
  sig : Nat
  exp : Int
  /-- The gap to the next smaller double is half the gap above it: the
  significand is the least of a binade that is not the lowest one. -/
  edge : Bool
  deriving Repr, DecidableEq

/-- What a double is: NaN, an infinity of a sign, or a finite value. -/
inductive Kind where
  | nan
  | inf (neg : Bool)
  | finite (b : Binary)
  deriving Repr, DecidableEq

/-- Reads the kind of a double off its 64 bits: one sign bit, eleven exponent
bits biased by 1023, and 52 fraction bits. -/
def Kind.ofFloat (x : Float) : Kind :=
  let bits : Nat := x.toBits.toNat
  let neg := bits / Nat.pow 2 63 % 2 == 1
  let biased : Nat := bits / Nat.pow 2 52 % 2048
  let frac : Nat := bits % Nat.pow 2 52
  if biased = 2047 then
    if frac = 0 then .inf neg else .nan
  else if biased = 0 then
    .finite ⟨neg, frac, -1074, false⟩
  else
    .finite ⟨neg, frac + Nat.pow 2 52, (biased : Int) - 1075, frac == 0 && 1 < biased⟩

/-- `c · 10^k` against `b · 2^t`, exactly: both sides are moved to natural
numbers by multiplying out the negative powers. -/
def cmpPow (c : Nat) (k : Int) (b : Nat) (t : Int) : Ordering :=
  compare (c * Nat.pow 10 k.toNat * Nat.pow 2 (-t).toNat)
    (b * Nat.pow 2 t.toNat * Nat.pow 10 (-k).toNat)

/-- The sign bit of a double, which also tells `-0.0` from `0.0`. -/
def signBit (x : Float) : Bool :=
  x.toBits.toNat / Nat.pow 2 63 % 2 == 1

end QuoteMomentum.Decimal
