/-!
# Reading decimals into doubles

A decimal `m · 10^e` reads as the double nearest to it, a tie going to the
even significand, and as an infinity past the largest double. The rounding is
that of `Float.ofScientific`; the guards only spare it exponents so far out
that the answer is already known.
-/

namespace QuoteMomentum.Decimal

/-- Positive infinity. -/
def posInf : Float := Float.ofBits 0x7FF0000000000000

/-- The quiet NaN. -/
def quietNaN : Float := Float.ofBits 0x7FF8000000000000

/-- The number that a list of decimal digits spells. -/
def digitsValue (ds : List Char) : Nat :=
  ds.foldl (fun n c => 10 * n + (c.toNat - 48)) 0

/-- The double nearest to `m · 10^e`. A value of more than 310 decimal digits
is infinite, and one below `10^-330` is zero. -/
def nearest (m : Nat) (e : Int) : Float :=
  if m = 0 then 0.0
  else
    let size : Int := (toString m).length + e
    if 310 < size then posInf
    else if size < -330 then 0.0
    else if e < 0 then Float.ofScientific m true e.natAbs
    else Float.ofScientific m false e.toNat

/-- The double that a decimal numeral reads as: an optional minus, the digits
before and after the point, and the exponent's sign and digits. -/
def readNumeral (neg : Bool) (whole frac : List Char) (expNeg : Bool) (expDigits : List Char) :
    Float :=
  let m := digitsValue (whole ++ frac)
  let ex : Int := digitsValue expDigits
  let e : Int := (if expNeg then -ex else ex) - frac.length
  let x := nearest m e
  if neg then -x else x

end QuoteMomentum.Decimal
