import QuoteMomentum.Indicator.Macd

/-!
# Crossover intensity

How strongly to shade a crossover: the MACD–signal gap as a percent of the
last close, scaled against a saturation percent, clamped to `[0, 1]` and
mapped to `[0.25, 1]`. A gap at or beyond the saturation gives full
intensity. A reading that is invalid or neutral, or a last close that is
zero, gets no shade at all: intensity `0`.

The clamp keeps its first argument unless the bound is strictly beyond it
(`Numeric.keepMax`, `Numeric.keepMin`), so a NaN gap stays NaN. A saturation
equal to zero is the fault `divisionByZero`, raised only when a shade is
computed.
-/

namespace QuoteMomentum.Macd

open Numeric

variable {α : Type} [Numeric α]

/-- Whether a reading has a crossover to shade at this close. -/
def shades (r : Reading α) (lastClose : α) : Bool :=
  r.valid && r.crossover != .neutral && !isZero lastClose

/-- The shade of a crossover against a saturation percent, `0.25 + 0.75 t`. -/
def shadeOf (r : Reading α) (lastClose saturation : α) : Except Fault α :=
  if isZero saturation then .error .divisionByZero
  else
    let gap := abs (r.histogram / lastClose) * ofNat 100
    let t := keepMin (keepMax (gap / saturation) zero) (ofNat 1)
    .ok (ofNat 1 / ofNat 4 + ofNat 3 / ofNat 4 * t)

/-- The intensity of a reading's crossover, in `[0.25, 1]`, or zero. -/
def intensity (r : Reading α) (lastClose saturation : α) : Except Fault α :=
  if shades r lastClose then shadeOf r lastClose saturation else .ok zero

/-- A saturation given as a value, as the division by it reads it: a number,
booleans as `0` and `1`; anything else cannot divide a double. -/
def divisor (v : Value) : Except Fault Float :=
  match v.num? with
  | some n => n.toDouble
  | none => .error (.unsupportedOperands "/" "float" v.typeName)

/-- The intensity with the saturation as configured; the saturation is read
only when a shade is computed. -/
def intensityWith (r : Reading Float) (lastClose : Float) (saturation : Value) :
    Except Fault Float :=
  if shades r lastClose then do shadeOf r lastClose (← divisor saturation) else .ok zero

end QuoteMomentum.Macd
