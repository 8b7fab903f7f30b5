import QuoteMomentum.Indicator.Ema

/-!
# MACD readings

The MACD line is the fast EMA minus the slow EMA, taken where the slow EMA is
defined (from index `slow - 1` on), so only matured values of both are ever
subtracted. The signal line is the EMA of the MACD line over the signal
period. A reading looks at the last two MACD/signal pairs:

* a *bullish* crossover: MACD was at or below signal and is now strictly
  above it; a *bearish* one: MACD was at or above and is now strictly below;
* both values as percents of a reference close (the given last close, else
  the final close); a reference that compares equal to zero makes the percents
  meaningless, and they are reported as zero with `percentValid` false.

A reading needs `slow + signal + 1` closes; with fewer it is *insufficient*:
all numbers zero, all flags false. A percent reading (`Macd.percents`) needs
one close fewer and skips the crossovers.

The periods here are whole numbers as the indicator was configured; checking
them (`Macd.Config`) is a separate step.
-/

namespace QuoteMomentum.Macd

open Numeric

/-- The three periods of a MACD indicator. -/
structure Periods where
  fast : Int
  slow : Int
  signal : Int
  deriving Repr, DecidableEq

/-- The direction of a crossover. -/
inductive Crossover where
  | bullish
  | bearish
  | neutral
  deriving Repr, DecidableEq

/-- How a crossover is named in output. -/
def Crossover.name : Crossover → String
  | bullish => "bullish"
  | bearish => "bearish"
  | neutral => "neutral"

/-- A MACD reading at the last two observations. -/
structure Reading (α : Type) where
  macdLast : α
  macdPrev : α
  signalLast : α
  signalPrev : α
  macdPercent : α
  signalPercent : α
  percentValid : Bool
  bullish : Bool
  bearish : Bool
  valid : Bool

/-- Present MACD and signal values as percents of a close. -/
structure Percents (α : Type) where
  macdPercent : α
  signalPercent : α
  percentValid : Bool
  valid : Bool

variable {α : Type} [Numeric α]

/-- The reading given when there were too few closes. -/
def Reading.insufficient : Reading α :=
  ⟨zero, zero, zero, zero, zero, zero, false, false, false, false⟩

/-- MACD minus signal at the last observation. -/
def Reading.histogram (r : Reading α) : α := r.macdLast - r.signalLast

/-- The crossover of a reading; bullish wins if both flags are set. -/
def Reading.crossover (r : Reading α) : Crossover :=
  if r.bullish then .bullish else if r.bearish then .bearish else .neutral

/-- The percent reading given when there were too few closes. -/
def Percents.insufficient : Percents α := ⟨zero, zero, false, false⟩

/-- The crossovers between two consecutive MACD/signal pairs: (bullish, bearish). -/
def crossovers (macdPrev signalPrev macdLast signalLast : α) : Bool × Bool :=
  (decide (macdPrev ≤ signalPrev) && decide (signalLast < macdLast),
   decide (signalPrev ≤ macdPrev) && decide (macdLast < signalLast))

/-- `value / reference · 100`, or nothing when the reference is zero. -/
def percentOf (value reference : α) : Option α :=
  if isZero reference then none else some (value / reference * ofNat 100)

/-- The MACD line: fast minus slow EMA from the slow seed on; empty when the
slow EMA never matures. -/
def line (p : Periods) (xs : List α) : List α :=
  let f := Ema.compute xs p.fast
  let s := Ema.compute xs p.slow
  if s.isDefined then List.zipWith (· - ·) (f.defined.drop (p.slow - p.fast).toNat) s.defined
  else []

/-- The close that percents refer to: the given last close, else the final close. -/
def reference (xs : List α) (lastClose : Option α) : α :=
  lastClose.getD (xs.getLast?.getD zero)

/-- The reading from the last two MACD/signal pairs of a MACD line. -/
def readingOf (p : Periods) (xs : List α) (lastClose : Option α) (m : List α) : Reading α :=
  match m.reverse, (Ema.compute m p.signal).values.reverse with
  | ml :: mp :: _, some sl :: some sp :: _ =>
    let (bull, bear) := crossovers mp sp ml sl
    let ref := reference xs lastClose
    match percentOf ml ref, percentOf sl ref with
    | some a, some b => ⟨ml, mp, sl, sp, a, b, true, bull, bear, true⟩
    | _, _ => ⟨ml, mp, sl, sp, zero, zero, false, bull, bear, true⟩
  | _, _ => .insufficient

/-- The reading of the last two MACD/signal pairs of a close series. -/
def lastTwo (p : Periods) (xs : List α) (lastClose : Option α := none) : Reading α :=
  if (xs.length : Int) < p.slow + p.signal + 1 then .insufficient
  else
    let m := line p xs
    if (m.length : Int) < p.signal + 1 then .insufficient
    else readingOf p xs lastClose m

/-- The present MACD and signal values as percents of the reference close. -/
def percents (p : Periods) (xs : List α) (lastClose : Option α := none) : Percents α :=
  if (xs.length : Int) < p.slow + p.signal then .insufficient
  else
    let m := line p xs
    if (m.length : Int) < p.signal then .insufficient
    else
      let sl := ((Ema.compute m p.signal).last).getD zero
      let ref := reference xs lastClose
      if isZero ref then ⟨zero, zero, false, true⟩
      else ⟨m.getLast?.getD zero / ref * ofNat 100, sl / ref * ofNat 100, true, true⟩

end QuoteMomentum.Macd
