import QuoteMomentum.Indicator.Macd

/-!
# MACD periods as configured

Periods come from settings and requests as values. An indicator accepts them
when each is a number of at least one, tested in the order fast, slow, signal
and stopping at the first failure, and when fast is below slow; a value that
is no number cannot be tested and is the fault `unordered`. Only then is the
indicator built, and only then are the periods used: booleans and doubles pass
these tests, but an EMA refuses any period that is not a whole number, when
it is computed.

So with whole periods a reading is `Macd.lastTwo`; with a period that is not
whole it is insufficient if the length tests say so, and otherwise refused at
the first EMA that uses the period, fast before slow before signal.
-/

namespace QuoteMomentum.Macd

open Numeric

/-- The periods of an indicator that passed its checks, kept as given. -/
structure Config where
  fast : Value
  slow : Value
  signal : Value

/-- The default periods, 12, 26 and 9. -/
def Config.standard : Config := ⟨.int 12, .int 26, .int 9⟩

/-- Builds an indicator: every period at least one, fast below slow. -/
def Config.make (fast slow signal : Value) : Except Fault Config := do
  if ← fast.test .lt (.int 1) then throw .periodsNotPositive
  if ← slow.test .lt (.int 1) then throw .periodsNotPositive
  if ← signal.test .lt (.int 1) then throw .periodsNotPositive
  if ← fast.test .ge slow then throw .fastNotBelowSlow
  return ⟨fast, slow, signal⟩

namespace Config

/-- Closes needed for a full reading: `slow + signal + 1`. -/
def minPointsLastTwo (c : Config) : Except Fault Value := do
  (← c.slow.add c.signal).add (.int 1)

/-- Closes needed for a percent reading: `slow + signal`. -/
def minPointsPercent (c : Config) : Except Fault Value :=
  c.slow.add c.signal

/-- A period as an EMA uses it: a whole number, or the fault. -/
def whole (p : Value) : Except Fault Int :=
  match p.whole? with
  | some n => .ok n
  | none => .error (.periodNotWhole p)

/-- The periods when all three are whole numbers. -/
def periods? (c : Config) : Option Periods :=
  match c.fast.whole?, c.slow.whole?, c.signal.whole? with
  | some f, some s, some g => some ⟨f, s, g⟩
  | _, _, _ => none

variable {α : Type} [Numeric α]

/-- The MACD line; the fast EMA is computed before the slow one. -/
def line (c : Config) (xs : List α) : Except Fault (List α) := do
  let f ← whole c.fast
  let s ← whole c.slow
  return Macd.line ⟨f, s, 0⟩ xs

/-- Whether `n` closes are fewer than the value `need`. -/
def fewer (n : Nat) (need : Value) : Except Fault Bool :=
  (Value.int n).test .lt need

/-- The reading of the last two pairs. -/
def lastTwo (c : Config) (xs : List α) (lastClose : Option α := none) :
    Except Fault (Reading α) :=
  match c.periods? with
  | some p => .ok (Macd.lastTwo p xs lastClose)
  | none => do
    if ← fewer xs.length (← c.minPointsLastTwo) then return .insufficient
    let m ← c.line xs
    if ← fewer m.length (← c.signal.add (.int 1)) then return .insufficient
    throw (.periodNotWhole c.signal)

/-- The percent reading. -/
def percents (c : Config) (xs : List α) (lastClose : Option α := none) :
    Except Fault (Percents α) :=
  match c.periods? with
  | some p => .ok (Macd.percents p xs lastClose)
  | none => do
    if ← fewer xs.length (← c.minPointsPercent) then return .insufficient
    let m ← c.line xs
    if ← fewer m.length c.signal then return .insufficient
    throw (.periodNotWhole c.signal)

end Config

end QuoteMomentum.Macd
