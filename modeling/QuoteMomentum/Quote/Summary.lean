import QuoteMomentum.Value.Number

/-!
# Closes and the price summary of a chart result

A chart result carries its closes under `indicators.quote[0].close`, oldest
first, with gaps (null) and junk among them. The closes are the entries that
are finite numbers, booleans excluded, in order, as doubles. Reading them
checks the shape in a fixed order and stops at the first failure, whose
reason names it: no object, no `indicators` object, no non-empty `quote`
list, a first quote that is no object, a `close` that is no list, and last no
numeric close at all.

Telling whether a whole number is finite turns it into a double, so a whole
number too large for one is the fault `intTooLarge`, not a skipped entry.

The summary is the last close and its change against a previous close. For
daily bars that is the close before the last, and the meta fields
(`previousClose`, `chartPreviousClose`, `regularMarketPreviousClose`, the
first numeric one) only stand in for a single-close response; for an intraday
range the meta fields come first. With neither, the history is insufficient.
A previous close of zero makes the percent change meaningless: it is
reported as zero with `changePercentValid` false.
-/

namespace QuoteMomentum.Quote

/-- Whether a value is a finite number, booleans excluded. -/
def isNumber : Value → Except Fault Bool
  | .int n => do
    let _ ← Num.wholeToDouble n
    return true
  | .float x => .ok x.isFinite
  | _ => .ok false

/-- A number as a double. -/
def toDouble (v : Value) : Except Fault Float :=
  match v.num? with
  | some n => n.toDouble
  | none => .ok 0.0

/-- The closes of a list of entries: the finite numbers, in order, as doubles. -/
def numericEntries (raw : List Value) : Except Fault (List Float) :=
  raw.filterMapM fun c => do
    if ← isNumber c then return some (← toDouble c) else return none

/-- The closes of a chart result, or why it has none. -/
def closes (result : Value) : Except Fault (List Float) := do
  unless result.isDict do throw (.shape .notObject)
  let ind := result.getD "indicators"
  unless ind.isDict do throw (.shape .noIndicators)
  match ind.getD "quote" with
  | .list (q :: _) =>
    unless q.isDict do throw (.shape .quoteNotObject)
    match q.getD "close" with
    | .list raw =>
      let cs ← numericEntries raw
      if cs.isEmpty then throw (.shape .noNumericClose)
      return cs
    | _ => throw (.shape .closeNotList)
  | _ => throw (.shape .noQuote)

/-- The meta fields that may give a previous close, in order of preference. -/
def previousCloseKeys : List String :=
  ["previousClose", "chartPreviousClose", "regularMarketPreviousClose"]

/-- The first numeric previous-close field of the chart meta, as a double. -/
def previousClose (info : Value) : Except Fault (Option Float) :=
  if !info.isDict then .ok none
  else go previousCloseKeys
where
  go : List String → Except Fault (Option Float)
    | [] => .ok none
    | k :: ks => do
      let v := info.getD k
      if ← isNumber v then return some (← toDouble v) else go ks

/-- The latest price of one instrument and its change. -/
structure Summary where
  /-- The symbol: a text when read from a chart result, though a summary may
  carry any value there. -/
  symbol : Value
  lastClose : Float
  previousClose : Float
  change : Float
  changePercent : Float
  changePercentValid : Bool
  closes : List Float

/-- The symbol a chart result names in its meta, else `UNKNOWN`. -/
def symbolOf (info : Value) : Value :=
  match info.get? "symbol" with
  | some (.str s) => .str s
  | _ => .str "UNKNOWN"

/-- The summary of a chart result; `intraday` puts the meta fields first. -/
def summarize (result : Value) (intraday : Bool := false) : Except Fault Summary := do
  let cs ← closes result
  let info := result.getD "meta"
  let ref ← previousClose info
  let prior := if 2 ≤ cs.length then cs[cs.length - 2]? else none
  let prev? := if intraday then ref <|> prior else prior <|> ref
  let some prev := prev? | throw (.shape .noPreviousClose)
  let last := cs.getLast?.getD 0.0
  let change := last - prev
  let valid := !(prev == 0.0)
  return ⟨symbolOf info, last, prev, change, if valid then change / prev * 100.0 else 0.0,
    valid, cs⟩

end QuoteMomentum.Quote
