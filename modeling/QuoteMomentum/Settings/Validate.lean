import QuoteMomentum.Settings.Basic
import QuoteMomentum.Text.Case

/-!
# Checking settings

Settings are checked once, after they are loaded and overridden, in a fixed
order; the first failing check is the fault:

1. the MACD periods are at least 1 (fast, slow, signal, each compared only if
   the ones before passed);
2. the fast period is below the slow one;
3. the crossover saturation is positive;
4. the session bound is at least zero;
5. the history mode is `chart` or `session`;
6. the watchlist has a symbol (counts as true);
7. the refresh interval is at least one second;
8. there is at least one fetch worker;
9. the logging level, written in upper case, names a level;
10. the logging format, written in lower case, is `json` or `text`;
11. a session bound, when positive, leaves room for the MACD window:
    at least `slow + signal + 1` closes.

Comparisons are those of numbers: a field that is no number fails its
comparison with the fault `unordered`, which ends the checks.
-/

namespace QuoteMomentum.Settings

/-- The sources of MACD history. -/
def historyModes : List String := ["chart", "session"]

/-- The names of the logging levels. -/
def levelNames : List String :=
  ["CRITICAL", "FATAL", "ERROR", "WARN", "WARNING", "INFO", "DEBUG", "NOTSET"]

/-- The formats of log lines. -/
def logFormats : List String := ["json", "text"]

/-- Whether a value is one of the given texts. -/
def oneOf (names : List String) : Value → Bool
  | .str s => names.contains s
  | _ => false

/-- The least session bound that lets MACD readings mature: `slow + signal + 1`. -/
def minPoints (ind : Indicators) : Except Fault Value := do
  (← ind.slowPeriod.add ind.signalPeriod).add (.int 1)

/-- Checks the settings; the first failing check is the fault. -/
def validate (s : Settings) : Except Fault Unit := do
  let ind := s.indicators
  let bad (f : SettingFault) : Except Fault Unit := throw (.setting f)
  if ← ind.fastPeriod.test .lt (.int 1) then bad .periodsNotPositive
  if ← ind.slowPeriod.test .lt (.int 1) then bad .periodsNotPositive
  if ← ind.signalPeriod.test .lt (.int 1) then bad .periodsNotPositive
  if ← ind.fastPeriod.test .ge ind.slowPeriod then bad .fastNotBelowSlow
  if ← ind.crossSaturationPct.test .le (.int 0) then bad .saturationNotPositive
  if ← ind.sessionMaxPoints.test .lt (.int 0) then bad .negativeMaxPoints
  let wl := s.watchlist
  unless oneOf historyModes wl.historyMode do bad (.unknownMode wl.historyMode)
  unless (← wl.symbolsValue).truthy do bad .noSymbols
  if ← wl.refreshIntervalSeconds.test .lt (.int 1) then bad .refreshTooShort
  if ← wl.fetchWorkers.test .lt (.int 1) then bad .noWorkers
  let log := s.logging
  unless levelNames.contains (Text.upper log.level.display) do bad (.unknownLevel log.level)
  unless logFormats.contains (Text.lower log.format.display) do bad (.unknownFormat log.format)
  let least ← minPoints ind
  if ← (Value.int 0).test .lt ind.sessionMaxPoints then
    if ← ind.sessionMaxPoints.test .lt least then bad (.bufferTooShort least)

end QuoteMomentum.Settings
