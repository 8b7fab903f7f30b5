import QuoteMomentum.Settings.Basic
import QuoteMomentum.Value.Text

/-!
# The settings as a summary

The summary the command line shows: a heading, then the watchlist, the
indicators, the feed and logging, one field a line, each value as its
display text. The symbols are joined with `, `, so they must be texts (a
text counts as its characters, a mapping as its keys); a session bound that
counts as false shows as `unbounded`.
-/

namespace QuoteMomentum.Settings

/-- The items of a value joined by `, `; every item must be a text. -/
def joinItems (v : Value) : Except Fault String := do
  match v.elements? with
  | none => throw .joinNeedsItems
  | some items =>
    let texts ← (items.zipIdx).mapM fun (item, i) =>
      match item with
      | .str s => pure s
      | other => throw (.joinItem i other.typeName)
    return ", ".intercalate texts

/-- The summary of the settings. -/
def summary (s : Settings) : Except Fault String := do
  let wl := s.watchlist
  let ind := s.indicators
  let symbols ← joinItems (← wl.symbolsValue)
  let bound := if ind.sessionMaxPoints.truthy then ind.sessionMaxPoints.display else "unbounded"
  return "=== Current Configuration ===\n\n" ++
    "[Watchlist]\n" ++
    "  Symbols: " ++ symbols ++ "\n" ++
    "  Refresh Interval: " ++ wl.refreshIntervalSeconds.display ++ "s\n" ++
    "  History Mode: " ++ wl.historyMode.display ++ "\n" ++
    "  Chart: range=" ++ wl.chartRange.display ++ " interval=" ++ wl.chartInterval.display ++
      " prepost=" ++ wl.includePrePost.display ++ "\n" ++
    "  Fetch Workers: " ++ wl.fetchWorkers.display ++ "\n" ++
    "\n[Indicators]\n" ++
    "  MACD: " ++ ind.fastPeriod.display ++ "/" ++ ind.slowPeriod.display ++ "/" ++
      ind.signalPeriod.display ++ "\n" ++
    "  Cross Saturation: " ++ ind.crossSaturationPct.display ++ "%\n" ++
    "  Session Max Points: " ++ bound ++ "\n" ++
    "\n[Feed]\n" ++
    "  Base URL: " ++ s.feed.baseUrl.display ++ "\n" ++
    "  Timeout: " ++ s.feed.timeoutSeconds.display ++ "s\n" ++
    "  Rate Limit: " ++ s.feed.rateLimitCallsPerMinute.display ++ " calls/min\n" ++
    "\n[Logging]\n" ++
    "  Level: " ++ s.logging.level.display ++ "\n" ++
    "  Format: " ++ s.logging.format.display ++ "\n"

end QuoteMomentum.Settings
