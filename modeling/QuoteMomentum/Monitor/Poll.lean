import QuoteMomentum.Feed.Client
import QuoteMomentum.Quote.Summary
import QuoteMomentum.Indicator.Periods
import QuoteMomentum.Indicator.Intensity
import QuoteMomentum.Session.History
import QuoteMomentum.Display.Row

/-!
# Polling the watchlist

A monitor is made from the settings: first its chart client, unless one is
given, whose rate and burst must be positive numbers, then its MACD
indicator, whose periods must be valid, then its session history, whose bound
must be at least zero. It reports its symbols and its periods as it starts,
so the watchlist must have its symbols and each period must have a text: a
whole number of more than `Text.maxDigits` digits has none.

A poll requests every symbol of the watchlist once and makes a row of each:

* the feed refused the symbol: an `apiError` row with the feed's description;
* any other failure of the request or its answer, a request the stop event
  kept from being sent included: a `fetchFailed` row;
* the answer had too little in it: a `noData` row with the reason;
* otherwise an `ok` row with the quote summary, the MACD reading of the
  closes, and the intensity of its crossover.

In session mode the MACD reading is of the closes collected over the polls:
every good poll appends its last close to the symbol's series first. In
chart mode it is of the closes of the answer. Either way the percents are of
the last close.

A symbol that is no text cannot be requested, a wait for a turn of the client
can fail, and a saturation of zero cannot shade a crossover: such faults end
the poll, as does any fault other than the three above. The feed is outside
the program: a `Feed.Source` gives the answer to a request for an address,
knowing the addresses requested before it.

The rows keep the order of the watchlist. Polling with several workers gives
the same rows as polling one symbol after another; only the size of the pool
is computed, as the least of the configured workers and the number of
symbols, and must be comparable with numbers.
-/

namespace QuoteMomentum

/-- The answer the feed gives to a request for an address, after requests for
the addresses listed, in order. -/
abbrev Feed.Source := List String → String → Feed.Answer

/-- The watchlist monitor between polls. -/
structure Monitor where
  settings : Settings
  config : Macd.Config
  history : History
  /-- The address of every request made, in order. -/
  requests : List String
  /-- The polls completed. -/
  polls : Nat
  /-- The chart client: its bucket, its clock and its stop event. -/
  client : Feed.Client

namespace Monitor

/-- The text of a period in the report of the periods: a whole number in
decimal, within the digits a whole number is written with. -/
def periodText : Value → Except Fault String
  | .int n => Text.ofWhole n
  | v => .ok v.display

/-- The periods as the monitor reports them, `fast/slow/signal`. -/
def periodsText (ind : Settings.Indicators) : Except Fault String := do
  return (← periodText ind.fastPeriod) ++ "/" ++ (← periodText ind.slowPeriod) ++ "/" ++
    (← periodText ind.signalPeriod)

/-- A monitor for the settings: its chart client, the one given or else one
made from the feed settings that watches the monitor's stop event, still
clear; then its indicator and its history, each refusing what the module doc
says; then the symbols and the periods it reports. -/
def make (s : Settings) (client : Option Feed.Client := none) : Except Fault Monitor := do
  let client ← match client with
    | some c => pure c
    | none => Feed.Client.make s.feed (some false)
  let c ← Macd.Config.make s.indicators.fastPeriod s.indicators.slowPeriod s.indicators.signalPeriod
  let h ← History.make s.indicators.sessionMaxPoints
  let _ ← s.watchlist.symbolsValue
  let _ ← periodsText s.indicators
  return ⟨s, c, h, [], 0, client⟩

/-- Whether MACD readings are of the closes collected over the polls. -/
def sessionMode (m : Monitor) : Bool :=
  match m.settings.watchlist.historyMode with
  | .str "session" => true
  | _ => false

/-- The MACD reading for a summary; in session mode its last close is
appended to the symbol's series first. -/
def readingFor (m : Monitor) (symbol : Value) (s : Quote.Summary) :
    Except Fault (Monitor × Macd.Reading Float) :=
  if m.sessionMode then
    let (h, r) := m.history.update symbol (.float s.lastClose) fun xs =>
      m.config.lastTwo xs (some s.lastClose)
    (fun x => ({ m with history := h }, x)) <$> r
  else (fun x => (m, x)) <$> m.config.lastTwo s.closes (some s.lastClose)

/-- The row of a failed poll, for the faults a row can show. -/
def failedRow (symbol : Value) : Fault → Option Row
  | .feed (.rejected d _ _) => some { symbol, status := .apiError, error := .str d }
  | .feed _ => some { symbol, status := .fetchFailed, error := .str "Failed to fetch data" }
  | .shape f => some { symbol, status := .noData, error := .str ("Insufficient data: " ++ f.reason) }
  | _ => none

/-- The row of a symbol from the chart result of its request, or the
request's fault, and the monitor after the reading. -/
def settle (m : Monitor) (symbol : Value) (result : Except Fault Value) :
    Except Fault (Monitor × Row) :=
  match result >>= fun r => Quote.summarize r m.settings.watchlist.intraday with
  | .error e =>
    match failedRow symbol e with
    | some row => .ok (m, row)
    | none => .error e
  | .ok s => do
    let (m, reading) ← m.readingFor symbol s
    let intensity ← Macd.intensityWith reading s.lastClose m.settings.indicators.crossSaturationPct
    return (m, { symbol, status := .ok, summary := some s, macd := some reading, intensity })

/-- The monitor after a request's turn: the client after it, and the address
logged when the request was sent. -/
def logged (m : Monitor) (client : Feed.Client) (sent : Bool) (url : String) : Monitor :=
  { m with client, requests := if sent then m.requests ++ [url] else m.requests }

/-- Polls one symbol: its address, the request on the client's turn, logged
when it is sent, and the row of its result. -/
def pollSymbol (m : Monitor) (source : Feed.Source) (symbol : Value) :
    Except Fault (Monitor × Row) := do
  let url ← Feed.chartUrl m.settings.feed m.settings.watchlist symbol
  let (client, sent, result) ← m.client.fetch (source m.requests url)
  (m.logged client sent url).settle symbol result

/-- Polls the next symbol: the monitor after it, and the rows so far with the
symbol's row last. -/
def pollStep (source : Feed.Source) (acc : Monitor × List Row) (symbol : Value) :
    Except Fault (Monitor × List Row) := do
  let (m, row) ← acc.1.pollSymbol source symbol
  return (m, acc.2 ++ [row])

/-- Polls every symbol of the watchlist once: the monitor after the poll and
the rows, in the order of the watchlist. -/
def pollOnce (m : Monitor) (source : Feed.Source) : Except Fault (Monitor × List Row) := do
  let w := m.settings.watchlist
  let given ← w.symbolsValue
  let symbols ← match given.elements? with
    | some xs => pure xs
    | none => throw (.noLength given.typeName)
  let fewer ← Value.test .lt (.int symbols.length) w.fetchWorkers
  let workers := if fewer then Value.int symbols.length else w.fetchWorkers
  let _ ← workers.test .le (.int 1)
  let (m, rows) ← symbols.foldlM (pollStep source) (m, [])
  return ({ m with polls := m.polls + 1 }, rows)

end Monitor

end QuoteMomentum
