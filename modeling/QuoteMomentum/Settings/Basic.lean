import QuoteMomentum.Value.Number

/-!
# Settings

The settings of the dashboard in five sections: the watchlist, the
indicators, the feed, the display and logging. Every field holds a value as
it was written in the configuration, so a field may hold a value of another
kind than its default; the checks of `Settings.Validate` decide what is
acceptable, and what they do not check is used as it stands.

A section is updated from a mapping key by key, in the mapping's order
(`Settings.Section.update`): a key naming a field replaces it; `intraday`, a
field of the watchlist computed from its range, cannot be written; a key that
is no text cannot name a field; other keys change nothing. A section given as
null is left as it is, and one given as anything but a mapping has no entries
to read.

A section object keeps its fields in an attribute table, which the key
`__dict__` replaces by the mapping it gives. A field the new table lacks falls
back to the field's default, except the watchlist's `symbols`, whose default
is made afresh for each watchlist and so is not there to fall back to: the
watchlist then has no `symbols` at all, a later `symbols` key is skipped, and
reading the field fails. The key `__class__` asks for a class, which no value
of a document is, and `__weakref__` cannot be written.
-/

namespace QuoteMomentum.Settings

/-- Which instruments to poll and how often. -/
structure Watchlist where
  /-- The symbols; none when the attribute table was replaced by one without
  them. -/
  symbols : Option Value
  refreshIntervalSeconds : Value
  historyMode : Value
  chartRange : Value
  chartInterval : Value
  includePrePost : Value
  fetchWorkers : Value
  deriving Inhabited

/-- MACD periods, crossover shading and the session buffer. -/
structure Indicators where
  fastPeriod : Value
  slowPeriod : Value
  signalPeriod : Value
  crossSaturationPct : Value
  sessionMaxPoints : Value
  deriving Inhabited

/-- Where and how quotes are fetched. -/
structure Feed where
  baseUrl : Value
  userAgent : Value
  timeoutSeconds : Value
  rateLimitCallsPerMinute : Value
  burstLimit : Value
  deriving Inhabited

/-- Terminal output. -/
structure Display where
  color : Value
  clearScreen : Value
  deriving Inhabited

/-- Logging. -/
structure Logging where
  level : Value
  format : Value
  includeTimestamps : Value
  deriving Inhabited

/-- The default watchlist: seven instruments every 30 seconds, a year of daily bars. -/
def Watchlist.standard : Watchlist where
  symbols := some (.list (["AAPL", "GOOGL", "TSLA", "MSFT", "NVDA", "BTC-USD", "ETH-USD"].map .str))
  refreshIntervalSeconds := .int 30
  historyMode := .str "chart"
  chartRange := .str "1y"
  chartInterval := .str "1d"
  includePrePost := .bool false
  fetchWorkers := .int 1

/-- The default indicators: MACD 12/26/9, saturation at half a percent, an
unbounded session buffer. -/
def Indicators.standard : Indicators where
  fastPeriod := .int 12
  slowPeriod := .int 26
  signalPeriod := .int 9
  crossSaturationPct := .float 0.5
  sessionMaxPoints := .int 0

/-- The default feed. -/
def Feed.standard : Feed where
  baseUrl := .str "https://query1.finance.yahoo.com/v8/finance/chart"
  userAgent := .str ("Mozilla/5.0 (Windows NT 10.0; Win64; x64) AppleWebKit/537.36 " ++
    "(KHTML, like Gecko) Chrome/124.0.0.0 Safari/537.36")
  timeoutSeconds := .float 15.0
  rateLimitCallsPerMinute := .int 120
  burstLimit := .int 10

/-- The default display: colors and a cleared screen. -/
def Display.standard : Display := ⟨.bool true, .bool true⟩

/-- The default logging: warnings and above, as text, with timestamps. -/
def Logging.standard : Logging := ⟨.str "WARNING", .str "text", .bool true⟩

/-- The symbols of a watchlist, or the fault of reading an attribute it does
not have. -/
def Watchlist.symbolsValue (w : Watchlist) : Except Fault Value :=
  match w.symbols with
  | some v => .ok v
  | none => .error (.noAttribute "WatchlistConfig" "symbols")

/-- Whether the chart range covers one trading session only. -/
def Watchlist.intraday (w : Watchlist) : Bool :=
  match w.chartRange with
  | .str "1d" => true
  | _ => false

/-- A section of the settings: its name in messages, how a field is written
by key, how the attribute table is replaced by a mapping, which keys name
fields that cannot be written, and which field names the object currently
lacks. -/
structure Section (σ : Type) where
  name : String
  set : σ → String → Value → Option σ
  replace : List (Value × Value) → σ
  readOnly : List String := []
  lacks : σ → String → Bool := fun _ _ => false

/-- Names every settings object answers to without their being fields; writing
them changes no setting. -/
def inertNames : List String :=
  ["__annotations__", "__doc__", "__module__", "__eq__", "__hash__", "__init__", "__repr__",
    "__str__", "__format__", "__ne__", "__lt__", "__le__", "__gt__", "__ge__", "__new__",
    "__reduce__", "__reduce_ex__", "__sizeof__", "__dir__", "__getattribute__", "__setattr__",
    "__delattr__", "__init_subclass__", "__subclasshook__", "__getstate__",
    "__dataclass_fields__", "__dataclass_params__", "__match_args__"]

namespace Section

variable {σ : Type}

/-- Writes one entry into a section: only a name the object has is written. -/
def write (sec : Section σ) (s : σ) (k v : Value) : Except Fault σ :=
  match k with
  | .str "__dict__" =>
    match v with
    | .dict es => .ok (sec.replace es)
    | _ => .error (.dictRequired v.typeName)
  | .str "__class__" => .error (.classRequired v.typeName)
  | .str "__weakref__" => .error (.notWritable "__weakref__" sec.name)
  | .str key =>
    if sec.lacks s key then .ok s
    else match sec.set s key v with
      | some s' => .ok s'
      | none =>
        if sec.readOnly.contains key then .error (.readOnlyField key sec.name) else .ok s
  | _ => .error (.fieldNameNotText k.typeName)

/-- The value under the text key `k` of an attribute table. -/
def entryOf (es : List (Value × Value)) (k : String) : Option Value :=
  (es.find? (fun e => Value.sameKey e.1 (.str k))).map (·.2)

/-- Updates a section from a mapping given in a configuration. -/
def update (sec : Section σ) (s : σ) (data : Value) : Except Fault σ :=
  match data with
  | .null => .ok s
  | .dict es => es.foldlM (fun acc e => sec.write acc e.1 e.2) s
  | v => .error (.noAttribute v.typeName "items")

end Section

/-- The watchlist section. -/
def Watchlist.schema : Section Watchlist where
  name := "WatchlistConfig"
  readOnly := ["intraday"]
  lacks w k := k == "symbols" && w.symbols.isNone
  replace es :=
    let d := Watchlist.standard
    let a (k : String) (v : Value) := (Section.entryOf es k).getD v
    ⟨Section.entryOf es "symbols", a "refresh_interval_seconds" d.refreshIntervalSeconds,
      a "history_mode" d.historyMode, a "chart_range" d.chartRange,
      a "chart_interval" d.chartInterval, a "include_pre_post" d.includePrePost,
      a "fetch_workers" d.fetchWorkers⟩
  set w k v := match k with
    | "symbols" => some { w with symbols := some v }
    | "refresh_interval_seconds" => some { w with refreshIntervalSeconds := v }
    | "history_mode" => some { w with historyMode := v }
    | "chart_range" => some { w with chartRange := v }
    | "chart_interval" => some { w with chartInterval := v }
    | "include_pre_post" => some { w with includePrePost := v }
    | "fetch_workers" => some { w with fetchWorkers := v }
    | _ => if inertNames.contains k then some w else none

/-- The indicators section. -/
def Indicators.schema : Section Indicators where
  name := "IndicatorConfig"
  replace es :=
    let d := Indicators.standard
    let a (k : String) (v : Value) := (Section.entryOf es k).getD v
    ⟨a "fast_period" d.fastPeriod, a "slow_period" d.slowPeriod, a "signal_period" d.signalPeriod,
      a "cross_saturation_pct" d.crossSaturationPct, a "session_max_points" d.sessionMaxPoints⟩
  set s k v := match k with
    | "fast_period" => some { s with fastPeriod := v }
    | "slow_period" => some { s with slowPeriod := v }
    | "signal_period" => some { s with signalPeriod := v }
    | "cross_saturation_pct" => some { s with crossSaturationPct := v }
    | "session_max_points" => some { s with sessionMaxPoints := v }
    | _ => if inertNames.contains k then some s else none

/-- The feed section. -/
def Feed.schema : Section Feed where
  name := "FeedConfig"
  replace es :=
    let d := Feed.standard
    let a (k : String) (v : Value) := (Section.entryOf es k).getD v
    ⟨a "base_url" d.baseUrl, a "user_agent" d.userAgent, a "timeout_seconds" d.timeoutSeconds,
      a "rate_limit_calls_per_minute" d.rateLimitCallsPerMinute, a "burst_limit" d.burstLimit⟩
  set s k v := match k with
    | "base_url" => some { s with baseUrl := v }
    | "user_agent" => some { s with userAgent := v }
    | "timeout_seconds" => some { s with timeoutSeconds := v }
    | "rate_limit_calls_per_minute" => some { s with rateLimitCallsPerMinute := v }
    | "burst_limit" => some { s with burstLimit := v }
    | _ => if inertNames.contains k then some s else none

/-- The display section. -/
def Display.schema : Section Display where
  name := "DisplayConfig"
  replace es :=
    let d := Display.standard
    let a (k : String) (v : Value) := (Section.entryOf es k).getD v
    ⟨a "color" d.color, a "clear_screen" d.clearScreen⟩
  set s k v := match k with
    | "color" => some { s with color := v }
    | "clear_screen" => some { s with clearScreen := v }
    | _ => if inertNames.contains k then some s else none

/-- The logging section. -/
def Logging.schema : Section Logging where
  name := "LoggingConfig"
  replace es :=
    let d := Logging.standard
    let a (k : String) (v : Value) := (Section.entryOf es k).getD v
    ⟨a "level" d.level, a "format" d.format, a "include_timestamps" d.includeTimestamps⟩
  set s k v := match k with
    | "level" => some { s with level := v }
    | "format" => some { s with format := v }
    | "include_timestamps" => some { s with includeTimestamps := v }
    | _ => if inertNames.contains k then some s else none

/-- The watchlist as a mapping, with the computed `intraday`; a watchlist
without symbols cannot be read out. -/
def Watchlist.toValue (w : Watchlist) : Except Fault Value := do
  return .ofPairs [("symbols", ← w.symbolsValue), ("refresh_interval_seconds", w.refreshIntervalSeconds),
    ("history_mode", w.historyMode), ("chart_range", w.chartRange),
    ("chart_interval", w.chartInterval), ("include_pre_post", w.includePrePost),
    ("fetch_workers", w.fetchWorkers), ("intraday", .bool w.intraday)]

/-- The indicators as a mapping. -/
def Indicators.toValue (s : Indicators) : Value :=
  .ofPairs [("fast_period", s.fastPeriod), ("slow_period", s.slowPeriod),
    ("signal_period", s.signalPeriod), ("cross_saturation_pct", s.crossSaturationPct),
    ("session_max_points", s.sessionMaxPoints)]

/-- The feed as a mapping. -/
def Feed.toValue (s : Feed) : Value :=
  .ofPairs [("base_url", s.baseUrl), ("user_agent", s.userAgent),
    ("timeout_seconds", s.timeoutSeconds),
    ("rate_limit_calls_per_minute", s.rateLimitCallsPerMinute), ("burst_limit", s.burstLimit)]

/-- The display as a mapping. -/
def Display.toValue (s : Display) : Value :=
  .ofPairs [("color", s.color), ("clear_screen", s.clearScreen)]

/-- Logging as a mapping. -/
def Logging.toValue (s : Logging) : Value :=
  .ofPairs [("level", s.level), ("format", s.format), ("include_timestamps", s.includeTimestamps)]

end QuoteMomentum.Settings

namespace QuoteMomentum

/-- All settings. -/
structure Settings where
  watchlist : Settings.Watchlist
  indicators : Settings.Indicators
  feed : Settings.Feed
  display : Settings.Display
  logging : Settings.Logging
  deriving Inhabited

namespace Settings

/-- The default settings. -/
def standard : Settings :=
  ⟨.standard, .standard, .standard, .standard, .standard⟩

/-- Settings updated section by section from a mapping of sections, in the
order watchlist, indicators, feed, display, logging. A section missing from
the mapping is left as it is. -/
def update (s : Settings) (sections : Value) : Except Fault Settings := do
  let part (k : String) := sections.getD k
  let w ← Watchlist.schema.update s.watchlist (part "watchlist")
  let i ← Indicators.schema.update s.indicators (part "indicators")
  let f ← Feed.schema.update s.feed (part "feed")
  let d ← Display.schema.update s.display (part "display")
  let l ← Logging.schema.update s.logging (part "logging")
  return ⟨w, i, f, d, l⟩

/-- All settings as a mapping of sections. -/
def toValue (s : Settings) : Except Fault Value := do
  return .ofPairs [("watchlist", ← s.watchlist.toValue), ("indicators", s.indicators.toValue),
    ("feed", s.feed.toValue), ("display", s.display.toValue), ("logging", s.logging.toValue)]

end Settings

end QuoteMomentum
