import QuoteMomentum.Value.Text
import QuoteMomentum.Value.Number
import QuoteMomentum.Text.Case
import QuoteMomentum.Text.Layout
import QuoteMomentum.Decimal.Notation

/-!
# Log records

The dashboard logs to the error stream, one line per record, as text or as
JSON. A record has a level, the name of the logger, a message and extra
fields.

* As text: `[TIMESTAMP] ` when timestamps are on, the level name left-aligned
  in eight characters, the logger name, `: ` and the message, then
  ` | key=value` for every field, the value as its display text.
* As JSON: an object with `level`, `logger` and `message`, updated with the
  fields (a field may replace one of the three).

Records below the configured level are dropped. The messages of the helpers
are built before that test, so a price that cannot be written fails even when
the record is dropped, and so does a field that repeats a parameter of the
helper it is passed to, or of the method every helper ends in (`level`).
-/

namespace QuoteMomentum.Log

/-- The levels a record can have. -/
inductive Level where
  | debug
  | info
  | warning
  | error
  | critical
  deriving Repr, DecidableEq

/-- The number of a level: higher is more severe. -/
def Level.number : Level → Nat
  | debug => 10
  | info => 20
  | warning => 30
  | error => 40
  | critical => 50

/-- The name of a level in records. -/
def Level.name : Level → String
  | debug => "DEBUG"
  | info => "INFO"
  | warning => "WARNING"
  | error => "ERROR"
  | critical => "CRITICAL"

/-- The least level number a configured level name lets through. The name is
written in upper case and looked up among the names of the logging module:
the level names, and two names of other things that are no levels. -/
def threshold (name : Value) : Except Fault Nat :=
  match name with
  | .str s =>
    match Text.upper s with
    | "CRITICAL" | "FATAL" => .ok 50
    | "ERROR" => .ok 40
    | "WARNING" | "WARN" => .ok 30
    | "INFO" => .ok 20
    | "DEBUG" => .ok 10
    | "NOTSET" => .ok 0
    | "BASIC_FORMAT" => .error (.levelText "%(levelname)s:%(name)s:%(message)s")
    | "_STYLES" => .error .levelStyles
    | u => .error (.noLevel u)
  | v => .error (.noAttribute v.typeName "upper")

/-- A log record. -/
structure Record where
  level : Level
  logger : String
  message : String
  fields : List (String × Value)

/-- The record as text: one line, unless the message or a field breaks it. -/
def Record.text (r : Record) (timestamps : Bool) : String :=
  let base := Text.alignLeft 8 r.level.name ++ " " ++ r.logger ++ ": " ++ r.message
  let base := if timestamps then "[TIMESTAMP] " ++ base else base
  if r.fields.isEmpty then base
  else base ++ " | " ++ " | ".intercalate (r.fields.map fun p => p.1 ++ "=" ++ p.2.display)

/-- The record as a JSON object. -/
def Record.json (r : Record) : Value :=
  let base : List (Value × Value) :=
    [(.str "level", .str r.level.name), (.str "logger", .str r.logger),
      (.str "message", .str r.message)]
  .dict (r.fields.foldl (fun es p => Value.setEntry es (.str p.1) p.2) base)

/-! ## The helpers -/

/-- A number with `places` decimals, a sign when `plus`; whole numbers are
written as the nearest double. -/
def fixed (v : Value) (places : Nat) (plus : Bool) : Except Fault String :=
  match v with
  | .float x => .ok (Decimal.fixedText x places plus)
  | .int n => (Decimal.fixedText · places plus) <$> Num.wholeToDouble n
  | .bool b => .ok (Decimal.fixedText (if b then 1.0 else 0.0) places plus)
  | .str _ => .error (.formatCode "f" "str")
  | v => .error (.noFormat v.typeName)

/-- The qualified name of a helper of the logger. -/
def helperName (helper : String) : String := "StructuredLogger." ++ helper

/-- Fails when a field repeats a parameter given by position. -/
def noRepeat (helper : String) (params : List String) (fields : List (String × Value)) :
    Except Fault Unit :=
  match fields.find? (params.contains ·.1) with
  | some p => .error (.duplicateArgument (helperName helper) p.1)
  | none => .ok ()

/-- Fails when a field repeats a keyword the helper passes on. -/
def noRepeatKeyword (helper : String) (keys : List String) (fields : List (String × Value)) :
    Except Fault Unit :=
  match fields.find? (keys.contains ·.1) with
  | some p =>
    .error (.duplicateKeyword ("quotewatch.observability.logger." ++ helperName helper) p.1)
  | none => .ok ()

/-- A plain record at a level: the message and the fields as given. -/
def plain (logger : String) (level : Level) (msg : Value) (fields : List (String × Value)) :
    Except Fault Record := do
  noRepeat (Text.lower level.name) ["self", "msg"] fields
  noRepeat "_log" ["level"] fields
  return ⟨level, logger, msg.display, fields⟩

/-- The record of a refreshed quote: price to two places, change and percent
signed. -/
def quote (logger : String) (symbol price change changePercent : Value)
    (fields : List (String × Value)) : Except Fault Record := do
  noRepeat "quote" ["self", "symbol", "price", "change", "change_percent"] fields
  let p ← fixed price 2 false
  let c ← fixed change 2 true
  let q ← fixed changePercent 2 true
  noRepeat "debug" ["self", "msg"] fields
  noRepeat "_log" ["level"] fields
  return ⟨.debug, logger, "QUOTE: " ++ symbol.display ++ " " ++ p ++ " (" ++ c ++ ", " ++ q ++ "%)",
    [("symbol", symbol), ("price", price), ("change", change), ("change_percent", changePercent)] ++
      fields⟩

/-- The record of an indicator value, `N/A` when there is none. -/
def indicator (logger : String) (name symbol value : Value) (fields : List (String × Value)) :
    Except Fault Record := do
  noRepeat "indicator" ["self", "name", "symbol", "value"] fields
  let shown := match value with
    | .null => "N/A"
    | v => v.display
  noRepeatKeyword "debug" ["indicator"] fields
  noRepeat "debug" ["self", "msg"] fields
  noRepeat "_log" ["level"] fields
  return ⟨.debug, logger, "INDICATOR: " ++ name.display ++ " for " ++ symbol.display ++ ": " ++ shown,
    [("indicator", name), ("symbol", symbol), ("value", value)] ++ fields⟩

/-- The record of a failed poll of a symbol, a warning. -/
def feedError (logger : String) (symbol kind details : Value) (fields : List (String × Value)) :
    Except Fault Record := do
  noRepeat "feed_error" ["self", "symbol", "kind", "details"] fields
  noRepeat "warning" ["self", "msg"] fields
  noRepeat "_log" ["level"] fields
  return ⟨.warning, logger,
    "FEED: " ++ kind.display ++ " for " ++ symbol.display ++ " - " ++ details.display,
    [("symbol", symbol), ("kind", kind)] ++ fields⟩

/-- The records that pass a threshold. -/
def passing (least : Nat) (rs : List Record) : List Record :=
  rs.filter (least ≤ ·.level.number)

end QuoteMomentum.Log
