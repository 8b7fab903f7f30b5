import QuoteMomentum.Quote.Summary
import QuoteMomentum.Indicator.Intensity
import QuoteMomentum.Text.Layout
import QuoteMomentum.Decimal.Notation

/-!
# Rows of the dashboard

Polling a symbol gives a row: the quote summary and its MACD reading when the
poll went well, else an error text. A row is written as one line of the
table, with the columns

`Ticker | Price | Change | % Change | MACD% | Signal%`

in widths 10, 11, 12, 14, 10 and 10 (a signed cell is a sign and the
magnitude). With color on, the price cell is blue on green or red as the close
rose or fell, signed cells are green when not negative and red otherwise (NaN
is negative here, as it is not `≥ 0`), and the ticker of a crossover row is
shaded green or red with a strength that grows with the crossover's
intensity. A row that did not poll well is the ticker and its error, red when
color is on.

Cells of symbols and errors are values as given; a value is aligned as its
whole-number or short text, and a value with no such text cannot fill a cell.
-/

namespace QuoteMomentum

/-- How polling a symbol went. -/
inductive RowStatus where
  | ok
  /-- The request or its answer failed. -/
  | fetchFailed
  /-- The feed refused the symbol. -/
  | apiError
  /-- The answer had too little in it. -/
  | noData
  deriving Repr, DecidableEq

/-- How a status is named in output. -/
def RowStatus.name : RowStatus → String
  | ok => "ok"
  | fetchFailed => "fetch_failed"
  | apiError => "api_error"
  | noData => "no_data"

/-- One row of the dashboard. -/
structure Row where
  symbol : Value
  status : RowStatus
  summary : Option Quote.Summary := none
  macd : Option (Macd.Reading Float) := none
  intensity : Float := 0.0
  error : Value := .str ""

/-- Whether a row carries a valid MACD reading. -/
def Row.hasMacd (r : Row) : Bool :=
  match r.macd with
  | some m => m.valid
  | none => false

namespace Display

/-! ## Cells -/

/-- Ends any color. -/
def reset : String := "\x1b[0m"
def red : String := "\x1b[31m"
def green : String := "\x1b[32m"
def blue : String := "\x1b[34m"
def onRed : String := "\x1b[41m"
def onGreen : String := "\x1b[42m"

/-- A text in a color, when color is on and there is a color. -/
def paint (text code : String) (color : Bool) : String :=
  if !color || code.isEmpty then text else code ++ text ++ reset

/-- Green for a number that is not negative, red otherwise. -/
def signColor (x : Float) : String := if 0.0 ≤ x then green else red

/-- A value left-aligned in a cell: text as it is, numbers as their short
text, booleans as `1` or `0`. A date or moment takes the alignment for a
pattern of its own and, having no field codes in it, shows the pattern
itself. -/
def leftCell (width : Nat) : Value → Except Fault String
  | .str s => .ok (Text.alignLeft width s)
  | .int n => .ok (Text.alignLeft width (toString n))
  | .bool b => .ok (Text.alignLeft width (if b then "1" else "0"))
  | .float x => .ok (Text.alignLeft width (Decimal.shortText x))
  | .date _ _ _ | .moment _ => .ok ("<" ++ toString width)
  | v => .error (.noFormat v.typeName)

/-- A whole number right-aligned in a cell; booleans count as `1` and `0`. A
date or moment shows the pattern `<width>d` itself, having no field codes in
it. -/
def wholeCell (width : Nat) : Value → Except Fault String
  | .int n => .ok (Text.alignRight width (toString n))
  | .bool b => .ok (Text.alignRight width (if b then "1" else "0"))
  | .date _ _ _ | .moment _ => .ok (toString width ++ "d")
  | .float _ => .error (.formatCode "d" "float")
  | .str _ => .error (.formatCode "d" "str")
  | v => .error (.noFormat v.typeName)

/-- A sign, `+` exactly when `x ≥ 0`, then the magnitude with `decimals`
places right-aligned in `width`, then the suffix. -/
def signed (x : Float) (width decimals : Nat) (suffix : String := "") : String :=
  (if 0.0 ≤ x then "+" else "-") ++ Text.alignRight width (Decimal.fixedText x.abs decimals false) ++
    suffix

/-- A percent of the MACD columns: signed, three places, in nine characters. -/
def percentCell (x : Float) (color : Bool) : String :=
  paint (Text.alignRight 9 (Decimal.fixedText x 3 true) ++ "%") (signColor x) color

/-! ## The crossover shade -/

/-- The least and the greatest strength of a shade. -/
def shadeFloor : Int := 30
def shadePeak : Int := 225

/-- The background of the ticker of a crossover row, or nothing: a green or
red of strength `30 + ⌊195 · intensity⌋` (toward zero). The strength is
computed whenever the row has a valid reading and a positive intensity, so a
NaN intensity is a fault even without a crossover. -/
def crossoverBackground (r : Row) : Except Fault String :=
  if !r.hasMacd || r.intensity ≤ 0.0 then .ok ""
  else do
    let level := shadeFloor + (← Num.doubleToWhole (Float.ofInt (shadePeak - shadeFloor) * r.intensity))
    match r.macd with
    | some m =>
      if m.bullish then return "\x1b[48;2;0;" ++ toString level ++ ";0m"
      else if m.bearish then return "\x1b[48;2;" ++ toString level ++ ";0;0m"
      else return ""
    | none => return ""

/-! ## Lines -/

/-- The line of a row that did not poll well: the ticker, then the feed's
refusal or the error (or `Unknown error` when it is empty) in 60 characters. -/
def errorLine (r : Row) (color : Bool) : Except Fault String := do
  let ticker ← leftCell 10 r.symbol
  let message : Value :=
    if r.status == .apiError then .str ("API error: " ++ r.error.display)
    else if r.error.truthy then r.error
    else .str "Unknown error"
  let cell ← leftCell 60 message
  return ticker ++ " | " ++ paint cell red color

/-- The line of a row that polled well. -/
def quoteLine (r : Row) (s : Quote.Summary) (color : Bool) : Except Fault String := do
  let ticker ← leftCell 10 s.symbol
  let ticker ← if color then do
      let bg ← crossoverBackground r
      pure (if bg.isEmpty then ticker else bg ++ ticker ++ reset)
    else pure ticker
  let price := Text.alignRight 11 (Decimal.fixedText s.lastClose 2 false)
  let price :=
    if color then
      (if 0.0 < s.change then onGreen else if s.change < 0.0 then onRed else "") ++ blue ++ price ++
        reset
    else price
  let change := paint (signed s.change 10 2) (signColor s.change) color
  let pct :=
    if s.changePercentValid then paint (signed s.changePercent 11 2 "%") (signColor s.changePercent) color
    else Text.alignRight 13 "N/A"
  let (macdCell, signalCell) :=
    match r.macd with
    | some m =>
      if m.valid && m.percentValid then
        (percentCell m.macdPercent color, percentCell m.signalPercent color)
      else (Text.alignRight 10 "N/A", Text.alignRight 10 "N/A")
    | none => (Text.alignRight 10 "N/A", Text.alignRight 10 "N/A")
  return " | ".intercalate [ticker, price, change, pct, macdCell, signalCell]

/-- The line of a row. -/
def rowLine (r : Row) (color : Bool) : Except Fault String :=
  match r.status, r.summary with
  | .ok, some s => quoteLine r s color
  | _, _ => errorLine r color

end Display

end QuoteMomentum
