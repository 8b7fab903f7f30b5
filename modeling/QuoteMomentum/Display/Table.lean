import QuoteMomentum.Display.Row
import QuoteMomentum.Display.Stamp

/-!
# The dashboard table

The table is a title, a blank line, the header, a rule as long as the header,
a line per row, the rule again and a footer, each line ending in a newline.
The footer tells when the quotes were last updated (`never` before the first
poll) and, while waiting, either the seconds left before the next poll or,
when the refresh interval counts as true, the interval.

On screen the table is drawn after clearing the screen, when asked to; the
countdown between polls rewrites only the footer, the last line drawn.
-/

namespace QuoteMomentum.Display

/-- The first line of the table. -/
def title : String := "--- Terminal Stock Dashboard ---"

/-- The names of the columns, aligned as their cells are. -/
def header : String :=
  " | ".intercalate [Text.alignLeft 10 "Ticker", Text.alignRight 11 "Price",
    Text.alignRight 11 "Change", Text.alignRight 13 "% Change", Text.alignRight 10 "MACD%",
    Text.alignRight 10 "Signal%"]

/-- The rule above and below the rows: as long as the header. -/
def rule : String := Text.repeatChar header.length '-'

/-- Clears the screen and puts the cursor at its top. -/
def clearScreen : String := "\x1b[2J\x1b[H"

/-- Moves the cursor up a line and clears that line. -/
def rewriteLastLine : String := "\x1b[1A\r\x1b[K"

/-- The footer: the last update, then the countdown when one is given, else
the refresh interval when it counts as true. -/
def footer (lastUpdate : Option Stamp) (refresh : Value) (secondsLeft : Option Value) :
    Except Fault String := do
  let stamp := match lastUpdate with
    | some t => t.text
    | none => "never"
  let base := "Last updated: " ++ stamp
  match secondsLeft with
  | some v => return base ++ "  |  Updating in " ++ (← wholeCell 2 v) ++ "s  |  Ctrl+C to quit"
  | none =>
    if refresh.truthy then
      return base ++ "  |  Updating every " ++ refresh.display ++ "s  |  Ctrl+C to quit"
    else return base

/-- The whole table. -/
def table (rows : List Row) (lastUpdate : Option Stamp) (refresh : Value) (color : Bool) :
    Except Fault String := do
  let lines ← rows.mapM (rowLine · color)
  let foot ← footer lastUpdate refresh none
  return "\n".intercalate ([title, "", header, rule] ++ lines ++ [rule, foot]) ++ "\n"

/-- What drawing the table writes to the screen. -/
def screen (rows : List Row) (lastUpdate : Option Stamp) (refresh : Value) (color clear : Bool) :
    Except Fault String := do
  return (if clear then clearScreen else "") ++ (← table rows lastUpdate refresh color)

/-- What the countdown writes: the footer again, over the last line. -/
def countdown (secondsLeft : Value) (lastUpdate : Option Stamp) : Except Fault String := do
  return rewriteLastLine ++ (← footer lastUpdate .null (some secondsLeft)) ++ "\n"

end QuoteMomentum.Display
