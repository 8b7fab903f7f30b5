import QuoteMomentum.Value.Basic
import QuoteMomentum.Decimal.Notation
import QuoteMomentum.Text.Quoted

/-!
# Values as text

A value has two texts. Its *literal* is how messages quote it: `None`,
`True`, `2`, `2.0`, `'2'`, `b'hi'`, `['a', 1]`, `('a', 1)`, `{'k': None}`;
doubles in the short notation of `Decimal.Notation`, texts quoted by
`Text.quoted`, byte strings by `Text.quotedBytes`, dates and moments by the
literals of `Calendar`. A tuple of one item keeps a final comma, `(1,)`, and
the empty set is `set()`. Its *display* is how it reads when inserted into a
sentence: a text stands as it is, a date or moment is its ISO 8601 text (with
a space between date and time), every other value is its literal.
-/

namespace QuoteMomentum.Value

mutual

/-- The literal of a value, as error messages quote it. -/
def literal : Value → String
  | null => "None"
  | bool b => if b then "True" else "False"
  | int n => toString n
  | float x => Decimal.shortText x
  | str s => Text.quoted s
  | bytes bs => Text.quotedBytes bs
  | date y m d => Stamp.dateLiteral y m d
  | moment t => t.literal
  | list xs => "[" ++ literalItems xs ++ "]"
  | tuple [x] => "(" ++ literal x ++ ",)"
  | tuple xs => "(" ++ literalItems xs ++ ")"
  | set [] => "set()"
  | set xs => "\x7b" ++ literalItems xs ++ "\x7d"
  | dict es => "\x7b" ++ literalEntries es ++ "\x7d"
  | enclosing m => if m then "\x7b...\x7d" else "[...]"

/-- The literals of list items, separated by commas. -/
def literalItems : List Value → String
  | [] => ""
  | [x] => literal x
  | x :: xs => literal x ++ ", " ++ literalItems xs

/-- The entries of a mapping as `key: value`, separated by commas. -/
def literalEntries : List (Value × Value) → String
  | [] => ""
  | [(k, v)] => literal k ++ ": " ++ literal v
  | (k, v) :: es => literal k ++ ": " ++ literal v ++ ", " ++ literalEntries es

end

/-- The display of a value: a text as it is, a date or moment as its ISO 8601
text, anything else as its literal. -/
def display : Value → String
  | str s => s
  | date y m d => Stamp.dateText y m d
  | moment t => t.isoText " "
  | v => literal v

end QuoteMomentum.Value
