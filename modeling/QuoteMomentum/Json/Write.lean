import QuoteMomentum.Value.Text

/-!
# Writing JSON documents

A value is written as a JSON text: objects and arrays with `", "` and `": "`
between their parts, texts in double quotes with the quote, the backslash, the
control characters and lone surrogates escaped, doubles in the short notation, and the three
doubles outside JSON as the words `NaN`, `Infinity` and `-Infinity`. A key
that is no text is written as the text of its value (`1` as `"1"`, `true` as
`"true"`, null as `"null"`). A tuple is written as an array; a value JSON
has no form for (bytes, dates, moments, sets) is written as the string of its
text.
-/

namespace QuoteMomentum.Json

/-- The escape of one code point inside a JSON string: a lone surrogate by
its `\u` escape, since no character is one. -/
def escapePoint (n : Nat) : String :=
  if n == 34 then "\\\""
  else if n == 92 then "\\\\"
  else if n == 10 then "\\n"
  else if n == 13 then "\\r"
  else if n == 9 then "\\t"
  else if n == 8 then "\\b"
  else if n == 12 then "\\f"
  else if n < 0x20 || Text.isSurrogate n then "\\u" ++ Text.hexPadded 4 n
  else String.ofList (Text.keepPoint n)

/-- A text as a JSON string. -/
def quote (s : String) : String :=
  "\"" ++ String.join ((Text.points s.toList).map escapePoint) ++ "\""

/-- A double as a JSON number, or one of the three words. -/
def numberText (x : Float) : String :=
  if x.isNaN then "NaN"
  else if x.isInf then (if x < 0 then "-Infinity" else "Infinity")
  else Decimal.shortText x

/-- A key as JSON writes it: texts as they are, other values as their text. -/
def keyText : Value → String
  | .str s => s
  | .null => "null"
  | .bool b => if b then "true" else "false"
  | .float x => numberText x
  | v => v.literal

mutual

/-- A value as a JSON text. -/
def render : Value → String
  | .null => "null"
  | .bool b => if b then "true" else "false"
  | .int n => toString n
  | .float x => numberText x
  | .str s => quote s
  | .list xs => "[" ++ renderItems xs ++ "]"
  | .tuple xs => "[" ++ renderItems xs ++ "]"
  | .dict es => "\x7b" ++ renderEntries es ++ "\x7d"
  | v => quote v.display

/-- Array items, separated by commas. -/
def renderItems : List Value → String
  | [] => ""
  | [x] => render x
  | x :: xs => render x ++ ", " ++ renderItems xs

/-- Object entries, separated by commas. -/
def renderEntries : List (Value × Value) → String
  | [] => ""
  | [(k, v)] => quote (keyText k) ++ ": " ++ render v
  | (k, v) :: es => quote (keyText k) ++ ": " ++ render v ++ ", " ++ renderEntries es

end

end QuoteMomentum.Json
