import QuoteMomentum.Document.Cursor

/-!
# Typing plain scalars

A plain scalar without a tag is typed by its text, in this order of rules
(YAML 1.1):

1. `bool`: `yes`, `no`, `true`, `false`, `on`, `off`, each in lower case,
   capitalized or upper case;
2. `float`: digits with a point and an optional exponent that needs a sign,
   `.` and digits, sexagesimal `1:30.5`, `.inf` with a sign, `.nan`;
3. `int`: `0b` binary, `0` octal, decimal, `0x` hex, sexagesimal `1:30`, all
   with an optional sign and `_` between digits;
4. `merge`: `<<`;
5. `null`: `~`, `null` in three cases, and the empty text;
6. `timestamp`: a date `2001-12-14`, or a date and a time with an optional
   fraction and zone;
7. `value`: `=`;
8. the tag of `!`, `&` and `*`, which no plain scalar can be.

Anything else is a `str`. A rule matches the whole text, or the text but a
final line end; the empty text is null, but a lone line end is a `str`, since
a text is only tried on the rules its first character can start.
-/

namespace QuoteMomentum.Document

namespace Tag

/-- A tag of the core schema. -/
def core (name : String) : String := "tag:yaml.org,2002:" ++ name

def str : String := core "str"
def null : String := core "null"
def bool : String := core "bool"
def int : String := core "int"
def float : String := core "float"
def timestamp : String := core "timestamp"
def merge : String := core "merge"
def value : String := core "value"
def seq : String := core "seq"
def map : String := core "map"
def binary : String := core "binary"
def set : String := core "set"
def omap : String := core "omap"
def pairs : String := core "pairs"

end Tag

/-! ## The rules -/

/-- Whether a character is an ASCII digit. -/
def isDecimalDigit (c : Char) : Bool := '0' ≤ c && c ≤ '9'

/-- The text without a leading sign. -/
def unsigned : List Char → List Char
  | '-' :: cs | '+' :: cs => cs
  | cs => cs

/-- Digits or `_`. -/
def isDigitOrMark (c : Char) : Bool := isDecimalDigit c || c == '_'

/-- Sexagesimal groups `:d` or `:[0-5]d`, one or more, followed by a text
that `stop` accepts. -/
def sexagesimalTail (stop : List Char → Bool) : List Char → Bool
  | ':' :: a :: b :: more =>
    ('0' ≤ a && a ≤ '5' && isDecimalDigit b &&
      (stop more || (more.head? == some ':' && sexagesimalTail stop more))) ||
    (isDecimalDigit a && (stop (b :: more) || (b == ':' && sexagesimalTail stop (b :: more))))
  | [':', a] => isDecimalDigit a && stop []
  | _ => false
termination_by cs => cs.length

/-- An exponent, `e` or `E` with a sign and digits, or nothing. -/
def isExponentOrNone : List Char → Bool
  | [] => true
  | e :: s :: ds => (e == 'e' || e == 'E') && (s == '-' || s == '+') && !ds.isEmpty &&
    ds.all isDecimalDigit
  | _ => false

/-- Whether a text spells a boolean. -/
def isBoolText (cs : List Char) : Bool :=
  ["yes", "Yes", "YES", "no", "No", "NO", "true", "True", "TRUE", "false", "False", "FALSE",
    "on", "On", "ON", "off", "Off", "OFF"].contains (String.ofList cs)

/-- Whether a text spells a double. -/
def isFloatText (cs : List Char) : Bool :=
  let pointed : Bool :=
    match unsigned cs with
    | d :: ds =>
      isDecimalDigit d &&
        match ds.dropWhile isDigitOrMark with
        | '.' :: frac => isExponentOrNone (frac.dropWhile isDigitOrMark)
        | _ => false
    | [] => false
  let bare : Bool :=
    match cs with
    | '.' :: d :: ds => isDecimalDigit d && isExponentOrNone (ds.dropWhile isDigitOrMark)
    | _ => false
  let fractionStop (rest : List Char) : Bool :=
    match rest with
    | '.' :: ds => ds.all isDigitOrMark
    | _ => false
  let sexagesimal : Bool :=
    match unsigned cs with
    | d :: ds => isDecimalDigit d && sexagesimalTail fractionStop (ds.dropWhile isDigitOrMark)
    | [] => false
  let special := [".inf", ".Inf", ".INF"].contains (String.ofList (unsigned cs)) ||
    [".nan", ".NaN", ".NAN"].contains (String.ofList cs)
  pointed || bare || sexagesimal || special

/-- Whether a text spells a whole number. -/
def isIntText (cs : List Char) : Bool :=
  match unsigned cs with
  | '0' :: 'b' :: ds => !ds.isEmpty && ds.all (fun c => c == '0' || c == '1' || c == '_')
  | '0' :: 'x' :: ds => !ds.isEmpty && ds.all (fun c => isHexDigit c || c == '_')
  | ['0'] => true
  | '0' :: ds => ds.all (fun c => ('0' ≤ c && c ≤ '7') || c == '_')
  | d :: ds =>
    '1' ≤ d && d ≤ '9' &&
      (ds.all isDigitOrMark || sexagesimalTail List.isEmpty (ds.dropWhile isDigitOrMark))
  | [] => false

/-! ## Timestamps -/

/-- The fields of a timestamp as written: the date, and the time with its
fraction digits and zone, when given. -/
structure TimestampText where
  year : Nat
  month : Nat
  day : Nat
  time : Option (Nat × Nat × Nat × List Char)
  /-- The zone: `Z`, or a sign with hours and minutes. -/
  zone : Option (Option (Bool × Nat × Nat))
  deriving Repr

/-- The number of a run of digits. -/
def digitsValue (ds : List Char) : Nat := ds.foldl (fun n d => 10 * n + (d.toNat - '0'.toNat)) 0

/-- A run of one or two digits, then the rest. -/
def shortNumber (cs : List Char) : Option (Nat × List Char) :=
  let ds := cs.takeWhile isDecimalDigit
  if ds.length == 1 || ds.length == 2 then some (digitsValue ds, cs.drop ds.length) else none

/-- Exactly two digits, then the rest. -/
def twoDigitNumber : List Char → Option (Nat × List Char)
  | a :: b :: rest => if isDecimalDigit a && isDecimalDigit b then some (digitsValue [a, b], rest) else none
  | _ => none

/-- The zone of a timestamp: blanks, then `Z` or a sign, hours and optional
minutes, ending the text. -/
def zoneText (cs : List Char) : Option (Option (Bool × Nat × Nat)) :=
  match cs.dropWhile (fun c => c == ' ' || c == '\t') with
  | ['Z'] => some none
  | s :: rest =>
    if s == '-' || s == '+' then do
      let (h, rest) ← shortNumber rest
      match rest with
      | [] => some (some (s == '-', h, 0))
      | ':' :: rest =>
        let (m, rest) ← twoDigitNumber rest
        if rest.isEmpty then some (some (s == '-', h, m)) else none
      | _ => none
    else none
  | [] => none

/-- Reads a timestamp text. A date alone has a month and a day of two digits
each, unless `shortDate`, which allows one digit for either, as the reading of
a scalar tagged `timestamp` does. -/
def TimestampText.read? (shortDate : Bool) (cs : List Char) : Option TimestampText := do
  let year := cs.take 4
  guard (year.length == 4 && year.all isDecimalDigit)
  let rest := cs.drop 4
  match rest with
  | '-' :: a :: b :: '-' :: c :: d :: [] =>
    if [a, b, c, d].all isDecimalDigit then
      some ⟨digitsValue year, digitsValue [a, b], digitsValue [c, d], none, none⟩
    else none
  | '-' :: rest =>
    let (month, rest) ← shortNumber rest
    let rest ← match rest with
      | '-' :: rest => some rest
      | _ => none
    let (day, rest) ← shortNumber rest
    if shortDate && rest.isEmpty then return ⟨digitsValue year, month, day, none, none⟩
    let rest ← match rest with
      | 'T' :: rest | 't' :: rest => some rest
      | c :: rest => if c == ' ' || c == '\t' then some (rest.dropWhile (fun c => c == ' ' || c == '\t')) else none
      | [] => none
    let (hour, rest) ← shortNumber rest
    let rest ← match rest with
      | ':' :: rest => some rest
      | _ => none
    let (minute, rest) ← twoDigitNumber rest
    let rest ← match rest with
      | ':' :: rest => some rest
      | _ => none
    let (second, rest) ← twoDigitNumber rest
    let (fraction, rest) := match rest with
      | '.' :: rest => (rest.takeWhile isDecimalDigit, rest.dropWhile isDecimalDigit)
      | rest => ([], rest)
    let zone ← if rest.isEmpty then some none else some <$> zoneText rest
    some ⟨digitsValue year, month, day, some (hour, minute, second, fraction), zone⟩
  | _ => none

/-! ## Resolution -/

/-- The text a rule is tried on: the whole text, and the text but a final
line end. -/
def ruleTexts (text : String) : List (List Char) :=
  let cs := text.toList
  if cs.getLast? == some '\n' then [cs, cs.dropLast] else [cs]

/-- The tag of a plain scalar, by the first rule its text matches. -/
def resolve (text : String) : String :=
  let holds (rule : List Char → Bool) := (ruleTexts text).any rule
  if holds isBoolText then Tag.bool
  else if holds isFloatText then Tag.float
  else if holds isIntText then Tag.int
  else if holds (· == ['<', '<']) then Tag.merge
  else if text.isEmpty || holds (fun cs => cs == ['~'] || ["null", "Null", "NULL"].contains (String.ofList cs)) then
    Tag.null
  else if holds (fun cs => (TimestampText.read? false cs).isSome) then Tag.timestamp
  else if holds (· == ['=']) then Tag.value
  else if holds (fun cs => cs == ['!'] || cs == ['&'] || cs == ['*']) then core "yaml"
  else Tag.str
where
  core (name : String) : String := Tag.core name

end QuoteMomentum.Document
