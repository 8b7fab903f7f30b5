import QuoteMomentum.Value.Basic
import QuoteMomentum.Decimal.Read
import QuoteMomentum.Text.Classes
import QuoteMomentum.Text.Points

/-!
# Reading JSON documents

A JSON text reads as a `Value`. Beyond the standard grammar the reader takes
the words `NaN`, `Infinity` and `-Infinity` as doubles, whole numbers of any
size (up to 4300 digits), and a repeated key of an object, whose last value
wins at the key's first place. A number with a point or an exponent is a
double, any other a whole number.

The text read is kept (see `Text.points`): its characters go into strings as
they are, and a `\u` escape puts in the kept form of its code point, so a lone
surrogate escape gives a lone surrogate.

A text that is no document is refused with the first complaint met, at the
position of the character where reading stopped; positions count code points
from zero, lines and columns from one. The complaints and where they are
raised:

* `Expecting value` where no value starts (also a lone `-`, or a number
  starting with a point);
* `Expecting property name enclosed in double quotes` where an object key
  should start, including after a trailing comma;
* `Expecting ':' delimiter` and `Expecting ',' delimiter` where those should
  stand;
* `Unterminated string starting at` the opening quote, `Invalid control
  character at` a raw character below U+0020 inside a string, `Invalid \escape`
  at the backslash of an unknown escape, and `Invalid \uXXXX escape` at the `u`
  of a short or malformed one;
* `Extra data` where text follows a complete document.

A number stops where its grammar stops: `1.` reads `1` and leaves `.`, so the
complaint is `Extra data`. Blanks are space, tab, newline and carriage return.

Arrays and objects nest at most `room` deep; opening one more is refused with
`tooDeep` when it is met, before anything after it is looked at. Feed bodies
are read with `nestingLimit` levels, what the interpreter's limit of 1000
nested calls leaves once the calls that lead to the reader are counted.
-/

namespace QuoteMomentum.Json

/-- Why a text is no document. -/
inductive ReadError where
  /-- Reading stopped at a character position with a complaint. -/
  | at (what : String) (pos line col : Nat)
  /-- A whole number with more digits than are read. -/
  | tooManyDigits (digits : Nat)
  /-- An array (or, when not `array`, an object) nested one level deeper than
  the reader goes. -/
  | tooDeep (array : Bool)
  deriving Repr, DecidableEq

/-- How deep a feed body may nest. -/
def nestingLimit : Nat := 988

/-- Where the reader stopped when a document nested too deep. -/
def nestingWhere (array : Bool) : String :=
  " while decoding a JSON " ++ (if array then "array" else "object") ++ " from a unicode string"

/-- The message of a read error. -/
def ReadError.message : ReadError → String
  | .at w p l c => w ++ ": line " ++ toString l ++ " column " ++ toString c ++ " (char " ++ toString p ++ ")"
  | .tooManyDigits n =>
    "Exceeds the limit (4300 digits) for integer string conversion: value has " ++ toString n ++
      " digits; use sys.set_int_max_str_digits() to increase the limit"
  | .tooDeep a => "maximum recursion depth exceeded" ++ nestingWhere a

/-- A complaint at position `pos` of the text `s`, with its line and column,
counted in code points: a pair of the kept text is one. -/
def complaint (s : Array Char) (what : String) (pos : Nat) : ReadError :=
  let before := s.toList.take pos
  let width (cs : List Char) : Nat := cs.length - cs.count Text.mark
  let line := before.count '\n' + 1
  let col := match before.reverse.findIdx? (· == '\n') with
    | some k => width (before.reverse.take k) + 1
    | none => width before + 1
  .at what (width before) line col

/-- The blanks between tokens. -/
def isBlank (c : Char) : Bool := c == ' ' || c == '\t' || c == '\n' || c == '\r'

/-- Whether `c` is an ASCII digit. -/
def isDigit (c : Char) : Bool := '0' ≤ c && c ≤ '9'

/-- The first position at or after `i` that holds no blank. -/
def skipBlanks (s : Array Char) (i : Nat) : Nat :=
  if h : i < s.size then
    if isBlank s[i] then skipBlanks s (i + 1) else i
  else i
termination_by s.size - i

/-- The first position at or after `i` that holds no digit. -/
def skipDigits (s : Array Char) (i : Nat) : Nat :=
  if h : i < s.size then
    if isDigit s[i] then skipDigits s (i + 1) else i
  else i
termination_by s.size - i

/-- The characters of `s` from `i` up to `j`. -/
def slice (s : Array Char) (i j : Nat) : List Char := (s.toList.drop i).take (j - i)

/-- Whether the text at `i` spells `word`. -/
def spells (s : Array Char) (i : Nat) (word : String) : Bool :=
  slice s i (i + word.length) == word.toList

/-- The value of a hex digit. -/
def hexValue (c : Char) : Option Nat :=
  if isDigit c then some (c.toNat - 48)
  else if 'a' ≤ c && c ≤ 'f' then some (c.toNat - 87)
  else if 'A' ≤ c && c ≤ 'F' then some (c.toNat - 55)
  else none

/-- The value of four hex digits at `i`. -/
def hex4 (s : Array Char) (i : Nat) : Option Nat :=
  (slice s i (i + 4)).foldl (fun acc c => do return 16 * (← acc) + (← hexValue c)) (some 0)

/-- The kept characters of a code point, last first, to go in front of the
characters read so far. -/
def charsOf (n : Nat) : List Char := (Text.keepPoint n).reverse

/-- The character that a one-letter escape stands for. -/
def escapeOf (c : Char) : Option Char :=
  match c with
  | '"' => some '"'
  | '\\' => some '\\'
  | '/' => some '/'
  | 'b' => some '\x08'
  | 'f' => some '\x0c'
  | 'n' => some '\n'
  | 'r' => some '\r'
  | 't' => some '\t'
  | _ => none

/-- Reads the rest of a string whose opening quote is at `start`, from
position `i`, with the characters read so far reversed in `acc`. Gives the
text and the position after the closing quote. -/
def stringRest (s : Array Char) (start : Nat) (i : Nat) (acc : List Char) :
    Except ReadError (String × Nat) :=
  if h : i < s.size then
    let c := s[i]
    if c == '"' then .ok (String.ofList acc.reverse, i + 1)
    else if c == '\\' then
      if h1 : i + 1 < s.size then
        let e := s[i + 1]
        if e == 'u' then
          -- four hex digits, and at least one character after them
          if s.size ≤ i + 6 then .error (complaint s "Invalid \\uXXXX escape" (i + 1))
          else match hex4 s (i + 2) with
            | none => .error (complaint s "Invalid \\uXXXX escape" (i + 1))
            | some hi =>
              if 0xd800 ≤ hi && hi ≤ 0xdbff && i + 12 < s.size && s[i + 6]? == some '\\' && s[i + 7]? == some 'u' then
                match hex4 s (i + 8) with
                | none => .error (complaint s "Invalid \\uXXXX escape" (i + 7))
                | some lo =>
                  if 0xdc00 ≤ lo && lo ≤ 0xdfff then
                    -- each surrogate of the pair gives its low ten bits
                    stringRest s start (i + 12)
                      (charsOf (0x10000 + hi % 0x400 * 0x400 + lo % 0x400) ++ acc)
                  else stringRest s start (i + 6) (charsOf hi ++ acc)
              else stringRest s start (i + 6) (charsOf hi ++ acc)
        else match escapeOf e with
          | some c' => stringRest s start (i + 2) (c' :: acc)
          | none => .error (complaint s "Invalid \\escape" i)
      else .error (complaint s "Unterminated string starting at" start)
    else if c.toNat < 0x20 then .error (complaint s "Invalid control character at" i)
    else stringRest s start (i + 1) (c :: acc)
  else .error (complaint s "Unterminated string starting at" start)
termination_by s.size - i

/-- Reads a number at `i`, if one starts there: its value and the position
after it. -/
def numberAt (s : Array Char) (i : Nat) : Option (Except ReadError (Value × Nat)) :=
  let neg := s[i]? == some '-'
  let j := if neg then i + 1 else i
  let wholeEnd : Option Nat :=
    match s[j]? with
    | some c => if '1' ≤ c && c ≤ '9' then some (skipDigits s (j + 1))
      else if c == '0' then some (j + 1) else none
    | none => none
  wholeEnd.map fun k =>
    let fracEnd :=
      if s[k]? == some '.' && (s[k + 1]?.map isDigit).getD false then skipDigits s (k + 2) else k
    let expo : Option (Nat × Bool × Nat) :=
      if s[fracEnd]? == some 'e' || s[fracEnd]? == some 'E' then
        let signed := s[fracEnd + 1]? == some '-' || s[fracEnd + 1]? == some '+'
        let ds := if signed then fracEnd + 2 else fracEnd + 1
        let stop := skipDigits s ds
        if ds < stop then some (ds, s[fracEnd + 1]? == some '-', stop) else none
      else none
    let whole := slice s j k
    let frac := if fracEnd = k then [] else slice s (k + 1) fracEnd
    match expo with
    | some (ds, expNeg, stop) =>
      .ok (.float (Decimal.readNumeral neg whole frac expNeg (slice s ds stop)), stop)
    | none =>
      if fracEnd ≠ k then .ok (.float (Decimal.readNumeral neg whole frac false []), fracEnd)
      else if 4300 < whole.length then .error (.tooManyDigits whole.length)
      else
        let n : Int := Decimal.digitsValue whole
        .ok (.int (if neg then -n else n), k)

mutual

/-- Reads a value at `i` (no blanks before it): the value and the position
after it. `fuel` bounds the depth and length of what is read; `room` is how
many more levels arrays and objects may nest. -/
def value (fuel room : Nat) (s : Array Char) (i : Nat) : Except ReadError (Value × Nat) :=
  match fuel with
  | 0 => .error (complaint s "Expecting value" i)
  | fuel + 1 =>
    match s[i]? with
    | some '"' => do
      let (t, j) ← stringRest s i (i + 1) []
      return (.str t, j)
    | some '{' =>
      if room == 0 then .error (.tooDeep false)
      else objectFrom fuel (room - 1) s (skipBlanks s (i + 1)) [] true
    | some '[' =>
      if room == 0 then .error (.tooDeep true)
      else arrayFrom fuel (room - 1) s (skipBlanks s (i + 1)) [] true
    | _ =>
      if spells s i "null" then .ok (.null, i + 4)
      else if spells s i "true" then .ok (.bool true, i + 4)
      else if spells s i "false" then .ok (.bool false, i + 5)
      else if spells s i "NaN" then .ok (.float Decimal.quietNaN, i + 3)
      else if spells s i "Infinity" then .ok (.float Decimal.posInf, i + 8)
      else if spells s i "-Infinity" then .ok (.float (-Decimal.posInf), i + 9)
      else match numberAt s i with
        | some r => r
        | none => .error (complaint s "Expecting value" i)

/-- Reads the items of an array from `i` (after blanks), the items read so far
reversed in `acc`; `first` tells whether no item was read yet. -/
def arrayFrom (fuel room : Nat) (s : Array Char) (i : Nat) (acc : List Value) (first : Bool) :
    Except ReadError (Value × Nat) :=
  match fuel with
  | 0 => .error (complaint s "Expecting value" i)
  | fuel + 1 =>
    if first && s[i]? == some ']' then .ok (.list [], i + 1)
    else do
      let (v, j) ← value fuel room s i
      let k := skipBlanks s j
      if s[k]? == some ']' then return (.list (v :: acc).reverse, k + 1)
      else if s[k]? == some ',' then arrayFrom fuel room s (skipBlanks s (k + 1)) (v :: acc) false
      else throw (complaint s "Expecting ',' delimiter" k)

/-- Reads the entries of an object from `i` (after blanks), the entries read
so far in `acc`; `first` tells whether no entry was read yet. -/
def objectFrom (fuel room : Nat) (s : Array Char) (i : Nat) (acc : List (Value × Value))
    (first : Bool) :
    Except ReadError (Value × Nat) :=
  match fuel with
  | 0 => .error (complaint s "Expecting value" i)
  | fuel + 1 =>
    if first && s[i]? == some '}' then .ok (.dict [], i + 1)
    else if s[i]? != some '"' then
      .error (complaint s "Expecting property name enclosed in double quotes" i)
    else do
      let (key, j) ← stringRest s i (i + 1) []
      let j := skipBlanks s j
      if s[j]? != some ':' then throw (complaint s "Expecting ':' delimiter" j)
      let (v, k) ← value fuel room s (skipBlanks s (j + 1))
      let acc := Value.setEntry acc (.str key) v
      let k := skipBlanks s k
      if s[k]? == some '}' then return (.dict acc, k + 1)
      else if s[k]? == some ',' then objectFrom fuel room s (skipBlanks s (k + 1)) acc false
      else throw (complaint s "Expecting ',' delimiter" k)

end

/-- Reads a whole text as one document, blanks around it allowed, nested at
most `room` deep. -/
def readChars (room : Nat) (s : Array Char) : Except ReadError Value := do
  let (v, j) ← value (2 * s.size + 2) room s (skipBlanks s 0)
  let k := skipBlanks s j
  if k < s.size then throw (complaint s "Extra data" k)
  return v

/-- Reads a text as one document, nested as deep as it likes. A text that
starts with a byte-order mark is refused: the mark belongs to an encoding, not
to the text. -/
def read (t : String) : Except ReadError Value :=
  let s := t.toList.toArray
  if s[0]? == some '﻿' then .error (complaint s "Unexpected UTF-8 BOM (decode using utf-8-sig)" 0)
  else readChars s.size s

end QuoteMomentum.Json
