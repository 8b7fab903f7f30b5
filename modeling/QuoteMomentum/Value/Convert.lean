import QuoteMomentum.Value.Number
import QuoteMomentum.Decimal.Read

/-!
# Numbers read from text

A text becomes a number the way the number constructors read one. Every
character outside ASCII is first read as an ASCII one: white space as a space,
a decimal digit of any script as its ASCII digit, and anything else as `?`,
which no numeral holds. ASCII white space at either end is then dropped.

* A double is an optional sign followed by `inf`, `infinity` or `nan` in any
  case, or by a decimal numeral: digits with an optional point (at least one
  digit on either side of it) and an optional exponent `e` or `E` with its
  own sign and digits. Single underscores may stand between two digits.
* A whole number is an optional sign followed by decimal digits, again with
  single underscores between digits. More than 4300 digits are refused
  before anything after them is looked at, and a whole number of more than
  4300 digits is not written out either (`Text.ofWhole`).

A byte string reads as a double the same way, byte by byte: only ASCII bytes
can take part in a numeral, and only ASCII white space is dropped.

Trimming white space off a text (`Text.strip`) uses the wider Unicode set,
the control separators `\x1c`..`\x1f` included, which the numeral reader keeps
and then refuses.
-/

namespace QuoteMomentum

namespace Text

/-! ## White space and digits -/

/-- Whether a character is white space to trimming. -/
def isSpace (c : Char) : Bool :=
  let n := c.toNat
  (9 ≤ n && n ≤ 13) || (28 ≤ n && n ≤ 32) || n == 0x85 || n == 0xA0 || n == 0x1680 ||
    (0x2000 ≤ n && n ≤ 0x200A) || n == 0x2028 || n == 0x2029 || n == 0x202F ||
    n == 0x205F || n == 0x3000

/-- A text without white space at either end. -/
def strip (s : String) : String :=
  String.ofList ((s.toList.dropWhile isSpace).reverse.dropWhile isSpace).reverse

/-- The first code point of each run of ten decimal digits, zero to nine, in
the character table. -/
def digitZeros : List Nat :=
  [0x30, 0x660, 0x6f0, 0x7c0, 0x966, 0x9e6, 0xa66, 0xae6, 0xb66, 0xbe6, 0xc66, 0xce6,
    0xd66, 0xde6, 0xe50, 0xed0, 0xf20, 0x1040, 0x1090, 0x17e0, 0x1810, 0x1946, 0x19d0,
    0x1a80, 0x1a90, 0x1b50, 0x1bb0, 0x1c40, 0x1c50, 0xa620, 0xa8d0, 0xa900, 0xa9d0,
    0xa9f0, 0xaa50, 0xabf0, 0xff10, 0x104a0, 0x10d30, 0x11066, 0x110f0, 0x11136,
    0x111d0, 0x112f0, 0x11450, 0x114d0, 0x11650, 0x116c0, 0x11730, 0x118e0, 0x11950,
    0x11c50, 0x11d50, 0x11da0, 0x16a60, 0x16ac0, 0x16b50, 0x1d7ce, 0x1d7d8, 0x1d7e2,
    0x1d7ec, 0x1d7f6, 0x1e140, 0x1e2f0, 0x1e950, 0x1fbf0]

/-- The ASCII character a character counts as in a numeral. -/
def numeralChar (c : Char) : Char :=
  if c.toNat < 127 then c
  else if isSpace c then ' '
  else match digitZeros.find? (fun z => z ≤ c.toNat && c.toNat < z + 10) with
    | some z => Char.ofNat (48 + (c.toNat - z))
    | none => '?'

/-- Whether a character is ASCII white space. -/
def isAsciiSpace (c : Char) : Bool := c == ' ' || ('\t' ≤ c && c ≤ '\r')

/-- The characters of a numeral: each read as ASCII, without white space at
either end. -/
def numeralChars (s : String) : List Char :=
  let cs := (s.toList.map numeralChar).dropWhile isAsciiSpace
  (cs.reverse.dropWhile isAsciiSpace).reverse

/-- A leading sign, read off: whether it is a minus, and the rest. -/
def sign : List Char → Bool × List Char
  | '-' :: r => (true, r)
  | '+' :: r => (false, r)
  | r => (false, r)

/-! ## Doubles -/

/-- The characters without their underscores, when every underscore stands
between two digits; `prev` is the character before them. -/
def joinDigits (prev : Char) : List Char → Option (List Char)
  | [] => if prev == '_' then none else some []
  | c :: rest =>
    if c == '_' then
      if prev.isDigit then joinDigits c rest else none
    else if prev == '_' && !c.isDigit then none
    else (joinDigits c rest).map (c :: ·)

/-- The exponent of a numeral, after its `e`: an optional sign and at least
one digit, and nothing after them. -/
def exponentPart (cs : List Char) : Option (Bool × List Char) :=
  let (neg, r) := sign cs
  let ds := r.takeWhile Char.isDigit
  if ds.isEmpty || !(r.dropWhile Char.isDigit).isEmpty then none else some (neg, ds)

/-- The double an ASCII numeral without underscores spells, if it spells one. -/
def numeralDouble (cs : List Char) : Option Float :=
  let (neg, rest) := sign cs
  let word := String.ofList (rest.map Char.toLower)
  if word == "inf" || word == "infinity" then
    some (if neg then -Decimal.posInf else Decimal.posInf)
  else if word == "nan" then some Decimal.quietNaN
  else
    let whole := rest.takeWhile Char.isDigit
    let (frac, tail) := match rest.dropWhile Char.isDigit with
      | '.' :: r => (r.takeWhile Char.isDigit, r.dropWhile Char.isDigit)
      | r => ([], r)
    if whole.isEmpty && frac.isEmpty then none
    else match tail with
      | [] => some (Decimal.readNumeral neg whole frac false [])
      | e :: r =>
        if e == 'e' || e == 'E' then
          (exponentPart r).map fun (eneg, ds) => Decimal.readNumeral neg whole frac eneg ds
        else none

/-- The double a text spells, if it spells one. -/
def readDouble (s : String) : Option Float :=
  let cs := numeralChars s
  if cs.contains '_' then (joinDigits '\x00' cs).bind numeralDouble else numeralDouble cs

/-! ## Whole numbers -/

/-- The digits at the front, without their single underscores, and what
follows them; `none` when two underscores meet or one ends the digits. -/
def scanDigits (prev : Char) : List Char → Option (List Char × List Char)
  | [] => if prev == '_' then none else some ([], [])
  | c :: rest =>
    if c.isDigit then (scanDigits c rest).map fun (ds, r) => (c :: ds, r)
    else if c == '_' then if prev == '_' then none else scanDigits c rest
    else if prev == '_' then none
    else some ([], c :: rest)

/-- The most digits a whole number in a text may have. -/
def maxDigits : Nat := 4300

/-- The whole number a text spells. -/
def readWhole (s : String) : Except Fault Int :=
  let (neg, body) := sign (numeralChars s)
  if body.head? == some '_' then .error (.notWholeText s)
  else match scanDigits '0' body with
    | none => .error (.notWholeText s)
    | some (ds, rest) =>
      if maxDigits < ds.length then .error (.tooManyDigits ds.length)
      else if ds.isEmpty || !rest.isEmpty then .error (.notWholeText s)
      else
        let n : Int := Decimal.digitsValue ds
        .ok (if neg then -n else n)

/-- A whole number written in decimal, when it has at most `maxDigits`
digits. -/
def ofWhole (n : Int) : Except Fault String :=
  if n.natAbs < Nat.pow 10 maxDigits then .ok (toString n) else .error .tooManyDigitsToWrite

/-- The value of a letter or digit as a digit of a base up to 36. -/
def digitValue (c : Char) : Option Nat :=
  if '0' ≤ c && c ≤ '9' then some (c.toNat - '0'.toNat)
  else if 'a' ≤ c && c ≤ 'z' then some (c.toNat - 'a'.toNat + 10)
  else if 'A' ≤ c && c ≤ 'Z' then some (c.toNat - 'A'.toNat + 10)
  else none

/-- The digits of a base at the front, with single underscores between them,
as values; `none` when any other character follows or an underscore is not
between two digits. -/
def baseDigits (base : Nat) (prev : Char) : List Char → Option (List Nat)
  | [] => if prev == '_' then none else some []
  | c :: rest =>
    if c == '_' then if prev == '_' then none else baseDigits base c rest
    else match digitValue c with
      | some d => if d < base then (baseDigits base c rest).map (d :: ·) else none
      | none => none

/-- The whole number a text spells in base 2, 8 or 16: an optional sign, an
optional prefix `0b`, `0o` or `0x` of that base (an underscore may follow it),
then digits of the base with single underscores between them. There is no
limit on the number of digits in these bases. -/
def readWholeIn (base : Nat) (s : String) : Except Fault Int :=
  let (neg, body) := sign (numeralChars s)
  let marker := if base == 2 then 'b' else if base == 8 then 'o' else 'x'
  let (prefixed, digits) := match body with
    | '0' :: m :: r => if m.toLower == marker then (true, r) else (false, body)
    | _ => (false, body)
  let digits := if prefixed && digits.head? == some '_' then digits.drop 1 else digits
  if digits.head? == some '_' then .error (.notWholeInBase base s)
  else match baseDigits base '0' digits with
    | some [] | none => .error (.notWholeInBase base s)
    | some ds =>
      let n : Int := (ds.foldl (fun acc d => base * acc + d) 0 : Nat)
      .ok (if neg then -n else n)

end Text

/-- A byte as a character of a numeral: itself when ASCII, else `?`, which no
numeral holds. -/
def Text.byteChar (b : UInt8) : Char := if b.toNat < 128 then Char.ofNat b.toNat else '?'

/-- A value as a double, the way the float constructor takes it: a boolean is
0 or 1, a whole number must be within the range of doubles, and a text or a
byte string must spell a double. -/
def Value.toDouble : Value → Except Fault Float
  | .bool b => .ok (if b then 1.0 else 0.0)
  | .int n => Num.wholeToDouble n
  | .float x => .ok x
  | .str s => match Text.readDouble s with
    | some x => .ok x
    | none => .error (.notDoubleText s)
  | .bytes bs => match Text.readDouble (String.ofList (bs.map Text.byteChar)) with
    | some x => .ok x
    | none => .error (.notDoubleBytes bs)
  | v => .error (.notReal v.typeName)

end QuoteMomentum
