import QuoteMomentum.Document.Resolve
import QuoteMomentum.Display.Stamp
import QuoteMomentum.Text.Case

/-!
# Scalars of the safe schema

The value a scalar node stands for, by its tag. Every reader works on the
text the node holds (for a mapping read as a scalar, the text of the value of
its `=` key) and fails the way the schema's constructors fail, so that a text
which does not fit its tag gives the same fault:

* `null` is null whatever the text; `str` is the text;
* `bool` looks the text up in lower case among `yes`, `no`, `true`, `false`,
  `on`, `off`; any other text is a missing key;
* `int` drops underscores, reads off one sign, and then needs a first
  character: `0` alone is zero, `0b` and `0x` prefix binary and hex digits, a
  leading `0` makes the whole text octal, a `:` makes it sexagesimal with each
  part a decimal number, and anything else is decimal;
* `float` likewise, in lower case: `.inf`, `.nan`, sexagesimal parts read as
  doubles, or one double;
* `timestamp` matches the timestamp pattern (a date alone may have one-digit
  month and day), then builds the offset, then the date and time, each with
  its range check;
* `binary` must be ASCII, and decodes as base64 does when it is lenient:
  characters outside the alphabet are skipped, and padding ends the data once
  a group holds two characters or more.

A `.nan` is one object wherever it is written, so two `.nan` keys are one key;
a NaN spelled any other way is an object of its own scalar. The payload of the
NaN records which: `sharedNaN` for the first, `nanOf i` for the scalar
numbered `i`.
-/

namespace QuoteMomentum.Document

/-! ## NaN objects -/

/-- The NaN every `.nan` of a document reads as. -/
def sharedNaN : Float := Float.ofBits 0x7FF8000000000001

/-- The NaN the scalar numbered `i` reads as when it spells a NaN otherwise
than `.nan`. -/
def nanOf (i : Nat) : Float := Float.ofBits (0x7FF8000000000002 + i.toUInt64)

/-! ## Signs -/

/-- The sign of a text and the text after it: only one leading `-` or `+` is
read off. The text must have a first character. -/
def signOf (t : String) : Except Fault (Bool × String) :=
  match t.toList with
  | [] => .error .noCharacter
  | '-' :: r => .ok (true, String.ofList r)
  | '+' :: r => .ok (false, String.ofList r)
  | r => .ok (false, String.ofList r)

/-! ## Booleans -/

/-- The boolean of a `bool` scalar. -/
def boolOf (text : String) : Except Fault Bool :=
  match Text.lower text with
  | "yes" | "true" | "on" => .ok true
  | "no" | "false" | "off" => .ok false
  | key => .error (.missingKey (.str key))

/-! ## Whole numbers -/

/-- The whole number of an `int` scalar. -/
def wholeOf (text : String) : Except Fault Int := do
  let (neg, t) ← signOf (text.replace "_" "")
  let signed (n : Int) : Int := if neg then -n else n
  if t == "0" then return 0
  else if t.startsWith "0b" then return signed (← Text.readWholeIn 2 (String.ofList (t.toList.drop 2)))
  else if t.startsWith "0x" then return signed (← Text.readWholeIn 16 (String.ofList (t.toList.drop 2)))
  else if t.isEmpty then throw .noCharacter
  else if t.startsWith "0" then return signed (← Text.readWholeIn 8 t)
  else if t.contains ':' then
    let parts ← (t.splitOn ":").mapM Text.readWhole
    let (total, _) := parts.reverse.foldl (fun (acc : Int × Int) d => (acc.1 + d * acc.2, acc.2 * 60)) (0, 1)
    return signed total
  else return signed (← Text.readWhole t)

/-! ## Doubles -/

/-- A text read as a double, or the fault of the float constructor. -/
def doubleOf (t : String) : Except Fault Float :=
  match Text.readDouble t with
  | some x => .ok x
  | none => .error (.notDoubleText t)

/-- The double of a `float` scalar, numbered `i`, before its NaN is told
apart. -/
def plainDoubleOf (text : String) : Except Fault Float := do
  let (neg, t) ← signOf (Text.lower (text.replace "_" ""))
  let signed (x : Float) : Float := if neg then -x else x
  if t == ".inf" then return signed Decimal.posInf
  else if t == ".nan" then return sharedNaN
  else if t.contains ':' then
    let parts ← (t.splitOn ":").mapM doubleOf
    let mut total : Float := 0.0
    let mut base : Int := 1
    for d in parts.reverse do
      total := total + d * (← Num.wholeToDouble base)
      base := base * 60
    return signed total
  else return signed (← doubleOf t)

/-- The double of the `float` scalar numbered `i`. -/
def doubleOfFloat (i : Nat) (text : String) : Except Fault Float := do
  let x ← plainDoubleOf text
  return if x.isNaN && x.toBits != sharedNaN.toBits then nanOf i else x

/-! ## Timestamps -/

/-- The value of a `timestamp` scalar whose text is `text`; `isText` tells
whether the node itself is a scalar, since the pattern is matched against the
node and a mapping is no text. -/
def timestampOf (isText : Bool) (text : String) : Except Fault Value := do
  if !isText then throw (.notTextLike "list")
  let cs := text.toList
  let tries := if cs.getLast? == some '\n' then [cs, cs.dropLast] else [cs]
  match (tries.filterMap (TimestampText.read? true)).head? with
  | none => throw (.noAttribute "NoneType" "groupdict")
  | some w =>
    let (hour, minute, second, fraction) := w.time.getD (0, 0, 0, [])
    let micro := digitsValue ((fraction.take 6) ++ List.replicate (6 - fraction.length) '0')
    let offset : Option Int := w.zone.map fun z =>
      match z with
      | none => 0
      | some (neg, h, m) =>
        let o : Int := ((h * 3600 + m * 60 : Nat) : Int) * 1000000
        if neg then -o else o
    let t : Stamp := ⟨w.year, w.month, w.day, hour, minute, second, micro, offset⟩
    match t.check with
    | some f => throw (.stamp f)
    | none => return if w.time.isSome then .moment t else .date t.year t.month t.day

/-! ## Base64 -/

/-- The six bits a base64 character stands for; none for a byte outside the
alphabet. -/
def sextet (n : Nat) : Option Nat :=
  if 65 ≤ n && n ≤ 90 then some (n - 65)
  else if 97 ≤ n && n ≤ 122 then some (n - 71)
  else if 48 ≤ n && n ≤ 57 then some (n + 4)
  else if n == 43 then some 62
  else if n == 47 then some 63
  else none

/-- Decodes base64 leniently. `quad` is how many characters of the current
group of four were read, `left` the bits of them not yet written, `pads` the
padding characters seen since the last character of data, and `out` the bytes
so far, last first. A group left with one character, or with two or three and
no padding to end it, is refused. -/
def decodeBase64 : List Nat → Nat → Nat → Nat → List UInt8 → Option (List UInt8)
  | [], quad, _, _, out => if quad == 0 then some out.reverse else none
  | c :: rest, quad, left, pads, out =>
    if c == 61 then
      if 2 ≤ quad && 4 ≤ quad + pads + 1 then some out.reverse
      else decodeBase64 rest quad left (if 2 ≤ quad then pads + 1 else pads) out
    else match sextet c with
      | none => decodeBase64 rest quad left pads out
      | some v =>
        match quad with
        | 0 => decodeBase64 rest 1 v 0 out
        | 1 => decodeBase64 rest 2 (v % 16) 0 ((left * 4 + v / 16).toUInt8 :: out)
        | 2 => decodeBase64 rest 3 (v % 4) 0 ((left * 16 + v / 4).toUInt8 :: out)
        | _ => decodeBase64 rest 0 0 0 ((left * 64 + v).toUInt8 :: out)

/-- The bytes of a `binary` scalar. -/
def bytesOf (text : String) : Except Fault (List UInt8) :=
  if text.toList.any (fun c => 127 < c.toNat) then .error .unreadable
  else match decodeBase64 (text.toList.map Char.toNat) 0 0 0 [] with
    | some bs => .ok bs
    | none => .error .unreadable

/-! ## By tag -/

/-- Whether a tag names a scalar of the safe schema. -/
def isScalarTag (tag : String) : Bool :=
  [Tag.null, Tag.bool, Tag.int, Tag.float, Tag.binary, Tag.timestamp, Tag.str].contains tag

/-- The value of the scalar numbered `i` with a tag of the safe schema, whose
text is `text`; `isText` tells whether the node is a scalar rather than a
mapping read as one. -/
def scalarValue (i : Nat) (tag : String) (isText : Bool) (text : String) : Except Fault Value :=
  if tag == Tag.null then .ok .null
  else if tag == Tag.str then .ok (.str text)
  else if tag == Tag.bool then .bool <$> boolOf text
  else if tag == Tag.int then .int <$> wholeOf text
  else if tag == Tag.float then .float <$> doubleOfFloat i text
  else if tag == Tag.timestamp then timestampOf isText text
  else if tag == Tag.binary then .bytes <$> bytesOf text
  else .error .unreadable

end QuoteMomentum.Document
