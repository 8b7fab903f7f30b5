import QuoteMomentum.Fault
import QuoteMomentum.Value.Convert

/-!
# Timestamps of the last update

The footer of the table shows when the quotes were last updated, as
`YYYY-MM-DD HH:MM:SS` followed by the zone: `UTC` for a zero offset,
`UTC+05:30` (with seconds and microseconds when the offset has them) for any
other, and nothing for a time without an offset. The year is written without
leading zeros.

A timestamp is read from ISO 8601 text, by its UTF-8 bytes:

* a date `YYYY-MM-DD`, `YYYYMMDD`, or an ISO week date `YYYY-Www[-D]` /
  `YYYYWww[D]` (the first day of the week when the day is left out);
* then, optionally, any one character (of any width in UTF-8) and a time `HH[:MM[:SS]]` or
  `HH[MM[SS]]`, with a fraction after `.` or `,` of which the first six
  digits count;
* then, optionally, `Z` or a signed offset written like a time.

Where the separator sits is decided from the characters at positions 4, 5 and
8 alone, and a byte past the end reads as zero, so odd texts are read the same
way every time. The fields are then checked in order: the offset must be less
than a day either way, then year, month, day, hour, minute and second must be
in range.
-/

namespace QuoteMomentum

namespace Stamp

/-! ## Reading the text -/

/-- The byte at a position of a text; past the end it reads as zero. -/
def byteAt (bs : ByteArray) (i : Nat) : Nat :=
  if h : i < bs.size then bs[i].toNat else 0

/-- Whether a byte is an ASCII digit. -/
def isDigitByte (b : Nat) : Bool := 48 ≤ b && b ≤ 57

/-- The number that exactly `n` digits at position `i` spell. -/
def digitsAt (bs : ByteArray) (i : Nat) : Nat → Option Nat
  | 0 => some 0
  | n + 1 =>
    let b := byteAt bs i
    if isDigitByte b then (digitsAt bs (i + 1) n).map fun r => (b - 48) * Nat.pow 10 n + r
    else none

/-- The position of the first byte from `i` on that is not a digit. -/
def skipDigitBytes (bs : ByteArray) (i : Nat) : Nat :=
  i + ((bs.toList.drop i).takeWhile fun b => isDigitByte b.toNat).length

/-- The fields of a clock reading and whether bytes are left after it. -/
structure Clock where
  fields : List Nat
  micro : Nat
  more : Bool

/-- The fraction of a second at `p`, up to `stop`: its first six digits. -/
def fractionAt (bs : ByteArray) (fields : List Nat) (p stop : Nat) : Option Clock :=
  let n := min (stop - p) 6
  (digitsAt bs p n).map fun f =>
    ⟨fields, f * Nat.pow 10 (6 - n), byteAt bs (skipDigitBytes bs (p + n)) != 0⟩

/-- Reads up to three two-digit fields from `p`, separated by colons when the
first is followed by one, then a fraction; `stop` is where the reading must
end. -/
def clockFrom (bs : ByteArray) (stop : Nat) :
    (left : Nat) → (p : Nat) → (colons : Bool) → (fields : List Nat) → Option Clock
  | 0, p, _, fields => fractionAt bs fields p stop
  | left + 1, p, colons, fields => do
    let v ← digitsAt bs p 2
    let c := byteAt bs (p + 2)
    let colons := if fields.isEmpty then c == 58 else colons
    let fields := fields ++ [v]
    let p := p + 3
    if stop ≤ p then some ⟨fields, 0, c != 0⟩
    else if colons && c == 58 then clockFrom bs stop left p colons fields
    else if c == 46 || c == 44 then fractionAt bs fields p stop
    else if !colons then clockFrom bs stop left (p - 1) colons fields
    else none

/-- Reads a clock from `p` to `stop`. -/
def clockAt (bs : ByteArray) (p stop : Nat) : Option Clock := clockFrom bs stop 3 p false []

/-- A field of a clock reading, zero when it was left out. -/
def Clock.field (c : Clock) (i : Nat) : Nat := c.fields.getD i 0

/-- A time and its offset, read from `p` to the end of the text. -/
def timeAt (bs : ByteArray) (p : Nat) : Option (Clock × Option Int) := do
  let stop := bs.size
  if stop ≤ p then failure
  let zone := ((List.range (stop - p)).find? fun i =>
    let b := byteAt bs (p + i)
    b == 90 || b == 43 || b == 45).map (p + ·)
  match zone with
  | none =>
    let c ← clockAt bs p stop
    if c.more then none else some (c, none)
  | some z =>
    let c ← clockAt bs p z
    if byteAt bs z == 90 then
      if byteAt bs (z + 1) != 0 then none else some (c, some 0)
    else
      let o ← clockAt bs (z + 1) stop
      if o.more then failure
      let sign : Int := if byteAt bs z == 45 then -1 else 1
      let secs : Int := o.field 0 * 3600 + o.field 1 * 60 + o.field 2
      if secs == 0 then some (c, some 0)
      else some (c, some (sign * (secs * 1000000 + o.micro)))

/-- Where the date ends and the separator stands, from the bytes at
positions 4, 5 and 8; none when no date can end there. -/
def separatorAt (bs : ByteArray) : Option Nat :=
  let len := bs.size
  if len == 7 then some 7
  else if byteAt bs 4 == 45 then
    if byteAt bs 5 == 87 then
      if 8 < len && byteAt bs 8 == 45 then
        if len == 9 then none
        else if 10 < len && isDigitByte (byteAt bs 10) then some 8
        else some 10
      else some 8
    else some 10
  else if byteAt bs 4 == 87 then
    let idx := skipDigitBytes bs 7
    let idx := min idx len
    if idx < 9 then some idx else if idx % 2 == 0 then some 7 else some 8
  else some 8

/-- The date at the front, in `len` bytes. -/
def dateAt (bs : ByteArray) (len : Nat) : Option (Int × Nat × Nat) := do
  let year ← digitsAt bs 0 4
  let dashes := byteAt bs 4 == 45
  let p := if dashes then 5 else 4
  if byteAt bs p == 87 then
    let week ← digitsAt bs (p + 1) 2
    let p := p + 3
    if p < len then
      if dashes && byteAt bs p != 45 then failure
      let q := if dashes then p + 1 else p
      let day ← digitsAt bs q 1
      ofWeek year week day
    else ofWeek year week 1
  else
    let month ← digitsAt bs p 2
    let p := p + 2
    if dashes && byteAt bs p != 45 then failure
    let q := if dashes then p + 1 else p
    let day ← digitsAt bs q 2
    some (year, month, day)

/-- The bytes of the UTF-8 character that begins with byte `b`. -/
def charWidth (b : Nat) : Nat :=
  if b < 0x80 then 1
  else if b / 16 == 0xe then 3
  else if b / 16 == 0xf then 4
  else 2

/-- The fields of a timestamp text, before they are checked. -/
def fieldsOf (s : String) : Option Stamp := do
  -- read by the characters of its code points: a lone surrogate, which only
  -- the separator may be, is a character of three bytes like any other there
  let t := Text.plain s
  let bs := t.toUTF8
  if t.length < 7 then failure
  let sep ← separatorAt bs
  let (y, m, d) ← dateAt bs sep
  if sep < bs.size then
    let (c, offset) ← timeAt bs (sep + charWidth (byteAt bs sep))
    some ⟨y, m, d, c.field 0, c.field 1, c.field 2, c.micro, offset⟩
  else some ⟨y, m, d, 0, 0, 0, 0, none⟩

/-- The first field out of range, in the order they are checked. -/
def check (t : Stamp) : Option StampFault :=
  let day : Int := 86400 * 1000000
  let offsetFault : Option StampFault := match t.offset with
    | some o => if o ≤ -day || day ≤ o then some (.offsetRange o) else none
    | none => none
  offsetFault
  <|> (if t.year < 1 || 9999 < t.year then some (.yearRange t.year) else none)
  <|> (if t.month < 1 || 12 < t.month then some .monthRange else none)
  <|> (if t.day < 1 || daysIn t.year t.month < t.day then some .dayRange else none)
  <|> (if 23 < t.hour then some .hourRange else none)
  <|> (if 59 < t.minute then some .minuteRange else none)
  <|> (if 59 < t.second then some .secondRange else none)

/-- The timestamp an ISO 8601 text spells. -/
def ofIso (s : String) : Except Fault Stamp :=
  match fieldsOf s with
  | none => .error (.stamp (.notIso s))
  | some t =>
    match check t with
    | some f => .error (.stamp f)
    | none => .ok t

/-! ## Writing it -/

/-- The name of an offset from UTC given in microseconds: `UTC` for none,
else `UTC` and the offset. -/
def zoneName (o : Int) : String :=
  if o == 0 then "UTC" else "UTC" ++ offsetText o

/-- The moment as the footer shows it. -/
def text (t : Stamp) : String :=
  let zone := match t.offset with
    | some o => zoneName o
    | none => ""
  Text.strip (toString t.year ++ "-" ++ twoDigits t.month ++ "-" ++ twoDigits t.day ++ " " ++
    twoDigits t.hour ++ ":" ++ twoDigits t.minute ++ ":" ++ twoDigits t.second ++ " " ++ zone)

end Stamp

end QuoteMomentum
