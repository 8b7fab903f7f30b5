import QuoteMomentum.Text.Classes
import QuoteMomentum.Text.Points

/-!
# Texts written as quoted literals

Error messages show an offending text as a literal: in single quotes, or in
double quotes when the text holds a single quote and no double quote. Inside,
the chosen quote and the backslash are escaped, tab, newline and carriage
return take their short escapes, and a code point that does not print (a
lone surrogate among them) is written by its code: `\xhh` up to `ff`, `\uhhhh`
up to `ffff`, `\Uhhhhhhhh` beyond, in lower-case hex. Printable characters,
ASCII or not, stand as they are. The text is read as code points
(`Text.points`).

Which characters print is the table `Text.unprintable` of `Text.Classes`.

Byte strings are written the same way with a `b` in front, except that every
byte below the space or from `7f` up takes the `\xhh` escape.
-/

namespace QuoteMomentum.Text

/-- The lower-case hex digit of `d < 16`. -/
def hexDigit (d : Nat) : Char :=
  if d < 10 then Char.ofNat (48 + d) else Char.ofNat (87 + d)

/-- `n` in lower-case hex, padded with zeros to `width` digits. -/
def hexPadded (width n : Nat) : String :=
  String.ofList ((List.range width).reverse.map (fun i => hexDigit (n / Nat.pow 16 i % 16)))

/-- The escape of one code point inside a literal quoted by `q`. Surrogates
and `U+10FFFF` do not print, so a printable point is its own character. -/
def escapePoint (q : Char) (n : Nat) : String :=
  if n == q.toNat || n == 92 then String.ofList ['\\', Char.ofNat n]
  else if n == 9 then "\\t"
  else if n == 10 then "\\n"
  else if n == 13 then "\\r"
  else if isPrintable n then String.singleton (Char.ofNat n)
  else if n ≤ 0xff then "\\x" ++ hexPadded 2 n
  else if n ≤ 0xffff then "\\u" ++ hexPadded 4 n
  else "\\U" ++ hexPadded 8 n

/-- The quote a text is written in: double when it holds a single quote and no
double quote, single otherwise. -/
def quoteFor (s : String) : Char :=
  if s.any (· == '\'') && !s.any (· == '"') then '"' else '\''

/-- A text written as a quoted literal. -/
def quoted (s : String) : String :=
  let q := quoteFor s
  String.singleton q ++ String.join ((points s.toList).map (escapePoint q)) ++ String.singleton q

/-- The escape of one byte inside a byte literal quoted by `q`. -/
def escapeByte (q : Char) (b : UInt8) : String :=
  let n := b.toNat
  if n == q.toNat || n == 92 then String.ofList ['\\', Char.ofNat n]
  else if n == 9 then "\\t"
  else if n == 10 then "\\n"
  else if n == 13 then "\\r"
  else if n < 0x20 || 0x7f ≤ n then "\\x" ++ hexPadded 2 n
  else String.singleton (Char.ofNat n)

/-- A byte string written as a literal: quoted as a text would be, with a
leading `b`. -/
def quotedBytes (bs : List UInt8) : String :=
  let q := if bs.any (· == 39) && !bs.any (· == 34) then '"' else '\''
  "b" ++ String.singleton q ++ String.join (bs.map (escapeByte q)) ++ String.singleton q

end QuoteMomentum.Text
