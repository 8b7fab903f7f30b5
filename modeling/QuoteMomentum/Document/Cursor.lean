import QuoteMomentum.Value.Basic

/-!
# Reading a configuration document

A configuration document is read one character at a time. The cursor holds
what is left of the text and where it stands: the count of characters read,
the line and the column, all from zero.

* A line ends at `\n`, at `\r` not followed by `\n`, at `U+0085`, `U+2028`
  and `U+2029`; the byte order mark `U+FEFF` takes no column.
* Looking past the end of the text gives `NUL`, which no document holds (it is
  refused before reading, see `Document.printable`), so `NUL` marks the end.
* A run of characters is counted on the text itself, so every run stops at
  the end of the text.
-/

namespace QuoteMomentum.Document

/-- The characters that end a line. -/
def isBreak (c : Char) : Bool :=
  c == '\n' || c == '\r' || c == '\x85' || c == '\u2028' || c == '\u2029'

/-- A line end or the end of the text. -/
def isBreakOrEnd (c : Char) : Bool := c == '\x00' || isBreak c

/-- A space, a tab, a line end or the end of the text: what may follow an
indicator that stands alone. -/
def isBlankOrEnd (c : Char) : Bool := c == ' ' || c == '\t' || isBreakOrEnd c

/-- An ASCII letter or digit, `-` or `_`: the characters of anchor names,
directive names and tag handles. -/
def isWordChar (c : Char) : Bool :=
  ('0' ≤ c && c ≤ '9') || ('A' ≤ c && c ≤ 'Z') || ('a' ≤ c && c ≤ 'z') || c == '-' || c == '_'

/-- A hexadecimal digit. -/
def isHexDigit (c : Char) : Bool :=
  ('0' ≤ c && c ≤ '9') || ('A' ≤ c && c ≤ 'F') || ('a' ≤ c && c ≤ 'f')

/-- The value of a hexadecimal digit. -/
def hexValue (c : Char) : Nat :=
  if '0' ≤ c && c ≤ '9' then c.toNat - '0'.toNat
  else if 'A' ≤ c && c ≤ 'F' then c.toNat - 'A'.toNat + 10
  else c.toNat - 'a'.toNat + 10

/-- The value of a run of hexadecimal digits. -/
def hexNumber (cs : List Char) : Nat := cs.foldl (fun n c => 16 * n + hexValue c) 0

/-- A position in a document and what is left to read. -/
structure Cursor where
  rest : List Char
  index : Nat := 0
  line : Nat := 0
  column : Nat := 0
  deriving Inhabited

namespace Cursor

/-- The character `k` places ahead, `NUL` past the end. -/
def peekAt (c : Cursor) (k : Nat) : Char := c.rest.getD k '\x00'

/-- The next character, `NUL` at the end. -/
def peek (c : Cursor) : Char := c.peekAt 0

/-- The next `n` characters, fewer at the end. -/
def ahead (c : Cursor) (n : Nat) : String := String.ofList (c.rest.take n)

/-- Whether the text is read to its end. -/
def atEnd (c : Cursor) : Bool := c.rest.isEmpty

/-- Reads one character. -/
def advance (c : Cursor) : Cursor :=
  match c.rest with
  | [] => c
  | ch :: more =>
    let ends := ch == '\n' || ch == '\x85' || ch == '\u2028' || ch == '\u2029' ||
      (ch == '\r' && more.head? != some '\n')
    { rest := more, index := c.index + 1,
      line := if ends then c.line + 1 else c.line,
      column := if ends then 0 else if ch == '\uFEFF' then c.column else c.column + 1 }

/-- Reads `n` characters. -/
def forward (c : Cursor) : Nat → Cursor
  | 0 => c
  | n + 1 => c.advance.forward n

/-- The length of the run of characters ahead that satisfy `p`. -/
def runLength (c : Cursor) (p : Char → Bool) : Nat := (c.rest.takeWhile p).length

/-- Reads the run of characters ahead that satisfy `p`. -/
def skipWhile (c : Cursor) (p : Char → Bool) : Cursor := c.forward (c.runLength p)

/-- The first offset ahead at which `stop` holds, looking no further than the
end of the text. -/
def offsetWhere (c : Cursor) (stop : Nat → Bool) : Nat :=
  go 0 c.rest.length
where
  go (k : Nat) : Nat → Nat
    | 0 => k
    | n + 1 => if stop k then k else go (k + 1) n

/-- Reads a line end, as the text it stands for: `\r\n`, `\r`, `\n` and
`U+0085` stand for `\n`, the line and paragraph separators for themselves;
nothing is read, and the text is empty, when no line ends here. -/
def lineBreak (c : Cursor) : Cursor × String :=
  match c.rest with
  | '\r' :: '\n' :: _ => (c.forward 2, "\n")
  | '\r' :: _ | '\n' :: _ | '\x85' :: _ => (c.advance, "\n")
  | '\u2028' :: _ => (c.advance, "\u2028")
  | '\u2029' :: _ => (c.advance, "\u2029")
  | _ => (c, "")

/-- Skips a comment: everything up to the end of the line. -/
def skipComment (c : Cursor) : Cursor :=
  if c.peek == '#' then c.skipWhile (fun ch => !isBreak ch) else c

/-- Whether a document marker, `---` or `...` followed by a blank, starts
here. -/
def atDocumentMarker (c : Cursor) : Bool :=
  (c.ahead 3 == "---" || c.ahead 3 == "...") && isBlankOrEnd (c.peekAt 3)

end Cursor

end QuoteMomentum.Document
