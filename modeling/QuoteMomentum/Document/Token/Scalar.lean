import QuoteMomentum.Document.Token
import QuoteMomentum.Fault

/-!
# Scanning scalars

The three ways of writing a scalar, each read from its first character to
the character after it.

* **Plain**: runs of text joined by the blanks between them. A run stops at a
  blank, at `:` before a blank, and inside a flow collection at `,?[]{}` and
  at `:` before one of `,[]{}`. A line end between runs is folded: one line
  end is a space, more are kept but the first. The scalar stops at a comment,
  at a document marker, and in block context at a line less indented than the
  collection it belongs to.
* **Quoted**: between `'` or `"`. Single quotes write a quote as `''`; double
  quotes have backslash escapes. Line ends fold as in plain scalars, and a
  document marker inside a quoted scalar is refused.
* **Block**: after `|` (literal) or `>` (folded), the lines more indented than
  the collection, with a header that may fix the indentation and say what is
  done with the final line ends (`-` strips them, `+` keeps them, else one is
  kept).

Every loop below reads at least one character a round, so the length of the
text bounds it.
-/

namespace QuoteMomentum.Document

namespace Cursor

/-! ## Plain scalars -/

/-- Whether the run of a plain scalar stops `k` characters ahead. -/
def plainStopsAt (c : Cursor) (flow : Bool) (k : Nat) : Bool :=
  let ch := c.peekAt k
  let next := c.peekAt (k + 1)
  isBlankOrEnd ch || (ch == ':' && (isBlankOrEnd next || (flow && ",[]\x7b\x7d".contains next))) ||
    (flow && ",?[]\x7b\x7d".contains ch)

/-- Reads blank lines and the spaces that indent them, up to the first line
with other text. Gives the line ends read, or nothing when a document marker
starts a line. -/
def blankLines (c : Cursor) : Cursor × Option (List String) :=
  go c.rest.length c []
where
  go : Nat → Cursor → List String → Cursor × Option (List String)
    | 0, c, acc => (c, some acc.reverse)
    | n + 1, c, acc =>
      if c.peek == ' ' then go n c.advance acc
      else if isBreak c.peek then
        let (c, b) := c.lineBreak
        if c.atDocumentMarker then (c, none) else go n c (b :: acc)
      else (c, some acc.reverse)

/-- Reads the blanks after a run of a plain scalar: the text they fold to
(empty when the scalar ends here) and whether a line ended. -/
def plainSpaces (c : Cursor) : Cursor × String × Bool :=
  let n := c.runLength (· == ' ')
  let blanks := c.ahead n
  let c := c.forward n
  if isBreak c.peek then
    let (c, lineEnd) := c.lineBreak
    if c.atDocumentMarker then (c, "", true)
    else
      match c.blankLines with
      | (c, none) => (c, "", true)
      | (c, some breaks) =>
        let first := if lineEnd != "\n" then lineEnd else if breaks.isEmpty then " " else ""
        (c, first ++ String.join breaks, true)
  else (c, blanks, false)

/-- Reads a plain scalar; `indent` is the least column of its continuation
lines in block context. Gives its text and whether a line ended after its
last run, which lets a simple key start on the next line. -/
def plain (c : Cursor) (flow : Bool) (indent : Int) : Cursor × String × Bool :=
  go c.rest.length c "" "" false
where
  go : Nat → Cursor → String → String → Bool → Cursor × String × Bool
    | 0, c, text, _, ended => (c, text, ended)
    | n + 1, c, text, blanks, ended =>
      if c.peek == '#' then (c, text, ended)
      else
        let len := c.offsetWhere (c.plainStopsAt flow)
        if len == 0 then (c, text, ended)
        else
          let text := text ++ blanks ++ c.ahead len
          let (c, blanks, ended) := (c.forward len).plainSpaces
          if blanks.isEmpty || c.peek == '#' || (!flow && (c.column : Int) < indent) then
            (c, text, ended)
          else go n c text blanks ended

/-! ## Quoted scalars -/

/-- The escapes of double-quoted scalars that stand for one character. -/
def escapeChar : Char → Option Char
  | '0' => some '\x00'
  | 'a' => some '\x07'
  | 'b' => some '\x08'
  | 't' => some '\t'
  | '\t' => some '\t'
  | 'n' => some '\n'
  | 'v' => some '\x0b'
  | 'f' => some '\x0c'
  | 'r' => some '\r'
  | 'e' => some '\x1b'
  | ' ' => some ' '
  | '"' => some '"'
  | '\\' => some '\\'
  | '/' => some '/'
  | 'N' => some '\x85'
  | '_' => some '\xa0'
  | 'L' => some '\u2028'
  | 'P' => some '\u2029'
  | _ => none

/-- The escapes of double-quoted scalars followed by a code point in hex, and
the number of its digits. -/
def escapeWidth : Char → Option Nat
  | 'x' => some 2
  | 'u' => some 4
  | 'U' => some 8
  | _ => none

/-- The kept characters of a code point (see `Text.points`), a surrogate
included. -/
def codePointChars (n : Nat) : Except Fault String :=
  if 0x110000 ≤ n then .error .codePointRange
  else .ok (String.ofList (Text.keepPoint n))

/-- Reads the line ends inside a quoted scalar after the first, with the
blanks that indent them. -/
def quotedBreaks (c : Cursor) : Except Fault (Cursor × String) :=
  go c.rest.length c ""
where
  go : Nat → Cursor → String → Except Fault (Cursor × String)
    | 0, c, acc => .ok (c, acc)
    | n + 1, c, acc =>
      if c.atDocumentMarker then .error .unreadable
      else
        let c := c.skipWhile (fun ch => ch == ' ' || ch == '\t')
        if isBreak c.peek then
          let (c, b) := c.lineBreak
          go n c (acc ++ b)
        else .ok (c, acc)

/-- Reads the text of a quoted scalar up to a blank or its closing quote. -/
def quotedText (c : Cursor) (double : Bool) : Except Fault (Cursor × String) :=
  go c.rest.length c ""
where
  go : Nat → Cursor → String → Except Fault (Cursor × String)
    | 0, c, acc => .ok (c, acc)
    | n + 1, c, acc =>
      let len := c.runLength (fun ch => !(ch == '\'' || ch == '"' || ch == '\\' || isBlankOrEnd ch))
      let acc := acc ++ c.ahead len
      let c := c.forward len
      let ch := c.peek
      if !double && ch == '\'' && c.peekAt 1 == '\'' then go n (c.forward 2) (acc.push '\'')
      else if (double && ch == '\'') || (!double && (ch == '"' || ch == '\\')) then
        go n c.advance (acc.push ch)
      else if double && ch == '\\' then
        let c := c.advance
        let e := c.peek
        match escapeChar e, escapeWidth e with
        | some r, _ => go n c.advance (acc.push r)
        | none, some w =>
          let c := c.advance
          let digits := c.rest.take w
          if digits.length == w && digits.all isHexDigit then
            match codePointChars (hexNumber digits) with
            | .ok r => go n (c.forward w) (acc ++ r)
            | .error f => .error f
          else .error .unreadable
        | none, none =>
          if isBreak e then
            match c.lineBreak.1.quotedBreaks with
            | .ok (c, b) => go n c (acc ++ b)
            | .error f => .error f
          else .error .unreadable
      else .ok (c, acc)

/-- Reads the blanks inside a quoted scalar, folding line ends. -/
def quotedSpaces (c : Cursor) : Except Fault (Cursor × String) := do
  let n := c.runLength (fun ch => ch == ' ' || ch == '\t')
  let blanks := c.ahead n
  let c := c.forward n
  if c.atEnd then throw .unreadable
  else if isBreak c.peek then
    let (c, lineEnd) := c.lineBreak
    let (c, breaks) ← c.quotedBreaks
    let first := if lineEnd != "\n" then lineEnd else if breaks.isEmpty then " " else ""
    return (c, first ++ breaks)
  else return (c, blanks)

/-- Reads a quoted scalar, from its opening quote to after its closing one. -/
def quoted (c : Cursor) (double : Bool) : Except Fault (Cursor × String) := do
  let q := c.peek
  let (c, text) ← c.advance.quotedText double
  go (c.rest.length + 1) q c text
where
  go : Nat → Char → Cursor → String → Except Fault (Cursor × String)
    | 0, _, _, _ => .error .unreadable
    | n + 1, q, c, text =>
      if c.peek == q then .ok (c.advance, text)
      else do
        let (c, s) ← c.quotedSpaces
        let (c, t) ← c.quotedText double
        go n q c (text ++ s ++ t)

/-! ## Block scalars -/

/-- How a block scalar ends: `-` strips the final line ends, `+` keeps them
all, and without either one is kept. -/
inductive Chomping where
  | strip
  | clip
  | keep
  deriving Repr, DecidableEq

/-- Whether a character is an ASCII digit. -/
def isDigit (ch : Char) : Bool := '0' ≤ ch && ch ≤ '9'

/-- The chomping a header character sets, if it sets one. -/
def chompingOf (ch : Char) : Option Chomping :=
  if ch == '+' then some .keep else if ch == '-' then some .strip else none

/-- Reads the header of a block scalar after its indicator: a chomping sign
and an indentation digit from 1 to 9, in either order. -/
def blockHeader (c : Cursor) : Except Fault (Cursor × Chomping × Option Nat) := do
  let (c, chomping, step) ←
    match chompingOf c.peek with
    | some m =>
      let c := c.advance
      if isDigit c.peek then
        if c.peek == '0' then throw .unreadable
        else pure (c.advance, m, some (c.peek.toNat - '0'.toNat))
      else pure (c, m, none)
    | none =>
      if isDigit c.peek then
        if c.peek == '0' then throw .unreadable
        else
          let step := c.peek.toNat - '0'.toNat
          let c := c.advance
          match chompingOf c.peek with
          | some m => pure (c.advance, m, some step)
          | none => pure (c, Chomping.clip, some step)
      else pure (c, Chomping.clip, none)
  if c.peek == ' ' || isBreakOrEnd c.peek then return (c, chomping, step)
  else throw .unreadable

/-- Reads the rest of a header line: blanks and a comment, then the line end. -/
def headerLineEnd (c : Cursor) : Except Fault Cursor :=
  let c := (c.skipWhile (· == ' ')).skipComment
  if isBreakOrEnd c.peek then .ok c.lineBreak.1 else .error .unreadable

/-- Reads the blank lines before the first line of a block scalar whose
indentation is not given: their line ends and the deepest column reached. -/
def blockIndentation (c : Cursor) : Cursor × String × Nat :=
  go c.rest.length c "" 0
where
  go : Nat → Cursor → String → Nat → Cursor × String × Nat
    | 0, c, acc, deepest => (c, acc, deepest)
    | n + 1, c, acc, deepest =>
      if c.peek == ' ' then
        let c := c.advance
        go n c acc (max deepest c.column)
      else if isBreak c.peek then
        let (c, b) := c.lineBreak
        go n c (acc ++ b) deepest
      else (c, acc, deepest)

/-- Reads the indentation of a block scalar's line, up to `indent` spaces,
and the blank lines that follow with theirs. -/
def blockBreaks (c : Cursor) (indent : Nat) : Cursor × String :=
  let indentOf (c : Cursor) : Cursor :=
    c.forward (min (c.runLength (· == ' ')) (indent - c.column))
  go c.rest.length (indentOf c) ""
where
  go : Nat → Cursor → String → Cursor × String
    | 0, c, acc => (c, acc)
    | n + 1, c, acc =>
      if isBreak c.peek then
        let (c, b) := c.lineBreak
        go n (c.forward (min (c.runLength (· == ' ')) (indent - c.column))) (acc ++ b)
      else (c, acc)

/-- Reads the lines of a block scalar at column `indent`, folding them when
`folded`. Gives the text, the last line end read and the line ends after the
last line. -/
def blockLines (c : Cursor) (indent : Nat) (folded : Bool) (breaks : String) :
    Cursor × String × String × String :=
  go c.rest.length c "" "" breaks
where
  go : Nat → Cursor → String → String → String → Cursor × String × String × String
    | 0, c, text, lineEnd, breaks => (c, text, lineEnd, breaks)
    | n + 1, c, text, lineEnd, breaks =>
      if c.column == indent && !c.atEnd then
        let text := text ++ breaks
        let leading := !(c.peek == ' ' || c.peek == '\t')
        let len := c.runLength (fun ch => !isBreak ch)
        let text := text ++ c.ahead len
        let (c, lineEnd) := (c.forward len).lineBreak
        let (c, breaks) := c.blockBreaks indent
        if c.column == indent && !c.atEnd then
          let joint :=
            if folded && lineEnd == "\n" && leading && !(c.peek == ' ' || c.peek == '\t') then
              (if breaks.isEmpty then " " else "")
            else lineEnd
          go n c (text ++ joint) lineEnd breaks
        else (c, text, lineEnd, breaks)
      else (c, text, lineEnd, breaks)

/-- Reads a block scalar from its indicator; `indent` is the indentation of
the collection it belongs to. -/
def block (c : Cursor) (folded : Bool) (indent : Int) : Except Fault (Cursor × String) := do
  let (c, chomping, step) ← c.advance.blockHeader
  let c ← c.headerLineEnd
  let least : Nat := (max (indent + 1) 1).toNat
  let (c, breaks, lineIndent) :=
    match step with
    | none =>
      let (c, breaks, deepest) := c.blockIndentation
      (c, breaks, max least deepest)
    | some k =>
      let lineIndent := least + k - 1
      let (c, breaks) := c.blockBreaks lineIndent
      (c, breaks, lineIndent)
  let (c, text, lineEnd, breaks) := c.blockLines lineIndent folded breaks
  let tail := match chomping with
    | .strip => ""
    | .clip => lineEnd
    | .keep => lineEnd ++ breaks
  return (c, text ++ tail)

end Cursor

end QuoteMomentum.Document
