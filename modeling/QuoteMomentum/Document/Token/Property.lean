import QuoteMomentum.Document.Token.Scalar

/-!
# Scanning anchors, tags and directives

* An anchor `&name` or alias `*name` is a run of ASCII letters, digits, `-`
  and `_`, followed by a blank or one of `?:,]}%@` and the backquote.
* A tag is `!<uri>` (verbatim), a lone `!`, `!suffix`, or `handle suffix` with
  a handle `!!` or `!word!`. Its suffix is a run of URI characters in which
  `%hh` escapes spell UTF-8 bytes.
* A directive line is `%YAML major.minor`, `%TAG handle prefix`, or any other
  name with text that is ignored; a comment may end the line.
-/

namespace QuoteMomentum.Document

namespace Cursor

/-- Reads the name of an anchor or alias after its indicator. -/
def anchorName (c : Cursor) : Except Fault (Cursor × String) :=
  let c := c.advance
  let len := c.runLength isWordChar
  if len == 0 then .error .unreadable
  else
    let name := c.ahead len
    let c := c.forward len
    if isBlankOrEnd c.peek || "?:,]\x7d%@`".contains c.peek then .ok (c, name)
    else .error .unreadable

/-- The characters a tag URI may hold besides `%` escapes. -/
def isUriChar (ch : Char) : Bool :=
  ('0' ≤ ch && ch ≤ '9') || ('A' ≤ ch && ch ≤ 'Z') || ('a' ≤ ch && ch ≤ 'z') ||
    "-;/?:@&=+$,_.!~*'()[]".contains ch

/-- Reads a run of `%hh` escapes, the UTF-8 spelling of a text. -/
def uriEscapes (c : Cursor) : Except Fault (Cursor × String) :=
  go c.rest.length c ByteArray.empty
where
  go : Nat → Cursor → ByteArray → Except Fault (Cursor × String)
    | n + 1, c, bytes =>
      if c.peek == '%' then
        let c := c.advance
        let digits := c.rest.take 2
        if digits.length == 2 && digits.all isHexDigit then
          go n (c.forward 2) (bytes.push (hexNumber digits).toUInt8)
        else .error .unreadable
      else
        match String.fromUTF8? bytes with
        | some s => .ok (c, s)
        | none => .error .unreadable
    | 0, c, bytes =>
      match String.fromUTF8? bytes with
      | some s => .ok (c, s)
      | none => .error .unreadable

/-- Reads a tag URI, which may not be empty. -/
def tagUri (c : Cursor) : Except Fault (Cursor × String) := do
  let (c, uri) ← go c.rest.length c ""
  if uri.isEmpty then throw .unreadable else return (c, uri)
where
  go : Nat → Cursor → String → Except Fault (Cursor × String)
    | 0, c, acc => .ok (c, acc)
    | n + 1, c, acc =>
      let len := c.runLength isUriChar
      let acc := acc ++ c.ahead len
      let c := c.forward len
      if c.peek == '%' then
        match c.uriEscapes with
        | .ok (c, s) => go n c (acc ++ s)
        | .error f => .error f
      else .ok (c, acc)

/-- Reads a tag handle: `!`, or `!`, a word and `!`. -/
def tagHandle (c : Cursor) : Except Fault (Cursor × String) :=
  if c.peek != '!' then .error .unreadable
  else if c.peekAt 1 == ' ' then .ok (c.advance, "!")
  else
    let len := 1 + (c.advance.runLength isWordChar)
    if c.peekAt len != '!' then .error .unreadable
    else .ok (c.forward (len + 1), c.ahead (len + 1))

/-- Whether a character ends a tag or a directive's word: a space, a line end
or the end of the text. -/
def endsWord (ch : Char) : Bool := ch == ' ' || isBreakOrEnd ch

/-- Reads a tag: its handle, if any, and its suffix. -/
def tag (c : Cursor) : Except Fault (Cursor × Option String × String) := do
  let next := c.peekAt 1
  let (c, handle, suffix) ←
    if next == '<' then do
      let (c, uri) ← (c.forward 2).tagUri
      if c.peek != '>' then throw .unreadable
      pure (c.advance, none, uri)
    else if isBlankOrEnd next then pure (c.advance, none, "!")
    else do
      let named := (c.advance.rest.takeWhile (fun ch => !endsWord ch)).contains '!'
      let (c, handle) ← if named then c.tagHandle else pure (c.advance, "!")
      let (c, uri) ← c.tagUri
      pure (c, some handle, uri)
  if endsWord c.peek then return (c, handle, suffix) else throw .unreadable

/-- Reads the number of a version directive. -/
def versionNumber (c : Cursor) : Except Fault (Cursor × Nat) :=
  let len := c.runLength isDigit
  if len == 0 then .error .unreadable
  else if 4300 < len then .error (.tooManyDigits len)
  else .ok (c.forward len, (c.rest.take len).foldl (fun n d => 10 * n + (d.toNat - '0'.toNat)) 0)

/-- Reads the blanks, the comment and the line end after a directive. -/
def directiveLineEnd (c : Cursor) : Except Fault Cursor :=
  let c := (c.skipWhile (· == ' ')).skipComment
  if isBreakOrEnd c.peek then .ok c.lineBreak.1 else .error .unreadable

/-- Reads a directive line from its `%`. -/
def directive (c : Cursor) : Except Fault (Cursor × Directive) := do
  let c := c.advance
  let len := c.runLength isWordChar
  if len == 0 then throw .unreadable
  let name := c.ahead len
  let c := c.forward len
  if !endsWord c.peek then throw .unreadable
  let (c, d) ←
    if name == "YAML" then do
      let (c, major) ← (c.skipWhile (· == ' ')).versionNumber
      if c.peek != '.' then throw .unreadable
      let (c, minor) ← c.advance.versionNumber
      if !endsWord c.peek then throw .unreadable
      pure (c, Directive.version major minor)
    else if name == "TAG" then do
      let (c, handle) ← (c.skipWhile (· == ' ')).tagHandle
      if c.peek != ' ' then throw .unreadable
      let (c, uri) ← (c.skipWhile (· == ' ')).tagUri
      if !endsWord c.peek then throw .unreadable
      pure (c, Directive.tag handle uri)
    else pure (c.skipWhile (fun ch => !isBreakOrEnd ch), Directive.other name)
  let c ← c.directiveLineEnd
  return (c, d)

end Cursor

end QuoteMomentum.Document
