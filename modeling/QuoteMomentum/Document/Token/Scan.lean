import QuoteMomentum.Document.Token.Property

/-!
# Cutting a document into tokens

`Token.scan` reads a whole document into its tokens, ending with `streamEnd`.
Two pieces of context make this more than a lexer:

* **Indentation.** In block context a key or entry further right than the
  current column opens a collection (`blockMappingStart`,
  `blockSequenceStart`), and a line further left closes the collections it
  leaves (`blockEnd`). Flow collections, between brackets, ignore columns.
* **Simple keys.** A key is known as a key only when the `:` after it is read.
  Where a key may start, the scanner remembers the place, one per level of
  flow nesting; the `:` then inserts a `key` token there (and, in block
  context, the start of a mapping). A remembered place lapses when its line
  ends or after 1024 characters; a lapsed place that had to be a key (one at
  the column of a block mapping's keys) is a fault.

Every round reads at least one character or ends the stream, so the length
of the text bounds the rounds.
-/

namespace QuoteMomentum.Document

/-- A place where a simple key may start. -/
structure KeyPlace where
  /-- The number of the token the key would be inserted before. -/
  tokenNumber : Nat
  /-- Whether a key must start here: the place is at the column of the keys
  of the open block mapping. -/
  required : Bool
  index : Nat
  line : Nat
  column : Nat
  deriving Repr

/-- The state of scanning a document. -/
structure Scanner where
  cur : Cursor
  /-- How many flow collections are open. -/
  flowLevel : Nat := 0
  /-- The column of the innermost block collection, `-1` at the top. -/
  indent : Int := -1
  /-- The columns of the enclosing block collections, innermost first. -/
  indents : List Int := []
  /-- Whether a simple key may start at the next token. -/
  allowKey : Bool := true
  /-- The remembered key places, by flow level. -/
  keys : List (Nat × KeyPlace) := []
  tokens : Array Token := #[]
  done : Bool := false

namespace Scanner

/-- The key place remembered at the current flow level. -/
def keyHere (s : Scanner) : Option KeyPlace :=
  (s.keys.find? (·.1 == s.flowLevel)).map (·.2)

/-- Drops the key places that lapsed: their line ended or they are more than
1024 characters behind. A required place that lapses is a fault. -/
def dropLapsedKeys (s : Scanner) : Except Fault Scanner :=
  let lapsed (k : KeyPlace) := k.line != s.cur.line || s.cur.index - k.index > 1024
  if s.keys.any (fun e => lapsed e.2 && e.2.required) then .error .unreadable
  else .ok { s with keys := s.keys.filter (fun e => !lapsed e.2) }

/-- Forgets the key place of the current flow level; a fault if a key was
required there. -/
def dropKeyHere (s : Scanner) : Except Fault Scanner :=
  match s.keyHere with
  | some k =>
    if k.required then .error .unreadable
    else .ok { s with keys := s.keys.filter (·.1 != s.flowLevel) }
  | none => .ok s

/-- Remembers the next token's place as one where a simple key may start. -/
def saveKeyPlace (s : Scanner) : Except Fault Scanner := do
  if !s.allowKey then return s
  let required := s.flowLevel == 0 && s.indent == (s.cur.column : Int)
  let s ← s.dropKeyHere
  let k : KeyPlace :=
    ⟨s.tokens.size, required, s.cur.index, s.cur.line, s.cur.column⟩
  return { s with keys := s.keys ++ [(s.flowLevel, k)] }

/-- Appends a token. -/
def emit (s : Scanner) (t : Token) : Scanner := { s with tokens := s.tokens.push t }

/-- Closes the block collections deeper than `column`. -/
def unwind (s : Scanner) (column : Int) : Scanner :=
  if s.flowLevel != 0 then s else go s.indents s
where
  go : List Int → Scanner → Scanner
    | [], s => s
    | outer :: more, s =>
      if s.indent > column then go more ({ s with indent := outer, indents := more }.emit .blockEnd)
      else s

/-- Opens a block collection at `column` when it is deeper than the current
one; tells whether it did. -/
def deepen (s : Scanner) (column : Int) : Scanner × Bool :=
  if s.indent < column then ({ s with indents := s.indent :: s.indents, indent := column }, true)
  else (s, false)

/-- Skips blanks, comments and line ends up to the next token. A line end in
block context lets a simple key start. -/
def toNextToken (s : Scanner) : Scanner :=
  let s := if s.cur.index == 0 && s.cur.peek == '\uFEFF' then { s with cur := s.cur.advance } else s
  go s.cur.rest.length s
where
  go : Nat → Scanner → Scanner
    | 0, s => s
    | n + 1, s =>
      let c := (s.cur.skipWhile (· == ' ')).skipComment
      let (c', b) := c.lineBreak
      if b.isEmpty then { s with cur := c }
      else go n { s with cur := c', allowKey := if s.flowLevel == 0 then true else s.allowKey }

/-! ## Fetching one token -/

/-- The end of the text: closes every block collection. -/
def fetchStreamEnd (s : Scanner) : Except Fault Scanner := do
  let s := s.unwind (-1)
  let s ← s.dropKeyHere
  return { (s.emit .streamEnd) with allowKey := false, keys := [], done := true }

/-- A directive line. -/
def fetchDirective (s : Scanner) : Except Fault Scanner := do
  let s := s.unwind (-1)
  let s ← s.dropKeyHere
  let (c, d) ← s.cur.directive
  return ({ s with cur := c, allowKey := false }.emit (.directive d))

/-- A document marker, `---` or `...`. -/
def fetchDocumentMarker (s : Scanner) (t : Token) : Except Fault Scanner := do
  let s := s.unwind (-1)
  let s ← s.dropKeyHere
  return ({ s with cur := s.cur.forward 3, allowKey := false }.emit t)

/-- `[` or `{`: may start a simple key, and opens a flow level. -/
def fetchFlowStart (s : Scanner) (t : Token) : Except Fault Scanner := do
  let s ← s.saveKeyPlace
  return ({ s with cur := s.cur.advance, flowLevel := s.flowLevel + 1, allowKey := true }.emit t)

/-- `]` or `}`: closes a flow level. -/
def fetchFlowEnd (s : Scanner) (t : Token) : Except Fault Scanner := do
  let s ← s.dropKeyHere
  return ({ s with cur := s.cur.advance, flowLevel := s.flowLevel - 1, allowKey := false }.emit t)

/-- `,` between flow entries. -/
def fetchFlowEntry (s : Scanner) : Except Fault Scanner := do
  let s ← { s with allowKey := true }.dropKeyHere
  return ({ s with cur := s.cur.advance }.emit .flowEntry)

/-- `-` before a block sequence entry; in block context it may open a
sequence, and is refused where no key could start. -/
def fetchBlockEntry (s : Scanner) : Except Fault Scanner := do
  let s ←
    if s.flowLevel == 0 then do
      if !s.allowKey then throw .unreadable
      let (s', opened) := s.deepen s.cur.column
      pure (if opened then s'.emit .blockSequenceStart else s')
    else pure s
  let s ← { s with allowKey := true }.dropKeyHere
  return ({ s with cur := s.cur.advance }.emit .blockEntry)

/-- `?` before a complex key; in block context it may open a mapping. -/
def fetchKey (s : Scanner) : Except Fault Scanner := do
  let s ←
    if s.flowLevel == 0 then do
      if !s.allowKey then throw .unreadable
      let (s', opened) := s.deepen s.cur.column
      pure (if opened then s'.emit .blockMappingStart else s')
    else pure s
  let s ← { s with allowKey := s.flowLevel == 0 }.dropKeyHere
  return ({ s with cur := s.cur.advance }.emit .key)

/-- `:` after a key. A remembered key place becomes a `key` token (and, in
block context, may open a mapping at the key's column); otherwise the value
belongs to a complex key. -/
def fetchValue (s : Scanner) : Except Fault Scanner := do
  let s ←
    match s.keyHere with
    | some k =>
      let s := { s with keys := s.keys.filter (·.1 != s.flowLevel) }
      let s := { s with tokens := s.tokens.insertIdxIfInBounds k.tokenNumber .key }
      let s :=
        if s.flowLevel == 0 then
          let (s', opened) := s.deepen k.column
          if opened then
            { s' with tokens := s'.tokens.insertIdxIfInBounds k.tokenNumber .blockMappingStart }
          else s'
        else s
      pure { s with allowKey := false }
    | none => do
      if s.flowLevel == 0 && !s.allowKey then throw .unreadable
      let s :=
        if s.flowLevel == 0 then
          let (s', opened) := s.deepen s.cur.column
          if opened then s'.emit .blockMappingStart else s'
        else s
      { s with allowKey := s.flowLevel == 0 }.dropKeyHere
  return ({ s with cur := s.cur.advance }.emit .value)

/-- `*name` or `&name`: may be a simple key. -/
def fetchAnchor (s : Scanner) (isAlias : Bool) : Except Fault Scanner := do
  let s ← s.saveKeyPlace
  let (c, name) ← s.cur.anchorName
  return ({ s with cur := c, allowKey := false }.emit (if isAlias then .alias name else .anchor name))

/-- A tag: may be a simple key. -/
def fetchTag (s : Scanner) : Except Fault Scanner := do
  let s ← s.saveKeyPlace
  let (c, handle, suffix) ← s.cur.tag
  return ({ s with cur := c, allowKey := false }.emit (.tag handle suffix))

/-- A block scalar, `|` or `>`: a simple key may follow it. -/
def fetchBlockScalar (s : Scanner) (folded : Bool) : Except Fault Scanner := do
  let s ← { s with allowKey := true }.dropKeyHere
  let (c, text) ← s.cur.block folded s.indent
  return ({ s with cur := c }.emit (.scalar text false))

/-- A quoted scalar: may be a simple key. -/
def fetchQuoted (s : Scanner) (double : Bool) : Except Fault Scanner := do
  let s ← s.saveKeyPlace
  let (c, text) ← s.cur.quoted double
  return ({ s with cur := c, allowKey := false }.emit (.scalar text false))

/-- A plain scalar: may be a simple key; one that ends a line lets the next
line start a key. -/
def fetchPlain (s : Scanner) : Except Fault Scanner := do
  let s ← s.saveKeyPlace
  let (c, text, ended) := s.cur.plain (s.flowLevel != 0) (s.indent + 1)
  return ({ s with cur := c, allowKey := ended }.emit (.scalar text true))

/-- Whether a plain scalar may start here: not at a blank or an indicator,
except `-`, `?` and `:` before a non-blank (`?` and `:` in block context
only). -/
def plainStarts (s : Scanner) : Bool :=
  let ch := s.cur.peek
  let next := s.cur.peekAt 1
  !(isBlankOrEnd ch || "-?:,[]\x7b\x7d#&*!|>'\"%@`".contains ch) ||
    (!isBlankOrEnd next && (ch == '-' || (s.flowLevel == 0 && (ch == '?' || ch == ':'))))

/-- Reads the next token, with the block ends and keys it implies. -/
def fetchNext (s : Scanner) : Except Fault Scanner := do
  let s := s.toNextToken
  let s ← s.dropLapsedKeys
  let s := s.unwind s.cur.column
  let c := s.cur
  let ch := c.peek
  let flow := s.flowLevel != 0
  if c.atEnd then s.fetchStreamEnd
  else if ch == '%' && c.column == 0 then s.fetchDirective
  else if ch == '-' && c.column == 0 && c.ahead 3 == "---" && isBlankOrEnd (c.peekAt 3) then
    s.fetchDocumentMarker .documentStart
  else if ch == '.' && c.column == 0 && c.ahead 3 == "..." && isBlankOrEnd (c.peekAt 3) then
    s.fetchDocumentMarker .documentEnd
  else if ch == '[' then s.fetchFlowStart .flowSequenceStart
  else if ch == '{' then s.fetchFlowStart .flowMappingStart
  else if ch == ']' then s.fetchFlowEnd .flowSequenceEnd
  else if ch == '}' then s.fetchFlowEnd .flowMappingEnd
  else if ch == ',' then s.fetchFlowEntry
  else if ch == '-' && isBlankOrEnd (c.peekAt 1) then s.fetchBlockEntry
  else if ch == '?' && (flow || isBlankOrEnd (c.peekAt 1)) then s.fetchKey
  else if ch == ':' && (flow || isBlankOrEnd (c.peekAt 1)) then s.fetchValue
  else if ch == '*' then s.fetchAnchor true
  else if ch == '&' then s.fetchAnchor false
  else if ch == '!' then s.fetchTag
  else if ch == '|' && !flow then s.fetchBlockScalar false
  else if ch == '>' && !flow then s.fetchBlockScalar true
  else if ch == '\'' then s.fetchQuoted false
  else if ch == '"' then s.fetchQuoted true
  else if s.plainStarts then s.fetchPlain
  else throw .unreadable

/-- Reads tokens until the stream ends. -/
def run : Nat → Scanner → Except Fault Scanner
  | 0, s => .ok s
  | n + 1, s => if s.done then .ok s else s.fetchNext >>= run n

end Scanner

/-- The tokens of a document, ending with `streamEnd`. -/
def Token.scan (text : String) : Except Fault (List Token) := do
  let s ← Scanner.run (text.length + 2) { cur := { rest := text.toList } }
  if s.done then return s.tokens.toList else throw .unreadable

end QuoteMomentum.Document
