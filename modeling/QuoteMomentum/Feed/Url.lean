import QuoteMomentum.Settings.Basic

/-!
# Chart addresses

The chart of a symbol is fetched from `base/SYMBOL?range=R&interval=I&includePrePost=P`:
the base address without trailing slashes, the symbol as one path segment, and
the query from the watchlist. A path segment keeps the letters, digits and
`_.-~` of the symbol and writes every other byte of its UTF-8 form as `%XX` in
upper-case hex, so no symbol can add a segment, a query or a fragment. Query
values are written the same way, except that a space becomes `+`; each is the
display text of the setting (a byte string gives its bytes instead), and
`includePrePost` is `true` when the setting counts as true. A text is quoted
by the characters of its code points (`Text.plain`); one holding a lone
surrogate has no UTF-8 form and is refused. The query is written first.
-/

namespace QuoteMomentum.Feed

/-- Whether a character stands for itself in a quoted part of an address. -/
def isUnreserved (c : Char) : Bool :=
  ('A' ≤ c && c ≤ 'Z') || ('a' ≤ c && c ≤ 'z') || ('0' ≤ c && c ≤ '9') ||
    c == '_' || c == '.' || c == '-' || c == '~'

/-- The upper-case hex digit of `d < 16`. -/
def hexUpper (d : Nat) : Char :=
  if d < 10 then Char.ofNat (48 + d) else Char.ofNat (55 + d)

/-- A byte written as `%XX`. -/
def percentByte (b : UInt8) : String :=
  String.ofList ['%', hexUpper (b.toNat / 16), hexUpper (b.toNat % 16)]

/-- A character of a path segment. -/
def quoteChar (c : Char) : String :=
  if isUnreserved c then String.singleton c
  else String.join ((String.singleton c).toUTF8.toList.map percentByte)

/-- A text without lone surrogates, which UTF-8 can encode. -/
def NoSurrogate (s : String) : Prop := Text.hasSurrogate s = false

instance : DecidablePred NoSurrogate := fun s =>
  inferInstanceAs (Decidable (Text.hasSurrogate s = false))

/-- Refuses a text that holds a lone surrogate: the fault names the first run
of surrogates by the positions of their code points. -/
def encodable (s : String) : Except Fault Unit :=
  let ns := Text.points s.toList
  match ns.findIdx? Text.isSurrogate with
  | none => .ok ()
  | some i =>
    let run := (ns.drop i).takeWhile Text.isSurrogate
    .error (.surrogate (ns.getD i 0) i (i + run.length))

/-- A text as one path segment: the characters of its code points, quoted. -/
def quoteSegment (s : String) : Except Fault String := do
  encodable s
  return String.join ((Text.plain s).toList.map quoteChar)

/-- A text as a query value: as a segment, but a space is `+`. -/
def quoteQuery (s : String) : Except Fault String := do
  encodable s
  return String.join ((Text.plain s).toList.map fun c => if c == ' ' then "+" else quoteChar c)

/-- A byte string as a query value: its bytes as they are, a space as `+`. -/
def quoteQueryBytes (bs : List UInt8) : String :=
  String.join (bs.map fun b =>
    if b == 32 then "+"
    else if b.toNat < 128 && isUnreserved (Char.ofNat b.toNat) then String.singleton (Char.ofNat b.toNat)
    else percentByte b)

/-- A query value: a byte string by its bytes, anything else by its text. -/
def queryValue : Value → Except Fault String
  | .bytes bs => .ok (quoteQueryBytes bs)
  | v => quoteQuery v.display

/-- Query pairs joined as `k=v&k=v`. -/
def query (ps : List (String × Value)) : Except Fault String := do
  let parts ← ps.mapM fun p => do return (← quoteQuery p.1) ++ "=" ++ (← queryValue p.2)
  return "&".intercalate parts

/-- A text without the given character at its end. -/
def dropTrailing (s : String) (c : Char) : String :=
  String.ofList (s.toList.reverse.dropWhile (· == c)).reverse

/-- The query of a chart request. -/
def chartQuery (w : Settings.Watchlist) : Except Fault String :=
  query [("range", w.chartRange), ("interval", w.chartInterval),
    ("includePrePost", .str (if w.includePrePost.truthy then "true" else "false"))]

/-- The address of a symbol's chart. The symbol must be a text or a byte
string, and the base address a text: a byte string cannot drop a text's
characters off its end, and other values have nothing to drop them with. -/
def chartUrl (feed : Settings.Feed) (w : Settings.Watchlist) (symbol : Value) :
    Except Fault String := do
  let params ← chartQuery w
  let seg ← match symbol with
    | .str s => quoteSegment s
    | .bytes bs => pure (String.join (bs.map fun b =>
        if b.toNat < 128 && isUnreserved (Char.ofNat b.toNat) then String.singleton (Char.ofNat b.toNat)
        else percentByte b))
    | _ => throw .segmentNotText
  let base ← match feed.baseUrl with
    | .str b => pure (dropTrailing b '/')
    | .bytes _ => throw (.bytesLikeRequired "str")
    | v => throw (.noAttribute v.typeName "rstrip")
  return base ++ "/" ++ seg ++ "?" ++ params

/-! Index and futures symbols carry characters that are quoted, and every
trailing slash of the base goes. -/

example : (chartUrl Settings.Feed.standard Settings.Watchlist.standard (.str "^GSPC")).toOption =
    some "https://query1.finance.yahoo.com/v8/finance/chart/%5EGSPC?range=1y&interval=1d&includePrePost=false" := by
  decide +kernel

example : (chartUrl { Settings.Feed.standard with baseUrl := .str "http://h//" }
    Settings.Watchlist.standard (.str "GC=F")).toOption =
      some "http://h/GC%3DF?range=1y&interval=1d&includePrePost=false" := by
  decide +kernel

end QuoteMomentum.Feed
