import QuoteMomentum.Document.Token.Scan
import QuoteMomentum.Document.Resolve

/-!
# The node graph of a document

`Graph.ofTokens` reads the tokens of a stream into the nodes of its one
document, or none for an empty stream. The grammar:

* a block node is an alias, or optional properties (an anchor and a tag, in
  either order) followed by a scalar, a flow collection, a block collection,
  or nothing (an empty scalar, allowed only after a property);
* a block sequence is entries `- node`; a block mapping is pairs
  `? key : value`, either part possibly empty; a sequence written at the
  indentation of a mapping's keys (without its own start) is a value of that
  mapping;
* a flow sequence is `[a, b, ...]`, where an entry `k: v` is a mapping of one
  pair; a flow mapping is `{k: v, ...}`, where an entry without `:` has an
  empty value; a final `,` is allowed;
* a stream holds one document: an implicit one, or one after `---` with its
  directives before it. Anything after the first document but `...` is a
  fault.

Nodes are numbered in the order they are opened, and a collection names its
members by number, so the document is a graph: an anchor names the node it is
written on, and an alias stands for that very node. A collection's anchor
names it from its start, so an alias inside it makes a cycle. An alias of an
undefined anchor and a second anchor of the same name are faults. Tags are
resolved here: a handle stands for its prefix, and an untagged scalar gets
the tag of its text when it was written plain (see `resolve`), else `str`.
-/

namespace QuoteMomentum.Document

/-- A node of a document, each with its tag; a collection names its members
by their numbers in the graph. -/
inductive Node where
  | scalar (tag : String) (text : String)
  | sequence (tag : String) (items : List Nat)
  | mapping (tag : String) (entries : List (Nat × Nat))
  deriving Inhabited, Repr

/-- The nodes of a document and the number of its root. -/
structure Graph where
  nodes : Array Node
  root : Nat
  deriving Inhabited

/-- What is left to read of a stream's tokens, with the tag handles in force,
the nodes opened so far and the anchors named so far. -/
structure Reading where
  tokens : List Token
  handles : List (String × String) := [("!", "!"), ("!!", "tag:yaml.org,2002:")]
  nodes : Array Node := #[]
  anchors : List (String × Nat) := []

/-- Reading tokens, or a fault. -/
abbrev Read := StateT Reading (Except Fault)

namespace Read

/-- The next token, `streamEnd` when there is none. -/
def peek : Read Token := do return (← get).tokens.headD .streamEnd

/-- Takes the next token. -/
def take : Read Unit := modify fun s => { s with tokens := s.tokens.drop 1 }

/-- Whether the next token is one of `ts`. -/
def nextIn (ts : List Token) : Read Bool := do return ts.contains (← peek)

/-- Takes the next token if it is `t`; tells whether it did. -/
def accept (t : Token) : Read Bool := do
  if (← peek) == t then take; return true else return false

/-- A fault of the grammar. -/
def fail {α : Type} : Read α := throw .unreadable

/-- Reads an anchor and a tag, in either order, each optional. -/
def properties : Read (Option String × Option (Option String × String)) := do
  match ← peek with
  | .anchor a =>
    take
    match ← peek with
    | .tag h s => take; return (some a, some (h, s))
    | _ => return (some a, none)
  | .tag h s =>
    take
    match ← peek with
    | .anchor a => take; return (some a, some (h, s))
    | _ => return (none, some (h, s))
  | _ => return (none, none)

/-- The full tag a written tag stands for. -/
def fullTag : Option String × String → Read String
  | (none, suffix) => return suffix
  | (some h, suffix) => do
    match (← get).handles.lookup h with
    | some p => return p ++ suffix
    | none => fail

/-- Refuses an anchor whose name is already taken. -/
def freshAnchor (anchor : Option String) : Read Unit := do
  if let some a := anchor then
    if (← get).anchors.any (·.1 == a) then fail

/-- Lets an anchor name the node numbered `i`. -/
def nameAnchor (anchor : Option String) (i : Nat) : Read Unit := do
  if let some a := anchor then
    modify fun s => { s with anchors := s.anchors ++ [(a, i)] }

/-- The number of the node an alias stands for. -/
def aliasNode (name : String) : Read Nat := do
  match (← get).anchors.lookup name with
  | some i => return i
  | none => fail

/-- Adds a node; its number. -/
def add (n : Node) : Read Nat := do
  let s ← get
  set { s with nodes := s.nodes.push n }
  return s.nodes.size

/-- Sets the node numbered `i`, opened before its members were read. -/
def place (i : Nat) (n : Node) : Read Nat := do
  modify fun s => { s with nodes := s.nodes.modify i fun _ => n }
  return i

/-- The empty scalar written where a node is left out: a null. -/
def empty : Read Nat := add (.scalar Tag.null "")

/-- Adds a scalar with its anchor. -/
def scalarNode (anchor : Option String) (tag text : String) : Read Nat := do
  let i ← add (.scalar tag text)
  nameAnchor anchor i
  return i

/-- Opens a collection: a number for it, named by its anchor from here on. -/
def openCollection (anchor : Option String) : Read Nat := do
  let i ← add (.scalar Tag.null "")
  nameAnchor anchor i
  return i

/-- The tag of a collection: its written tag, or the default one. -/
def collectionTag (tag : Option String) (default : String) : String :=
  match tag with
  | none | some "!" => default
  | some t => t

/-- The tag of a scalar: its written tag; a scalar without one, or with `!`,
is typed by its text when it was plain or `!` was written, else it is a
`str`. -/
def scalarTag (tag : Option String) (plain : Bool) (text : String) : String :=
  match tag with
  | none => if plain then resolve text else Tag.str
  | some "!" => resolve text
  | some t => t

mutual

/-- Reads a node: in block context when `block`, and allowing a sequence
without its own start when `indentless`. -/
def node : Nat → Bool → Bool → Read Nat
  | 0, _, _ => fail
  | n + 1, block, indentless => do
    match ← peek with
    | .alias name => take; aliasNode name
    | _ => propertiesThen n block indentless

/-- Reads a node that is no alias: its properties, then its content. -/
def propertiesThen : Nat → Bool → Bool → Read Nat
  | 0, _, _ => fail
  | n + 1, block, indentless => do
    let (anchor, written) ← properties
    let tag ← match written with
      | some w => some <$> fullTag w
      | none => pure none
    freshAnchor anchor
    let t ← peek
    if indentless && t == .blockEntry then
      let i ← openCollection anchor
      let items ← indentlessSequence n []
      place i (.sequence (collectionTag tag Tag.seq) items)
    else
      match t with
      | .scalar text plain =>
        take
        scalarNode anchor (scalarTag tag plain text) text
      | .flowSequenceStart =>
        take
        let i ← openCollection anchor
        let items ← flowSequence n true []
        place i (.sequence (collectionTag tag Tag.seq) items)
      | .flowMappingStart =>
        take
        let i ← openCollection anchor
        let entries ← flowMapping n true []
        place i (.mapping (collectionTag tag Tag.map) entries)
      | .blockSequenceStart =>
        if block then
          take
          let i ← openCollection anchor
          let items ← blockSequence n []
          place i (.sequence (collectionTag tag Tag.seq) items)
        else emptyOr anchor tag
      | .blockMappingStart =>
        if block then
          take
          let i ← openCollection anchor
          let entries ← blockMapping n []
          place i (.mapping (collectionTag tag Tag.map) entries)
        else emptyOr anchor tag
      | _ => emptyOr anchor tag

/-- The empty scalar after a property, or a fault when there is none. -/
def emptyOr (anchor : Option String) (tag : Option String) : Read Nat :=
  if anchor.isNone && tag.isNone then fail
  else scalarNode anchor (scalarTag tag true "") ""

/-- Reads the entries of a block sequence, after its start. -/
def blockSequence : Nat → List Nat → Read (List Nat)
  | 0, _ => fail
  | n + 1, acc => do
    if ← accept .blockEntry then
      let item ← if ← nextIn [.blockEntry, .blockEnd] then empty else node n true false
      blockSequence n (acc ++ [item])
    else if ← accept .blockEnd then return acc
    else fail

/-- Reads the entries of a sequence written at the indentation of a mapping's
keys. -/
def indentlessSequence : Nat → List Nat → Read (List Nat)
  | 0, _ => fail
  | n + 1, acc => do
    if ← accept .blockEntry then
      let item ←
        if ← nextIn [.blockEntry, .key, .value, .blockEnd] then empty
        else node n true false
      indentlessSequence n (acc ++ [item])
    else return acc

/-- Reads the pairs of a block mapping, after its start. -/
def blockMapping : Nat → List (Nat × Nat) → Read (List (Nat × Nat))
  | 0, _ => fail
  | n + 1, acc => do
    if ← accept .key then
      let k ← if ← nextIn [.key, .value, .blockEnd] then empty else node n true true
      let v ←
        if ← accept .value then
          if ← nextIn [.key, .value, .blockEnd] then empty else node n true true
        else empty
      blockMapping n (acc ++ [(k, v)])
    else if ← accept .blockEnd then return acc
    else fail

/-- Reads the entries of a flow sequence, after its `[`. -/
def flowSequence : Nat → Bool → List Nat → Read (List Nat)
  | 0, _, _ => fail
  | n + 1, first, acc => do
    if ← accept .flowSequenceEnd then return acc
    if !first then
      unless ← accept .flowEntry do fail
    if ← accept .flowSequenceEnd then return acc
    if ← accept .key then
      let k ←
        if ← nextIn [.value, .flowEntry, .flowSequenceEnd] then empty
        else node n false false
      let v ←
        if ← accept .value then
          if ← nextIn [.flowEntry, .flowSequenceEnd] then empty else node n false false
        else empty
      let pair ← add (.mapping Tag.map [(k, v)])
      flowSequence n false (acc ++ [pair])
    else
      let item ← node n false false
      flowSequence n false (acc ++ [item])

/-- Reads the pairs of a flow mapping, after its `{`. -/
def flowMapping : Nat → Bool → List (Nat × Nat) → Read (List (Nat × Nat))
  | 0, _, _ => fail
  | n + 1, first, acc => do
    if ← accept .flowMappingEnd then return acc
    if !first then
      unless ← accept .flowEntry do fail
    if ← accept .flowMappingEnd then return acc
    if ← accept .key then
      let k ←
        if ← nextIn [.value, .flowEntry, .flowMappingEnd] then empty
        else node n false false
      let v ←
        if ← accept .value then
          if ← nextIn [.flowEntry, .flowMappingEnd] then empty else node n false false
        else empty
      flowMapping n false (acc ++ [(k, v)])
    else
      let k ← node n false false
      let v ← empty
      flowMapping n false (acc ++ [(k, v)])

end

/-- Reads the directives before a document: at most one version, of major
version 1, and tag handles declared once each. -/
def directives : Nat → Option (Nat × Nat) → List (String × String) → Read Unit
  | 0, _, _ => fail
  | n + 1, version, declared => do
    match ← peek with
    | .directive (.version major minor) =>
      take
      if version.isSome || major != 1 then fail
      directives n (some (major, minor)) declared
    | .directive (.tag handle uri) =>
      take
      if declared.any (·.1 == handle) then fail
      directives n version (declared ++ [(handle, uri)])
    | .directive (.other _) =>
      take
      directives n version declared
    | _ =>
      let defaults := [("!", "!"), ("!!", "tag:yaml.org,2002:")].filter
        (fun d => !declared.any (·.1 == d.1))
      modify fun s => { s with handles := declared ++ defaults }

/-- Skips document end markers. -/
def skipDocumentEnds : Nat → Read Unit
  | 0 => pure ()
  | n + 1 => do if ← accept .documentEnd then skipDocumentEnds n

/-- Reads the one document of a stream, if there is one. -/
def document (fuel : Nat) : Read (Option Nat) := do
  let explicit := match ← peek with
    | .directive _ | .documentStart | .streamEnd => true
    | _ => false
  let root ←
    if explicit then do
      skipDocumentEnds fuel
      if (← peek) == .streamEnd then pure none
      else do
        directives fuel none []
        unless ← accept .documentStart do fail
        let bare := match ← peek with
          | .directive _ | .documentStart | .documentEnd | .streamEnd => true
          | _ => false
        let root ← if bare then empty else node fuel true false
        let _ ← accept .documentEnd
        pure (some root)
    else do
      let root ← node fuel true false
      let _ ← accept .documentEnd
      pure (some root)
  skipDocumentEnds fuel
  if (← peek) != .streamEnd then fail
  return root

end Read

/-- The graph of the one document of a stream of tokens, none for an empty
stream. -/
def Graph.ofTokens (tokens : List Token) : Except Fault (Option Graph) := do
  let (root, s) ← (Read.document (4 * tokens.length + 4)).run { tokens }
  return root.map fun r => ⟨s.nodes, r⟩

end QuoteMomentum.Document
