import QuoteMomentum.Document.Node
import QuoteMomentum.Document.Scalar

/-!
# The objects of a configuration document

`Document.load` reads the text of a configuration document into objects. The
text may hold only printable characters (tab, line ends and the printable
ranges of Unicode). Its node graph (`Graph.ofTokens`) is then read by tags
(the safe schema), in the order the schema's constructor takes:

* a scalar is read when it is first reached, into its value (see
  `scalarValue`); a mapping with a `=` key may stand for the scalar its value
  holds;
* a collection is made empty when it is first reached, and filled later:
  collections wait in a queue, first reached first filled, so the document is
  filled breadth first. `seq` makes a list, `map` a mapping, `set` a set of
  the mapping's keys, and `omap` and `pairs` a list of key and value tuples,
  one for each single-pair mapping of a sequence;
* a node reached again is the object it made the first time, so an alias of a
  collection is the very same collection, and a collection may hold itself;
* any other tag has no value and is a fault of the document.

Filling a mapping first merges it, which changes the graph: each `<<` key is
taken out, and the pairs of the mapping it holds (or of each mapping of a
list it holds, the last one first) go in front, that mapping merged first;
a `=` key becomes a text key. In the mapping, a later key replaces the value
of an equal earlier one and keeps its place, and a key that is a collection is
refused, since it cannot be hashed.

The objects are kept in a `Store`; `Objects.view` reads the value of one of
them, writing a collection met again inside itself as `enclosing`.
-/

namespace QuoteMomentum.Document

/-- Whether a code point may appear in a document. -/
def isPrintable (n : Nat) : Bool :=
  n == 0x09 || n == 0x0A || n == 0x0D || (0x20 ≤ n && n ≤ 0x7E) || n == 0x85 ||
    (0xA0 ≤ n && n ≤ 0xD7FF) || (0xE000 ≤ n && n ≤ 0xFFFD) || 0x10000 ≤ n

/-- Whether a text holds only code points a document may hold: a lone
surrogate is refused. -/
def printable (text : String) : Bool := (Text.points text.toList).all isPrintable

namespace Node

/-- The tag of a node. -/
def tag : Node → String
  | scalar t _ | sequence t _ | mapping t _ => t

/-- The node with another tag. -/
def withTag (t : String) : Node → Node
  | scalar _ x => scalar t x
  | sequence _ xs => sequence t xs
  | mapping _ es => mapping t es

/-- The pairs of a mapping node; none for other nodes. -/
def entries? : Node → Option (List (Nat × Nat))
  | mapping _ es => some es
  | _ => none

end Node

/-! ## Objects -/

/-- The kind of collection a node makes. -/
inductive Kind where
  | list
  | dict
  | set
  | pairs
  deriving DecidableEq, Repr

/-- What a node reads as: the value of a scalar, or the collection object the
node numbered `node` made. -/
inductive Slot where
  | value (v : Value)
  | object (node : Nat) (kind : Kind)
  deriving Inhabited

/-- The contents of a collection object: nothing until its node is filled. -/
inductive Contents where
  | pending
  | items (xs : List Slot)
  | entries (es : List (Value × Slot))
  | members (keys : List Value)
  | pairs (ps : List (Slot × Slot))
  deriving Inhabited

/-- The graph being read, with what each node made and the collections still
to fill, in order. -/
structure Store where
  nodes : Array Node
  made : Array (Option Slot)
  contents : Array Contents
  queue : List Nat
  deriving Inhabited

/-- Reading a graph into objects, or a fault. -/
abbrev Build := StateT Store (Except Fault)

namespace Build

/-- The node numbered `i` as the graph is now. -/
def node (i : Nat) : Build Node := do return (← get).nodes.getD i default

/-- Replaces the node numbered `i`. -/
def setNode (i : Nat) (n : Node) : Build Unit :=
  modify fun s => { s with nodes := s.nodes.modify i fun _ => n }

/-- The tag of the node numbered `i`. -/
def tagOf (i : Nat) : Build String := do return (← node i).tag

/-- The pairs of the mapping numbered `i`, as they are now. -/
def entriesOf (i : Nat) : Build (List (Nat × Nat)) := do return ((← node i).entries?).getD []

/-- Sets the pairs of the mapping numbered `i`. -/
def setEntries (i : Nat) (es : List (Nat × Nat)) : Build Unit := do
  setNode i (.mapping (← tagOf i) es)

/-- The text of a node read as a scalar: a scalar's own text, or for a mapping
the text of the value of its first `=` key, read the same way. A chain of `=`
keys longer than the graph goes round a cycle and never ends. -/
def scalarText (nodes : Array Node) : Nat → Nat → Except Fault String
  | 0, _ => .error (.recursion "")
  | fuel + 1, i =>
    match nodes.getD i default with
    | .scalar _ t => .ok t
    | .mapping _ es =>
      match es.find? (fun e => (nodes.getD e.1 default).tag == Tag.value) with
      | some (_, v) => scalarText nodes fuel v
      | none => .error .unreadable
    | .sequence _ _ => .error .unreadable

/-- The kind of collection a tag makes, if it makes one. -/
def kindOf (tag : String) : Option Kind :=
  if tag == Tag.seq then some .list
  else if tag == Tag.map then some .dict
  else if tag == Tag.set then some .set
  else if tag == Tag.omap || tag == Tag.pairs then some .pairs
  else none

/-- What the node numbered `i` reads as: what it made before, if it was
reached before; else a scalar's value, or an empty collection queued to be
filled. -/
def object (i : Nat) : Build Slot := do
  let s ← get
  match s.made.getD i none with
  | some slot => return slot
  | none =>
    let n := s.nodes.getD i default
    let slot ← match kindOf n.tag with
      | some k => do
        modify fun s => { s with queue := s.queue ++ [i] }
        pure (Slot.object i k)
      | none =>
        if isScalarTag n.tag then do
          let text ← scalarText s.nodes (s.nodes.size + 1) i
          let isText := match n with
            | .scalar _ _ => true
            | _ => false
          pure (Slot.value (← scalarValue i n.tag isText text))
        else throw .unreadable
    modify fun s => { s with made := s.made.modify i fun _ => some slot }
    return slot

/-- The most steps merging may take: far beyond what any document holds. -/
def mergeFuel : Nat := Nat.pow 2 40

mutual

/-- Merges the mapping numbered `i`: its `<<` pairs are taken out and the
pairs they bring go in front of the rest. -/
def merge : Nat → Nat → Build Unit
  | 0, _ => throw (.recursion "")
  | fuel + 1, i => do
    let brought ← mergeFrom fuel i 0 []
    unless brought.isEmpty do setEntries i (brought ++ (← entriesOf i))

/-- Merges the pairs of the mapping numbered `i` from position `index` on,
with `brought` the pairs brought in so far. The pairs are read afresh at each
step, since merging another mapping may change this one. -/
def mergeFrom : Nat → Nat → Nat → List (Nat × Nat) → Build (List (Nat × Nat))
  | 0, _, _, _ => throw (.recursion "")
  | fuel + 1, i, index, brought => do
    let es ← entriesOf i
    match es[index]? with
    | none => return brought
    | some (k, v) =>
      let kt ← tagOf k
      if kt == Tag.merge then
        setEntries i (es.eraseIdx index)
        match ← node v with
        | .mapping _ _ =>
          merge fuel v
          let more ← entriesOf v
          mergeFrom fuel i index (brought ++ more)
        | .sequence _ subs =>
          let parts ← mergeEach fuel subs []
          mergeFrom fuel i index (brought ++ parts.reverse.flatten)
        | .scalar _ _ => throw .unreadable
      else
        if kt == Tag.value then setNode k ((← node k).withTag Tag.str)
        mergeFrom fuel i (index + 1) brought

/-- Merges each mapping of a list given to `<<`, collecting their pairs in
order; an item that is no mapping is a fault. -/
def mergeEach : Nat → List Nat → List (List (Nat × Nat)) → Build (List (List (Nat × Nat)))
  | 0, _, _ => throw (.recursion "")
  | _ + 1, [], acc => return acc
  | fuel + 1, sub :: rest, acc => do
    match ← node sub with
    | .mapping _ _ =>
      merge fuel sub
      let es ← entriesOf sub
      mergeEach fuel rest (acc ++ [es])
    | _ => throw .unreadable

end

/-- Writes `k ↦ v` into a mapping's entries: an existing key keeps its place
and takes the new value, a new key goes to the end. -/
def setEntry (es : List (Value × Slot)) (k : Value) (v : Slot) : List (Value × Slot) :=
  if es.any (fun e => Value.sameKey e.1 k) then
    es.map (fun e => if Value.sameKey e.1 k then (e.1, v) else e)
  else es ++ [(k, v)]

/-- The entries of the mapping numbered `i`, merged first: keys and values
read in order, a key that is a collection refused. -/
def mappingOf (i : Nat) : Build (List (Value × Slot)) := do
  if ((← node i).entries?).isSome then merge mergeFuel i
  match (← node i).entries? with
  | none => throw .unreadable
  | some es =>
    es.foldlM (fun acc (k, v) => do
      match ← object k with
      | .object _ _ => throw .unreadable
      | .value key => return setEntry acc key (← object v)) []

/-- The key and value of each single-pair mapping of the sequence numbered
`i`. -/
def pairsOf (i : Nat) : Build (List (Slot × Slot)) := do
  match ← node i with
  | .sequence _ subs =>
    subs.mapM fun sub => do
      match ← node sub with
      | .mapping _ [(k, v)] => return (← object k, ← object v)
      | _ => throw .unreadable
  | _ => throw .unreadable

/-- Sets the contents of the collection numbered `i`. -/
def setContents (i : Nat) (c : Contents) : Build Unit :=
  modify fun s => { s with contents := s.contents.modify i fun _ => c }

/-- Fills the collection the node numbered `i` made. -/
def fill (i : Nat) : Build Unit := do
  match (← get).made.getD i none with
  | some (.object _ k) =>
    match k with
    | .list =>
      match ← node i with
      | .sequence _ items => setContents i (.items (← items.mapM object))
      | _ => throw .unreadable
    | .dict => setContents i (.entries (← mappingOf i))
    | .set => setContents i (.members ((← mappingOf i).map Prod.fst))
    | .pairs => setContents i (.pairs (← pairsOf i))
  | _ => pure ()

/-- Fills the queued collections, first queued first; each node is queued at
most once, so the number of nodes bounds the steps. -/
def drain : Nat → Build Unit
  | 0 => pure ()
  | fuel + 1 => do
    match (← get).queue with
    | [] => pure ()
    | i :: rest =>
      modify fun s => { s with queue := rest }
      fill i
      drain fuel

end Build

/-! ## Reading values out -/

/-- A document read into objects: the store and what its root made. -/
structure Objects where
  store : Store
  root : Slot
  deriving Inhabited

namespace Objects

/-- The value of a slot: a scalar's value, or a collection with its contents
read out in turn. A collection met again inside itself, on the way down from
the slot, is `enclosing`. -/
def viewIn (s : Store) : Nat → List Nat → Slot → Value
  | _, _, .value v => v
  | 0, _, .object _ k => .enclosing (k == .dict)
  | fuel + 1, path, .object i k =>
    if path.contains i then .enclosing (k == .dict)
    else
      match s.contents.getD i .pending with
      | .items xs => .list (xs.map (viewIn s fuel (i :: path)))
      | .entries es => .dict (es.map fun e => (e.1, viewIn s fuel (i :: path) e.2))
      | .members keys => .set keys
      | .pairs ps =>
        .list (ps.map fun p => .tuple [viewIn s fuel (i :: path) p.1, viewIn s fuel (i :: path) p.2])
      | .pending => if k == .dict then .dict [] else .list []

/-- The value of a slot of the document. -/
def view (o : Objects) (slot : Slot) : Value := viewIn o.store (o.store.nodes.size + 1) [] slot

/-- The value of the whole document. -/
def value (o : Objects) : Value := o.view o.root

/-- The entries of a mapping object, values as slots; none for anything else. -/
def entries? (o : Objects) : Slot → Option (List (Value × Slot))
  | .object i .dict =>
    match o.store.contents.getD i .pending with
    | .entries es => some es
    | _ => some []
  | _ => none

/-- The slot under the text key `k` of a mapping object. -/
def lookup (o : Objects) (slot : Slot) (k : String) : Option Slot :=
  ((o.entries? slot).bind fun es => es.find? (fun e => Value.sameKey e.1 (.str k))).map (·.2)

/-- The empty document: null. -/
def none : Objects := ⟨⟨#[], #[], #[], []⟩, .value .null⟩

end Objects

/-- The objects of a configuration document: null when it holds no document. -/
def load (text : String) : Except Fault Objects := do
  if !printable text then throw .unreadable
  let tokens ← Token.scan text
  match ← Graph.ofTokens tokens with
  | none => return Objects.none
  | some g =>
    let n := g.nodes.size
    let start : Store := ⟨g.nodes, Array.replicate n none, Array.replicate n .pending, []⟩
    let (root, s) ← (do
      let r ← Build.object g.root
      Build.drain (n + 1)
      pure r).run start
    return ⟨s, root⟩

end QuoteMomentum.Document
