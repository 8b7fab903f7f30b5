import QuoteMomentum.Value.Convert

/-!
# Close histories collected across polls

A history keeps, for every symbol it has seen, the closes appended to it, in
the order the symbols were first seen. A symbol is registered, with an empty
series, the first time anything asks about it, reading included.

The history may be bounded. The bound is a number at least zero:

* zero (or false) keeps every close;
* a positive whole number `n` (true counts as 1) keeps the last `n`;
* a fraction cannot cut a list: once a series is longer than it, appending
  fails, after the close was added.

Every operation gives the history after it together with its outcome, since a
failing append can still have registered the symbol or added the close.
-/

namespace QuoteMomentum

/-- How many closes a series keeps. -/
inductive Limit where
  /-- Every close. -/
  | unbounded
  /-- The last `n` closes, `n` positive. -/
  | last (n : Nat)
  /-- A fractional bound: a series longer than it cannot be cut. -/
  | fractional (x : Float)

namespace Limit

/-- The bound a configured maximum stands for; a negative one is refused, and
one that is no number cannot be compared with zero. -/
def ofValue (v : Value) : Except Fault Limit := do
  if ← v.test .lt (.int 0) then throw .negativeBuffer
  match v with
  | .bool true => pure (.last 1)
  | .int n => pure (if n = 0 then .unbounded else .last n.toNat)
  | .float x => pure (if x == 0.0 then .unbounded else .fractional x)
  | _ => pure .unbounded

/-- A series cut to the bound. -/
def cut : Limit → List Float → Except Fault (List Float)
  | .unbounded, xs => .ok xs
  | .last n, xs => .ok (xs.drop (xs.length - n))
  | .fractional x, xs => if x < Float.ofNat xs.length then .error .fractionalCut else .ok xs

end Limit

mutual

/-- The type that keeps a value from keying a table, if any: lists, mappings
and sets cannot key one, and a tuple cannot when one of its items cannot,
whose type is then named. -/
def Value.unhashableType? : Value → Option String
  | .list _ => some "list"
  | .dict _ => some "dict"
  | .set _ => some "set"
  | .enclosing m => some (if m then "dict" else "list")
  | .tuple xs => Value.firstUnhashable? xs
  | _ => none

/-- The type of the first item that cannot key a table. -/
def Value.firstUnhashable? : List Value → Option String
  | [] => none
  | x :: xs => (Value.unhashableType? x).or (Value.firstUnhashable? xs)

end

/-- The series of every symbol seen, in the order they were first seen. -/
structure History where
  limit : Limit
  entries : List (Value × List Float)

namespace History

/-- The series a symbol keys in a list of entries. -/
def lookup : List (Value × List Float) → Value → Option (List Float)
  | [], _ => none
  | (k, xs) :: rest, s => if k.sameKey s then some xs else lookup rest s

/-- The entries with a symbol's series replaced; a new symbol goes last. -/
def assign : List (Value × List Float) → Value → List Float → List (Value × List Float)
  | [], s, xs => [(s, xs)]
  | (k, ys) :: rest, s, xs => if k.sameKey s then (k, xs) :: rest else (k, ys) :: assign rest s xs

/-- An empty history with the given maximum. -/
def make (maxPoints : Value) : Except Fault History := do
  return ⟨← Limit.ofValue maxPoints, []⟩

/-- A symbol's series, registering the symbol when it is new. -/
def register (h : History) (symbol : Value) : Except Fault (History × List Float) :=
  match symbol.unhashableType? with
  | some t => .error (.unhashable t)
  | none =>
    match lookup h.entries symbol with
    | some xs => .ok (h, xs)
    | none => .ok ({ h with entries := h.entries ++ [(symbol, [])] }, [])

/-- The history with a symbol's series replaced. -/
def put (h : History) (symbol : Value) (xs : List Float) : History :=
  { h with entries := assign h.entries symbol xs }

/-- Appends a close to a symbol's series: the history after, and the series
cut to the bound or the fault. The price is read as a double first; a series
that cannot be cut keeps the new close. -/
def append (h : History) (symbol price : Value) : History × Except Fault (List Float) :=
  match h.register symbol with
  | .error e => (h, .error e)
  | .ok (h, xs) =>
    match price.toDouble with
    | .error e => (h, .error e)
    | .ok x =>
      let xs := xs ++ [x]
      match h.limit.cut xs with
      | .error e => (h.put symbol xs, .error e)
      | .ok ys => (h.put symbol ys, .ok ys)

/-- Appends a close and computes on the series after it while the symbol is
held: the history after the append, and what `compute` gives or the fault.
`compute` is called once, and only when the append succeeded. -/
def update {β : Type} (h : History) (symbol price : Value) (compute : List Float → Except Fault β) :
    History × Except Fault β :=
  let (h, r) := h.append symbol price
  (h, r.bind compute)

/-- A symbol's series, registering the symbol when it is new. -/
def series (h : History) (symbol : Value) : History × Except Fault (List Float) :=
  match h.register symbol with
  | .error e => (h, .error e)
  | .ok (h, xs) => (h, .ok xs)

/-- The number of closes of a symbol, registering the symbol when it is new. -/
def length (h : History) (symbol : Value) : History × Except Fault Nat :=
  let (h, r) := h.series symbol
  (h, r.map List.length)

/-- The symbols seen, in the order they were first seen. -/
def symbols (h : History) : List Value := h.entries.map Prod.fst

/-- Empties one symbol's series, registering it when it is new. -/
def resetOne (h : History) (symbol : Value) : History × Except Fault Unit :=
  match h.register symbol with
  | .error e => (h, .error e)
  | .ok (h, _) => (h.put symbol [], .ok ())

/-- Empties every series; the symbols stay. -/
def resetAll (h : History) : History :=
  { h with entries := h.entries.map fun e => (e.1, []) }

end History

end QuoteMomentum
