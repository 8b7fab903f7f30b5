import QuoteMomentum.Decimal.Compare
import QuoteMomentum.Calendar

/-!
# Document values

The configuration file and the feed's responses are trees of values: null,
booleans, whole numbers of any size, doubles, texts, byte strings, dates and
moments, lists, tuples, sets, and mappings that keep the order in which their
keys first appeared. Settings keep such values as they were written, because
the checks that accept or refuse a setting look at the value itself: a
boolean where a number was expected still counts as a number, and a text does
not.

A document may name a list or mapping inside itself (`&a [x, *a]`). Such a
value is a tree whose inner reference is `enclosing`: the list or mapping
that holds it, met again. Messages quote it as `[...]` or `{...}`.

A mapping holds each key once. Writing a key that is already present keeps its
place and replaces its value (`Value.setEntry`), which is how a document with
a repeated key is read: the last value wins, at the first position.
-/

namespace QuoteMomentum

/-- A value of a configuration document or of a feed response. -/
inductive Value where
  | null
  | bool (b : Bool)
  | int (n : Int)
  | float (x : Float)
  | str (s : String)
  | bytes (data : List UInt8)
  /-- A day of the calendar. -/
  | date (year : Int) (month day : Nat)
  /-- A day and a time of it, with an offset from UTC or without one. -/
  | moment (t : Stamp)
  | list (items : List Value)
  /-- A fixed sequence, as an ordered map of a document gives its pairs. -/
  | tuple (items : List Value)
  /-- Distinct keys without values, in the order they were written. -/
  | set (items : List Value)
  | dict (entries : List (Value × Value))
  /-- The list (or, when `mapping`, the mapping) that holds this value,
  reached again from inside itself. -/
  | enclosing (mapping : Bool)
  deriving Inhabited

namespace Value

/-- The name of the value's type, as error messages name it. -/
def typeName : Value → String
  | null => "NoneType"
  | bool _ => "bool"
  | int _ => "int"
  | float _ => "float"
  | str _ => "str"
  | bytes _ => "bytes"
  | date _ _ _ => "datetime.date"
  | moment _ => "datetime.datetime"
  | list _ => "list"
  | tuple _ => "tuple"
  | set _ => "set"
  | dict _ => "dict"
  | enclosing m => if m then "dict" else "list"

/-- Whether a value counts as true in a test: null, false, zero, and empty
texts, byte strings and collections count as false; NaN, dates and moments
count as true. -/
def truthy : Value → Bool
  | null => false
  | bool b => b
  | int n => n != 0
  | float x => !(x == 0.0)
  | str s => !s.isEmpty
  | bytes bs => !bs.isEmpty
  | date _ _ _ => true
  | moment _ => true
  | list xs => !xs.isEmpty
  | tuple xs => !xs.isEmpty
  | set xs => !xs.isEmpty
  | dict es => !es.isEmpty
  | enclosing _ => true

/-- Two moments are the same key when they are the same instant, if both have
an offset, or the same reading of the clock, if neither has; a moment with an
offset is never the same key as one without. -/
def sameMoment (a b : Stamp) : Bool :=
  match a.offset, b.offset with
  | some _, some _ => a.instant == b.instant
  | none, none => a == b
  | _, _ => false

mutual

/-- Two keys of a mapping are the same key: equal texts or byte strings, numbers
of equal value (booleans count as `0` and `1`), equal dates, the same moment,
tuples of the same keys, or both null. A NaN equals nothing, so two NaNs are
one key only when they are one object, which a NaN's payload records. -/
def sameKey : Value → Value → Bool
  | str a, str b => a == b
  | null, null => true
  | bool a, bool b => a == b
  | int a, int b => a == b
  | bool a, int b => (if a then 1 else 0) == b
  | int a, bool b => a == (if b then 1 else 0)
  | float a, float b => a == b || (a.isNaN && b.isNaN && a.toBits == b.toBits)
  | int a, float b => Decimal.cmpIntFloat a b == some .eq
  | float a, int b => Decimal.cmpIntFloat b a == some .eq
  | bool a, float b => Decimal.cmpIntFloat (if a then 1 else 0) b == some .eq
  | float a, bool b => Decimal.cmpIntFloat (if b then 1 else 0) a == some .eq
  | bytes a, bytes b => a == b
  | date y m d, date y' m' d' => y == y' && m == m' && d == d'
  | moment a, moment b => sameMoment a b
  | tuple a, tuple b => sameKeys a b
  | _, _ => false

/-- Lists of keys that are the same key item by item. -/
def sameKeys : List Value → List Value → Bool
  | [], [] => true
  | a :: as, b :: bs => sameKey a b && sameKeys as bs
  | _, _ => false

end

/-- Writes `k ↦ v` into a list of entries: an existing key keeps its place and
takes the new value, a new key goes to the end. -/
def setEntry (es : List (Value × Value)) (k v : Value) : List (Value × Value) :=
  if es.any (fun e => sameKey e.1 k) then
    es.map (fun e => if sameKey e.1 k then (e.1, v) else e)
  else es ++ [(k, v)]

/-- The value under the text key `k` of a mapping; nothing for other values. -/
def get? : Value → String → Option Value
  | dict es, k => (es.find? (fun e => sameKey e.1 (str k))).map (·.2)
  | _, _ => none

/-- The value under `k`, or null when the mapping lacks it or the value is no
mapping, as a lookup with a default of null reads it. -/
def getD (v : Value) (k : String) : Value := (v.get? k).getD null

/-- The elements a value yields when walked: the items of a list, tuple or set,
the characters of a text, the bytes of a byte string as whole numbers, the
keys of a mapping. -/
def elements? : Value → Option (List Value)
  | list xs | tuple xs | set xs => some xs
  | str s => some (s.toList.map fun c => str (String.singleton c))
  | bytes bs => some (bs.map fun b => int b.toNat)
  | dict es => some (es.map Prod.fst)
  | _ => none

/-- Whether the value is a mapping. -/
def isDict : Value → Bool
  | dict _ => true
  | _ => false

/-- Whether the value is a list. -/
def isList : Value → Bool
  | list _ => true
  | _ => false

/-- A mapping with text keys, from pairs. -/
def ofPairs (ps : List (String × Value)) : Value :=
  dict (ps.map (fun p => (str p.1, p.2)))

@[simp] theorem get?_dict_cons_str (k : String) (v : Value) (es : List (Value × Value)) :
    get? (dict ((str k, v) :: es)) k = some v := by
  simp [get?, List.find?, sameKey]

end Value

end QuoteMomentum
