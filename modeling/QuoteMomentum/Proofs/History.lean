import Mathlib.Data.List.DropRight
import QuoteMomentum.Session.History

/-!
# A close history as a map from symbols to their last closes

A history keeps its series in a list of entries, found by the key equality of a
table (`Value.sameKey`): numbers of equal value are one key, a text is only ever
the same key as an equal text. For texts and byte strings that equality is plain
equality (`Value.IsPlain.sameKey_iff`), and through that lens a history is a map
from symbols to series.

`History.closesOf h s` is the series of `s`, empty for a symbol never seen.
Every operation on one symbol moves the history by at most three steps, each
stated once here with what it does to every series and to the registry:

* `History.enroll` registers the symbol, with an empty series if it is new;
* `History.put` replaces its series;
* cutting to the bound keeps the last `n` closes, or all of them when `n` is
  zero (`History.keepLast`).

Cutting after every append is the same as cutting once at the end
(`keepLast_append_keepLast`), which is what makes a bounded history a window on
the unbounded one.
-/

namespace QuoteMomentum

/-! ## Symbols that key by equality -/

/-- A text or a byte string: the values a chart address takes as a symbol. A
table finds such a value only under an equal key. -/
def Value.IsPlain (v : Value) : Prop := (∃ s, v = .str s) ∨ (∃ b, v = .bytes b)

namespace Value

theorem isPlain_str (s : String) : (Value.str s).IsPlain := .inl ⟨s, rfl⟩

theorem sameKey_str_iff (a : String) (t : Value) : (str a).sameKey t = true ↔ t = str a := by
  cases t with
  | str b => simp only [sameKey, beq_iff_eq, str.injEq]; exact eq_comm
  | _ => simp [sameKey]

theorem str_sameKey_iff (a : String) (t : Value) : t.sameKey (str a) = true ↔ t = str a := by
  cases t with
  | str b => simp only [sameKey, beq_iff_eq, str.injEq]
  | _ => simp [sameKey]

theorem sameKey_bytes_iff (a : List UInt8) (t : Value) :
    (bytes a).sameKey t = true ↔ t = bytes a := by
  cases t with
  | bytes b => simp only [sameKey, beq_iff_eq, bytes.injEq]; exact eq_comm
  | _ => simp [sameKey]

theorem bytes_sameKey_iff (a : List UInt8) (t : Value) :
    t.sameKey (bytes a) = true ↔ t = bytes a := by
  cases t with
  | bytes b => simp only [sameKey, beq_iff_eq, bytes.injEq]
  | _ => simp [sameKey]

theorem IsPlain.sameKey_iff {s : Value} (hs : s.IsPlain) (t : Value) :
    s.sameKey t = true ↔ t = s := by
  rcases hs with ⟨a, rfl⟩ | ⟨a, rfl⟩
  · exact sameKey_str_iff a t
  · exact sameKey_bytes_iff a t

theorem IsPlain.sameKey_iff' {s : Value} (hs : s.IsPlain) (t : Value) :
    t.sameKey s = true ↔ t = s := by
  rcases hs with ⟨a, rfl⟩ | ⟨a, rfl⟩
  · exact str_sameKey_iff a t
  · exact bytes_sameKey_iff a t

theorem IsPlain.unhashableType? {s : Value} (hs : s.IsPlain) : s.unhashableType? = none := by
  rcases hs with ⟨a, rfl⟩ | ⟨a, rfl⟩ <;> rfl

end Value

namespace Limit

/-! ## What a bound keeps -/

/-- The last `n` closes, all of them when `n` is zero. -/
def keepLast {α : Type} (n : Nat) (xs : List α) : List α := if n = 0 then xs else xs.rtake n

/-- A bound that keeps the last `n` closes and never refuses a series. -/
def Keeps (l : Limit) (n : Nat) : Prop := ∀ xs, l.cut xs = .ok (keepLast n xs)

@[simp] theorem keepLast_zero {α : Type} (xs : List α) : keepLast 0 xs = xs := rfl

theorem keepLast_nil {α : Type} (n : Nat) : keepLast n ([] : List α) = [] := by
  unfold keepLast
  split <;> simp [List.rtake_nil]

/-- Cutting a series, appending to it and cutting again is cutting once after
the append: the last `n` of `keepLast n xs ++ ys` never reach back past what the
first cut dropped. -/
theorem keepLast_append_keepLast {α : Type} (n : Nat) (xs ys : List α) :
    keepLast n (keepLast n xs ++ ys) = keepLast n (xs ++ ys) := by
  unfold keepLast
  split
  · rfl
  · simp only [List.rtake_eq_reverse_take_reverse, List.reverse_append, List.reverse_reverse,
      List.take_append, List.take_take]
    congr 3
    omega

/-- A whole bound of at least zero is accepted and keeps the last closes: zero or
false keeps all of them, `n` (true counting as 1) the last `n`. -/
theorem ofValue_of_whole {v : Value} {n : Nat} (hv : v.num? = some (.whole n)) :
    ∃ l, ofValue v = .ok l ∧ l.Keeps n := by
  cases v with
  | bool b =>
    cases b
    · have hn : n = 0 := by simp [Value.num?] at hv; omega
      refine ⟨.unbounded, rfl, fun xs => ?_⟩
      simp [hn, cut]
    · have hn : n = 1 := by simp [Value.num?] at hv; omega
      refine ⟨.last 1, rfl, fun xs => ?_⟩
      simp [hn, cut, keepLast, List.rtake]
  | int m =>
    simp only [Value.num?, Option.some.injEq, Num.whole.injEq] at hv
    subst hv
    -- a bound of at least zero is never refused
    have hneg : Rel.holds .lt (some (compare (n : Int) 0)) = false := by
      have hlt : compare (n : Int) 0 ≠ .lt := fun h => by
        have := Int.compare_eq_lt.mp h
        omega
      revert hlt
      cases compare (n : Int) 0 <;> simp [Rel.holds]
    by_cases h0 : n = 0
    · subst h0
      refine ⟨.unbounded, ?_, fun xs => rfl⟩
      simp [ofValue, Value.test, Value.num?, Num.cmp, Rel.holds, bind, Except.bind, pure,
        Except.pure]
    · refine ⟨.last n, ?_, fun xs => ?_⟩
      · simp [ofValue, Value.test, Value.num?, Num.cmp, hneg, bind, Except.bind, pure, Except.pure, h0]
      · simp [cut, keepLast, h0, List.rtake]
  | _ => simp [Value.num?] at hv

end Limit

namespace History

/-! ## Series and registry through lookups -/

/-- The series of a symbol: its closes, none for a symbol never seen. -/
def closesOf (h : History) (s : Value) : List Float := (lookup h.entries s).getD []

/-- The history with a symbol registered: as it was if the symbol is there, else
with an empty series for it at the end. -/
def enroll (h : History) (s : Value) : History :=
  match lookup h.entries s with
  | some _ => h
  | none => { h with entries := h.entries ++ [(s, [])] }

theorem lookup_append (es es' : List (Value × List Float)) (t : Value) :
    lookup (es ++ es') t = (lookup es t).or (lookup es' t) := by
  induction es with
  | nil => simp [lookup]
  | cons e rest ih =>
    obtain ⟨k, xs⟩ := e
    by_cases hk : k.sameKey t = true <;> simp [lookup, hk, ih]

/-- Replacing the series of a plain symbol changes what that symbol finds and
nothing else: no other key of the table is the same key as it. -/
theorem lookup_assign {s : Value} (hs : s.IsPlain) (es : List (Value × List Float))
    (xs : List Float) (t : Value) :
    lookup (assign es s xs) t = if s.sameKey t then some xs else lookup es t := by
  induction es with
  | nil => simp [assign, lookup]
  | cons e rest ih =>
    obtain ⟨k, ys⟩ := e
    by_cases hks : k.sameKey s = true
    · obtain rfl : k = s := (hs.sameKey_iff' k).mp hks
      by_cases hkt : k.sameKey t = true <;> simp [assign, lookup, hks, hkt]
    · by_cases hkt : k.sameKey t = true
      · -- `t` is keyed by `k`, so it is not `s`
        have hst : s.sameKey t = false := by
          cases hst : s.sameKey t
          · rfl
          · obtain rfl : t = s := (hs.sameKey_iff t).mp hst
            exact absurd hkt hks
        simp [assign, lookup, hks, hkt, hst]
      · simp [assign, lookup, hks, hkt, ih]

/-- A plain symbol is found exactly when it is one of the keys. -/
theorem isSome_lookup_iff {s : Value} (hs : s.IsPlain) (es : List (Value × List Float)) :
    (lookup es s).isSome ↔ s ∈ es.map Prod.fst := by
  induction es with
  | nil => simp [lookup]
  | cons e rest ih =>
    obtain ⟨k, xs⟩ := e
    by_cases hks : k.sameKey s = true
    · obtain rfl : k = s := (hs.sameKey_iff' k).mp hks
      simp [lookup, hks]
    · have hne : s ≠ k := fun h => hks ((hs.sameKey_iff' k).mpr h.symm)
      simp [lookup, hks, ih, hne]

/-- Assigning a series to a symbol the table already finds keeps its keys. -/
theorem keys_assign {es : List (Value × List Float)} {s : Value} (hfound : (lookup es s).isSome)
    (xs : List Float) : (assign es s xs).map Prod.fst = es.map Prod.fst := by
  induction es with
  | nil => simp [lookup] at hfound
  | cons e rest ih =>
    obtain ⟨k, ys⟩ := e
    by_cases hks : k.sameKey s = true
    · simp [assign, hks]
    · simp only [lookup, hks] at hfound
      simp [assign, hks, ih hfound]

theorem isSome_lookup_enroll {s : Value} (hs : s.IsPlain) (h : History) :
    (lookup (h.enroll s).entries s).isSome := by
  unfold enroll
  split
  · rename_i xs hfound
    simp [hfound]
  · rename_i hnone
    simp [lookup_append, hnone, lookup, (hs.sameKey_iff s).mpr rfl]

/-! ## The three moves -/

@[simp] theorem limit_enroll (h : History) (s : Value) : (h.enroll s).limit = h.limit := by
  unfold enroll
  split <;> rfl

@[simp] theorem limit_put (h : History) (s : Value) (xs : List Float) :
    (h.put s xs).limit = h.limit := rfl

/-- Registering a symbol changes no series. -/
@[simp] theorem closesOf_enroll (h : History) (s t : Value) :
    (h.enroll s).closesOf t = h.closesOf t := by
  unfold enroll closesOf
  split
  · rfl
  · simp only [lookup_append]
    cases lookup h.entries t <;> simp [lookup]
    split <;> rfl

/-- Registering a symbol puts it last among the symbols, unless it is there. -/
theorem symbols_enroll (h : History) (s : Value) :
    (h.enroll s).symbols = if (lookup h.entries s).isSome then h.symbols else h.symbols ++ [s] := by
  unfold enroll symbols
  split <;> rename_i hl <;> simp [hl]

theorem closesOf_put {s : Value} (hs : s.IsPlain) (h : History) (xs : List Float) (t : Value) :
    (h.put s xs).closesOf t = if s.sameKey t then xs else h.closesOf t := by
  simp only [closesOf, put, lookup_assign hs]
  split <;> rfl

/-- Replacing the series of a registered symbol keeps the registry. -/
theorem symbols_put_enroll {s : Value} (hs : s.IsPlain) (h : History) (xs : List Float) :
    ((h.enroll s).put s xs).symbols = (h.enroll s).symbols := by
  simp only [symbols, put]
  exact keys_assign (isSome_lookup_enroll hs h) xs

/-! ## The operations -/

theorem register_eq {s : Value} (hu : s.unhashableType? = none) (h : History) :
    h.register s = .ok (h.enroll s, h.closesOf s) := by
  simp only [register, enroll, closesOf, hu]
  cases lookup h.entries s <;> rfl

/-- An append whose price is no double registers the symbol and adds nothing. -/
theorem append_of_error {s p : Value} {e : Fault} (hu : s.unhashableType? = none)
    (hp : p.toDouble = .error e) (h : History) :
    h.append s p = (h.enroll s, .error e) := by
  simp [append, register_eq hu, hp]

/-- Under a bound that keeps the last `n`, an append adds the close to the
symbol's series and cuts it, and gives the series after. -/
theorem append_of_keeps {s p : Value} {x : Float} {n : Nat} (hu : s.unhashableType? = none)
    (hp : p.toDouble = .ok x) (h : History) (hl : h.limit.Keeps n) :
    h.append s p =
      ((h.enroll s).put s (Limit.keepLast n (h.closesOf s ++ [x])),
        .ok (Limit.keepLast n (h.closesOf s ++ [x]))) := by
  simp [append, register_eq hu, hp, hl (h.closesOf s ++ [x])]

/-- An update is an append followed by one call of `compute` on the series after
it: the close stays appended whatever `compute` gives. -/
theorem update_of_keeps {β : Type} {s p : Value} {x : Float} {n : Nat}
    (hu : s.unhashableType? = none) (hp : p.toDouble = .ok x) (h : History) (hl : h.limit.Keeps n)
    (compute : List Float → Except Fault β) :
    h.update s p compute =
      ((h.enroll s).put s (Limit.keepLast n (h.closesOf s ++ [x])),
        compute (Limit.keepLast n (h.closesOf s ++ [x]))) := by
  simp [update, append_of_keeps hu hp h hl, Except.bind]

theorem update_of_error {β : Type} {s p : Value} {e : Fault} (hu : s.unhashableType? = none)
    (hp : p.toDouble = .error e) (h : History) (compute : List Float → Except Fault β) :
    h.update s p compute = (h.enroll s, .error e) := by
  simp [update, append_of_error hu hp h, Except.bind]

/-- Whatever its price and bound, an append registers the symbol and at most
replaces the symbol's own series. -/
theorem append_moves {s : Value} (hu : s.unhashableType? = none) (h : History) (p : Value) :
    (h.append s p).1 = h.enroll s ∨ ∃ xs, (h.append s p).1 = (h.enroll s).put s xs := by
  simp only [append, register_eq hu]
  split
  · exact .inl rfl
  · split
    · exact .inr ⟨_, rfl⟩
    · exact .inr ⟨_, rfl⟩

theorem series_eq {s : Value} (hu : s.unhashableType? = none) (h : History) :
    h.series s = (h.enroll s, .ok (h.closesOf s)) := by
  simp [series, register_eq hu]

theorem length_eq {s : Value} (hu : s.unhashableType? = none) (h : History) :
    h.length s = (h.enroll s, .ok (h.closesOf s).length) := by
  simp [length, series_eq hu, Except.map]

theorem resetOne_eq {s : Value} (hu : s.unhashableType? = none) (h : History) :
    h.resetOne s = ((h.enroll s).put s [], .ok ()) := by
  simp [resetOne, register_eq hu]

/-! ## The bound stays -/

theorem limit_of_register {h h' : History} {s : Value} {xs : List Float}
    (hr : h.register s = .ok (h', xs)) : h'.limit = h.limit := by
  unfold register at hr
  split at hr
  · cases hr
  · split at hr <;> cases hr <;> rfl

/-- No append changes the bound, whether or not it fails. -/
@[simp] theorem limit_append (h : History) (s p : Value) : (h.append s p).1.limit = h.limit := by
  unfold append
  split
  · rfl
  · rename_i h' xs hr
    have hl := limit_of_register hr
    split
    · exact hl
    · dsimp only
      split <;> exact hl

@[simp] theorem limit_update {β : Type} (h : History) (s p : Value) (compute : List Float → Except Fault β) :
    (h.update s p compute).1.limit = h.limit := by
  simp [update]

@[simp] theorem closesOf_resetAll (h : History) (t : Value) : h.resetAll.closesOf t = [] := by
  unfold resetAll closesOf
  generalize h.entries = es
  induction es with
  | nil => rfl
  | cons e rest ih =>
    simp only [List.map_cons, lookup]
    split
    · rfl
    · exact ih

@[simp] theorem symbols_resetAll (h : History) : h.resetAll.symbols = h.symbols := by
  simp [resetAll, symbols, Function.comp_def]

@[simp] theorem limit_resetAll (h : History) : h.resetAll.limit = h.limit := rfl

end History

end QuoteMomentum
