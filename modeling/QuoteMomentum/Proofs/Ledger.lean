import QuoteMomentum.Proofs.History

/-!
# The close history refines a ledger

A close history is specified by a simpler object, a *ledger*: the symbols in the
order they were first touched, and for each symbol every close appended to it
since the last reset that covered it, uncut. A history whose bound keeps the
last `n` closes answers every operation as the ledger says it must, with each
series cut to its last `n`.

The operations are those of a session history, on texts as symbols: append,
update (append, then compute on the series after), series, length, the list of
symbols, and the resets of one symbol or of all. A price the float conversion
refuses ends its operation with the fault after registering the symbol; a
computation that fails ends its update with the fault after the append, so the
close stays. The ledger records both.

Main statements:

* `History.step_tracks`, `History.run_tracks`: a step, and then every run, of the
  history answers as the ledger does and keeps the history a cut of the ledger;
* `Ledger.symbols_run`, `Ledger.closes_run`: the ledger after a run, read off
  the operations themselves: the symbols touched, without repeats, in the order
  first touched, and the closes appended since the last reset of each symbol;
* `History.refines_ledger`: the two together, from a freshly made history.
-/

namespace QuoteMomentum

open Limit (keepLast)

namespace History

/-- An operation on a close history, with texts as symbols. -/
inductive Op (β : Type) where
  | append (symbol : String) (price : Value)
  | update (symbol : String) (price : Value) (compute : List Float → Except Fault β)
  | series (symbol : String)
  | length (symbol : String)
  | symbols
  | reset (symbol : String)
  | resetAll

/-- What an operation gives back. -/
inductive Reply (β : Type) where
  | closes (xs : List Float)
  | count (n : Nat)
  | names (symbols : List Value)
  | computed (result : β)
  | done

namespace Op

variable {β : Type}

/-- The symbol an operation touches, if it names one. -/
def touched : Op β → Option String
  | append s _ | update s _ _ | series s | length s | reset s => some s
  | symbols | resetAll => none

/-- Whether an operation empties the series of `s`. -/
def clears (s : String) : Op β → Bool
  | reset t => t == s
  | resetAll => true
  | _ => false

/-- The close an operation appends to the series of `s`: the price of an append
or update of `s`, when the float conversion takes it. -/
def added (s : String) : Op β → Option Float
  | append t p | update t p _ => if t = s then p.toDouble.toOption else none
  | _ => none

end Op

/-- One operation on a history: the history after it, and what it gives or the fault. -/
def step {β : Type} (h : History) : Op β → History × Except Fault (Reply β)
  | .append s p => let (h, r) := h.append (.str s) p; (h, r.map .closes)
  | .update s p f => let (h, r) := h.update (.str s) p f; (h, r.map .computed)
  | .series s => let (h, r) := h.series (.str s); (h, r.map .closes)
  | .length s => let (h, r) := h.length (.str s); (h, r.map .count)
  | .symbols => (h, .ok (.names h.symbols))
  | .reset s => let (h, r) := h.resetOne (.str s); (h, r.map fun _ => .done)
  | .resetAll => (h.resetAll, .ok .done)

/-- A run of operations: the history after the last, and what each gave. -/
def run {β : Type} (h : History) : List (Op β) → History × List (Except Fault (Reply β))
  | [] => (h, [])
  | op :: ops =>
    let (h₁, r) := h.step op
    let (h₂, rs) := h₁.run ops
    (h₂, r :: rs)

end History

/-- The symbols of a session in the order they were first touched, and for each
symbol the closes appended to it since the last reset that covered it. -/
structure Ledger where
  symbols : List String
  closes : String → List Float

namespace Ledger

open History (Op Reply)

/-- The ledger of a new session. -/
def empty : Ledger := ⟨[], fun _ => []⟩

/-- A symbol touched: listed last if it is new. -/
def touch (a : Ledger) (s : String) : Ledger :=
  { a with symbols := if s ∈ a.symbols then a.symbols else a.symbols ++ [s] }

/-- A symbol touched and its closes replaced. -/
def write (a : Ledger) (s : String) (xs : List Float) : Ledger :=
  { a.touch s with closes := fun t => if t = s then xs else a.closes t }

/-- What an operation must give on a history whose bound keeps the last `n`
closes, and the ledger after it. -/
def step {β : Type} (n : Nat) (a : Ledger) : Op β → Ledger × Except Fault (Reply β)
  | .append s p =>
    match p.toDouble with
    | .error e => (a.touch s, .error e)
    | .ok x => (a.write s (a.closes s ++ [x]), .ok (.closes (keepLast n (a.closes s ++ [x]))))
  | .update s p f =>
    match p.toDouble with
    | .error e => (a.touch s, .error e)
    | .ok x => (a.write s (a.closes s ++ [x]), (f (keepLast n (a.closes s ++ [x]))).map .computed)
  | .series s => (a.touch s, .ok (.closes (keepLast n (a.closes s))))
  | .length s => (a.touch s, .ok (.count (keepLast n (a.closes s)).length))
  | .symbols => (a, .ok (.names (a.symbols.map .str)))
  | .reset s => (a.write s [], .ok .done)
  | .resetAll => ({ a with closes := fun _ => [] }, .ok .done)

/-- A run of operations on the ledger. -/
def run {β : Type} (n : Nat) (a : Ledger) : List (Op β) → Ledger × List (Except Fault (Reply β))
  | [] => (a, [])
  | op :: ops =>
    let (a₁, r) := a.step n op
    let (a₂, rs) := a₁.run n ops
    (a₂, r :: rs)

end Ledger

namespace Ledger

open History (Op Reply)

variable {β : Type}

/-! ## The ledger read off the operations -/

theorem run_append (n : Nat) (a : Ledger) (ops₁ ops₂ : List (Op β)) :
    (a.run n (ops₁ ++ ops₂)).1 = ((a.run n ops₁).1.run n ops₂).1 := by
  induction ops₁ generalizing a with
  | nil => rfl
  | cons op ops ih => simp [run, ih]

theorem symbols_step (n : Nat) (a : Ledger) (op : Op β) :
    (a.step n op).1.symbols =
      match op.touched with
      | some s => if s ∈ a.symbols then a.symbols else a.symbols ++ [s]
      | none => a.symbols := by
  cases op with
  | append s p | update s p _ => simp only [step]; split <;> rfl
  | series s | length s | reset s => rfl
  | symbols | resetAll => rfl

theorem closes_step (n : Nat) (a : Ledger) (op : Op β) (s : String) :
    (a.step n op).1.closes s = if op.clears s then [] else a.closes s ++ (op.added s).toList := by
  cases op with
  | append t p | update t p _ =>
    simp only [step, Op.clears, Op.added]
    by_cases hts : t = s
    · subst hts
      split <;> rename_i hp <;> simp [touch, write, hp, Except.toOption]
    · split <;> simp [touch, write, hts, Ne.symm hts]
  | series t | length t => simp [step, touch, Op.clears, Op.added]
  | symbols => simp [step, Op.clears, Op.added]
  | reset t =>
    by_cases hts : t = s
    · simp [step, write, Op.clears, hts]
    · simp [step, write, touch, Op.clears, Op.added, hts, Ne.symm hts]
  | resetAll => simp [step, Op.clears]

/-- The symbols of a ledger are those the operations touched, each once, in the
order they were first touched. -/
theorem symbols_run (n : Nat) (ops : List (Op β)) :
    (empty.run n ops).1.symbols = (ops.filterMap Op.touched).eraseDups := by
  induction ops using List.reverseRecOn with
  | nil => rfl
  | append_singleton ops op ih =>
    rw [run_append, List.filterMap_append, List.eraseDups_append, ← ih]
    simp only [run]
    rw [symbols_step]
    cases hop : op.touched with
    | none => simp [hop]
    | some s =>
      have hmem : s ∈ (empty.run n ops).1.symbols ↔ ∃ op' ∈ ops, op'.touched = some s := by
        rw [ih, List.mem_eraseDups, List.mem_filterMap]
      by_cases hs : s ∈ (empty.run n ops).1.symbols
      · simp [hop, hs, List.removeAll, hmem.mp hs]
      · simp [hop, hs, List.removeAll, hmem.not.mp hs, List.eraseDups_cons]

/-- The closes a ledger holds for `s` are those appended to `s` since the last
operation that emptied its series. -/
theorem closes_run (n : Nat) (ops : List (Op β)) (s : String) :
    (empty.run n ops).1.closes s = (ops.rtakeWhile fun op => !op.clears s).filterMap (Op.added s) := by
  induction ops using List.reverseRecOn with
  | nil => rfl
  | append_singleton ops op ih =>
    rw [run_append]
    simp only [run]
    rw [closes_step, ih, List.rtakeWhile_concat]
    by_cases hc : op.clears s = true
    · simp [hc]
    · cases hadd : op.added s <;> simp [hc, hadd, List.filterMap_append]

end Ledger

namespace History

open Ledger

/-! ## The history is a cut of the ledger -/

/-- A history tracks a ledger under a bound of `n`: its bound keeps the last `n`
closes, its symbols are the ledger's, and each series is the ledger's cut to its
last `n`. -/
def Tracks (n : Nat) (h : History) (a : Ledger) : Prop :=
  h.limit.Keeps n ∧ h.symbols = a.symbols.map .str ∧
    ∀ s, h.closesOf (.str s) = keepLast n (a.closes s)

variable {β : Type} {n : Nat} {h : History} {a : Ledger}

theorem Tracks.enroll (ht : Tracks n h a) (s : String) :
    Tracks n (h.enroll (.str s)) (a.touch s) := by
  refine ⟨by simpa using ht.1, ?_, fun t => by simpa [touch] using ht.2.2 t⟩
  -- the history finds `s` exactly when the ledger lists it
  have hfound : (lookup h.entries (.str s)).isSome = decide (s ∈ a.symbols) := by
    have hkeys : h.entries.map Prod.fst = a.symbols.map .str := ht.2.1
    rw [Bool.eq_iff_iff, isSome_lookup_iff (Value.isPlain_str s), hkeys]
    simp
  rw [symbols_enroll, hfound, ht.2.1]
  by_cases hs : s ∈ a.symbols <;> simp [touch, hs]

theorem Tracks.write (ht : Tracks n h a) (s : String) (xs : List Float) :
    Tracks n ((h.enroll (.str s)).put (.str s) (keepLast n xs)) (a.write s xs) := by
  have he := ht.enroll s
  refine ⟨by simpa using he.1, ?_, fun t => ?_⟩
  · rw [symbols_put_enroll (Value.isPlain_str s)]
    exact he.2.1
  · rw [closesOf_put (Value.isPlain_str s), he.2.2 t]
    by_cases hts : t = s
    · subst hts
      simp [Ledger.write, (Value.sameKey_str_iff t (.str t)).mpr rfl]
    · have hkey : (Value.str s).sameKey (.str t) = false := by
        cases hk : (Value.str s).sameKey (.str t)
        · rfl
        · exact absurd (Value.str.inj ((Value.sameKey_str_iff s _).mp hk)) hts
      simp [Ledger.write, touch, hkey, hts]

/-- **One step.** An operation on a history that tracks a ledger gives what the
ledger says, and the history after it tracks the ledger after it. -/
theorem step_tracks (ht : Tracks n h a) (op : Op β) :
    (h.step op).2 = (a.step n op).2 ∧ Tracks n (h.step op).1 (a.step n op).1 := by
  have hu : ∀ s : String, (Value.str s).unhashableType? = none := fun _ => rfl
  cases op with
  | append s p =>
    cases hp : p.toDouble with
    | error e =>
      simp only [step, Ledger.step, hp, append_of_error (hu s) hp]
      exact ⟨rfl, ht.enroll s⟩
    | ok x =>
      have hx := append_of_keeps (hu s) hp h ht.1
      rw [ht.2.2 s, Limit.keepLast_append_keepLast] at hx
      simp only [step, Ledger.step, hp, hx]
      exact ⟨rfl, ht.write s _⟩
  | update s p f =>
    cases hp : p.toDouble with
    | error e =>
      simp only [step, Ledger.step, hp, update_of_error (hu s) hp]
      exact ⟨rfl, ht.enroll s⟩
    | ok x =>
      have hx := update_of_keeps (hu s) hp h ht.1 f
      rw [ht.2.2 s, Limit.keepLast_append_keepLast] at hx
      simp only [step, Ledger.step, hp, hx, true_and]
      exact ht.write s _
  | series s =>
    simp only [step, Ledger.step, series_eq (hu s), ht.2.2 s]
    exact ⟨rfl, ht.enroll s⟩
  | length s =>
    simp only [step, Ledger.step, length_eq (hu s), ht.2.2 s]
    exact ⟨rfl, ht.enroll s⟩
  | symbols => exact ⟨by simp [step, Ledger.step, ht.2.1], ht⟩
  | reset s =>
    have hw := ht.write s []
    rw [Limit.keepLast_nil] at hw
    refine ⟨by simp [step, Ledger.step, resetOne_eq (hu s), Except.map], ?_⟩
    simpa [step, Ledger.step, resetOne_eq (hu s)] using hw
  | resetAll =>
    refine ⟨rfl, by simpa [step] using ht.1, by simpa [step, Ledger.step] using ht.2.1, fun s => ?_⟩
    simp [step, Ledger.step, Limit.keepLast_nil]

/-- **Every run.** From a history that tracks a ledger, a run of operations gives
what the ledger's run gives, step for step, and ends tracking it. -/
theorem run_tracks (ht : Tracks n h a) (ops : List (Op β)) :
    (h.run ops).2 = (a.run n ops).2 ∧ Tracks n (h.run ops).1 (a.run n ops).1 := by
  induction ops generalizing h a with
  | nil => exact ⟨rfl, ht⟩
  | cons op ops ih =>
    obtain ⟨hr, ht₁⟩ := step_tracks ht op
    obtain ⟨hrs, ht₂⟩ := ih ht₁
    exact ⟨by simp [run, Ledger.run, hr, hrs], by simpa [run, Ledger.run] using ht₂⟩

/-- An operation on one symbol leaves the series of every other symbol as it was,
whatever the bound and whether or not the operation fails. -/
theorem closesOf_step_of_ne (h : History) (op : Op β) {s t : String}
    (hs : op.touched = some s) (hts : t ≠ s) :
    (h.step op).1.closesOf (.str t) = h.closesOf (.str t) := by
  have hu : (Value.str s).unhashableType? = none := rfl
  have hkey : (Value.str s).sameKey (.str t) = false := by
    cases hk : (Value.str s).sameKey (.str t)
    · rfl
    · exact absurd (Value.str.inj ((Value.sameKey_str_iff s _).mp hk)) hts
  -- every operation on `s` registers it and at most replaces its series
  have hmove : ∀ h' : History, (h' = h.enroll (.str s) ∨ ∃ xs, h' = (h.enroll (.str s)).put (.str s) xs) →
      h'.closesOf (.str t) = h.closesOf (.str t) := by
    rintro h' (rfl | ⟨xs, rfl⟩)
    · exact closesOf_enroll h _ _
    · rw [closesOf_put (Value.isPlain_str s), hkey]
      exact closesOf_enroll h _ _
  cases op with
  | append s' p | update s' p _ =>
    obtain rfl : s' = s := by simpa [Op.touched] using hs
    exact hmove _ (append_moves hu h p)
  | series s' | length s' =>
    obtain rfl : s' = s := by simpa [Op.touched] using hs
    exact hmove _ (.inl (by simp [step, series_eq hu, length_eq hu]))
  | reset s' =>
    obtain rfl : s' = s := by simpa [Op.touched] using hs
    exact hmove _ (.inr ⟨[], by simp [step, resetOne_eq hu]⟩)
  | symbols | resetAll => simp [Op.touched] at hs

/-- A fresh history tracks the empty ledger. -/
theorem tracks_empty {l : Limit} (hl : l.Keeps n) : Tracks n ⟨l, []⟩ Ledger.empty :=
  ⟨hl, rfl, fun s => by simp [closesOf, lookup, Ledger.empty, Limit.keepLast_nil]⟩

/-- **Refinement.** A history made with a whole bound of at least zero (`n`, zero
keeping every close) answers every run of operations as the ledger does. After
the run it lists the symbols touched, each once, in the order first touched;
each series is the last `n` of the closes appended to its symbol since the last
reset that covered it; and any further operation on one symbol leaves the series
of every other symbol as it was. -/
theorem refines_ledger {v : Value} (hv : v.num? = some (.whole n)) (ops : List (Op β)) :
    ∃ h₀, make v = .ok h₀ ∧
      (h₀.run ops).2 = (Ledger.empty.run n ops).2 ∧
      (h₀.run ops).1.symbols = (ops.filterMap Op.touched).eraseDups.map .str ∧
      (∀ s, (h₀.run ops).1.closesOf (.str s) =
        keepLast n ((ops.rtakeWhile fun op => !op.clears s).filterMap (Op.added s))) ∧
      ∀ (op : Op β) s t, op.touched = some s → t ≠ s →
        ((h₀.run ops).1.step op).1.closesOf (.str t) = (h₀.run ops).1.closesOf (.str t) := by
  obtain ⟨l, hmake, hl⟩ := Limit.ofValue_of_whole hv
  refine ⟨⟨l, []⟩, by simp [make, hmake, bind, Except.bind, pure, Except.pure], ?_⟩
  obtain ⟨hreplies, hkeeps, hsymbols, hcloses⟩ := run_tracks (tracks_empty hl) ops
  refine ⟨hreplies, ?_, fun s => ?_, fun op s t hs hts => closesOf_step_of_ne _ op hs hts⟩
  · rw [hsymbols, Ledger.symbols_run]
  · rw [hcloses s, Ledger.closes_run]

/-- The refinement at a bound of two, for two appends, an update and a reset. -/
theorem refines_ledger_bound_two :
    let ops : List (Op Nat) := [.append "A" (.float 1.0), .append "B" (.int 2),
      .update "A" (.float 3.0) (fun xs => .ok xs.length), .reset "B"]
    (Value.int 2).num? = some (.whole 2) ∧
      ∃ h₀, make (.int 2) = .ok h₀ ∧
        (h₀.run ops).2 = (Ledger.empty.run 2 ops).2 ∧
        (h₀.run ops).1.symbols = (ops.filterMap Op.touched).eraseDups.map .str ∧
        (∀ s, (h₀.run ops).1.closesOf (.str s) =
          keepLast 2 ((ops.rtakeWhile fun op => !op.clears s).filterMap (Op.added s))) ∧
        ∀ (op : Op Nat) s t, op.touched = some s → t ≠ s →
          ((h₀.run ops).1.step op).1.closesOf (.str t) = (h₀.run ops).1.closesOf (.str t) := by
  intro ops
  exact ⟨rfl, refines_ledger rfl ops⟩

/-- An update whose computation fails keeps the close it appended: the
computation runs after the append, on the series that holds it. -/
theorem update_keeps_close_of_failing_compute :
    ∃ h₀, make (.int 0) = .ok h₀ ∧
      (h₀.step (.update "A" (.float 1.0) fun _ => (.error .divisionByZero : Except Fault Unit))).2 =
        .error .divisionByZero ∧
      (h₀.step (.update "A" (.float 1.0) fun _ => (.error .divisionByZero : Except Fault Unit))).1.closesOf
        (.str "A") = [1.0] :=
  ⟨⟨.unbounded, []⟩, rfl, rfl, rfl⟩

end History

end QuoteMomentum
