import QuoteMomentum.Indicator.Periods
import QuoteMomentum.Proofs.Validate

/-!
# When a MACD reading is valid

An EMA of period `p` over `n` values is defined from index `p - 1` on, when
`1 ≤ p ≤ n`: its defined part is the scan `Ema.matured`, of `n - p + 1`
values. The MACD line subtracts the slow EMA from the fast one where both are
defined, so it has `n - slow + 1` values, and the signal line over it is
defined at its last two indices exactly when there are `signal + 1` of them.

Hence the window: with periods `1 ≤ fast ≤ slow` and `1 ≤ signal`, a reading
is valid exactly when the series has at least `slow + signal + 1` closes
(`Macd.valid_lastTwo_iff`). The percents do not enter: a reference close of
zero only marks them meaningless.

An indicator built by `Macd.Config.make` has periods of at least one, fast
below slow. Whole ones give the window; with any other the reading either
fails or is the reading of too few closes. So a reading of a built indicator
that did not fail is valid exactly when the periods are whole and the series
holds `slow + signal + 1` closes (`Macd.Config.valid_iff_of_make`).
-/

namespace QuoteMomentum

/-- A list of at least two entries ends with two of them. -/
theorem reverse_eq_cons_cons {β : Type} {l : List β} (h : 2 ≤ l.length) :
    ∃ a b rest, l.reverse = a :: b :: rest := by
  have h' : 2 ≤ l.reverse.length := by simpa using h
  match l.reverse, h' with
  | a :: b :: rest, _ => exact ⟨a, b, rest, rfl⟩
  | [], h' => simp at h'
  | [_], h' => simp at h'

namespace Ema

open Numeric

variable {α : Type} [Numeric α]

theorem fits_iff (p : Int) (n : Nat) : fits p n = true ↔ 1 ≤ p ∧ p ≤ n := by
  simp [fits]

theorem matured_ne_nil (xs : List α) (p : Nat) : matured xs p ≠ [] := by
  simp [matured]

theorem values_compute {xs : List α} {p : Int} (h : fits p xs.length = true) :
    (compute xs p).values = List.replicate (p.toNat - 1) none ++ (matured xs p.toNat).map some := by
  simp [compute, h]

/-- An average that fits its series is defined at the last index. -/
theorem isDefined_compute {xs : List α} {p : Int} (h : fits p xs.length = true) :
    (compute xs p).isDefined = true := by
  obtain ⟨x, hx⟩ := List.getLast?_isSome.mpr (matured_ne_nil xs p.toNat)
    |> Option.isSome_iff_exists.mp
  unfold Series.isDefined
  rw [values_compute h, List.getLast?_append, List.getLast?_map, hx]
  rfl

/-- The defined part of an average that fits its series is its matured scan. -/
theorem defined_compute {xs : List α} {p : Int} (h : fits p xs.length = true) :
    (compute xs p).defined = matured xs p.toNat := by
  have hp : 1 ≤ p := ((fits_iff p xs.length).mp h).1
  have hseed : (compute xs p).seedIndex.toNat = (List.replicate (p.toNat - 1) (none : Option α)).length := by
    simp only [Series.seedIndex, compute, h, if_true, List.length_replicate]
    omega
  unfold Series.defined
  rw [if_pos (isDefined_compute h), hseed, values_compute h, List.drop_left]
  simp [List.filterMap_map]

/-- Over at least `p + 1` values, the last two entries of an average are defined. -/
theorem reverse_values_compute {xs : List α} {p : Int} (hp : 1 ≤ p) (hn : p + 1 ≤ xs.length) :
    ∃ a b rest, (compute xs p).values.reverse = some a :: some b :: rest := by
  have hfits : fits p xs.length = true := (fits_iff p xs.length).mpr ⟨hp, by omega⟩
  have hlen : 2 ≤ (matured xs p.toNat).length := by
    rw [length_matured]
    omega
  obtain ⟨a, b, rest, hrev⟩ := reverse_eq_cons_cons hlen
  refine ⟨a, b, (rest.map some) ++ (List.replicate (p.toNat - 1) none).reverse, ?_⟩
  rw [values_compute hfits, List.reverse_append, ← List.map_reverse, hrev]
  rfl

end Ema

namespace Macd

open Numeric

variable {α : Type} [Numeric α]

/-- The MACD line has one value for each index where the slow average is
defined. -/
theorem length_line {p : Periods} {xs : List α} (hf : 1 ≤ p.fast) (hfs : p.fast ≤ p.slow)
    (hn : p.slow ≤ xs.length) : ((line p xs).length : Int) = xs.length - p.slow + 1 := by
  have hfast : Ema.fits p.fast xs.length = true := (Ema.fits_iff _ _).mpr ⟨hf, by omega⟩
  have hslow : Ema.fits p.slow xs.length = true := (Ema.fits_iff _ _).mpr ⟨by omega, hn⟩
  unfold line
  simp only [Ema.isDefined_compute hslow, if_true, List.length_zipWith, List.length_drop,
    Ema.defined_compute hfast, Ema.defined_compute hslow, Ema.length_matured]
  omega

/-- The readings of a line whose signal is defined at its last two indices are
valid. -/
theorem valid_readingOf {p : Periods} {xs : List α} {lastClose : Option α} {m : List α}
    (hg : 1 ≤ p.signal) (hm : p.signal + 1 ≤ m.length) : (readingOf p xs lastClose m).valid = true := by
  obtain ⟨sl, sp, rest, hsig⟩ := Ema.reverse_values_compute hg hm
  obtain ⟨ml, mp, mrest, hline⟩ := reverse_eq_cons_cons (show 2 ≤ m.length by omega)
  unfold readingOf
  rw [hline, hsig]
  dsimp only
  split <;> rfl

/-- **The window.** With periods `1 ≤ fast ≤ slow` and `1 ≤ signal`, a reading
is valid exactly when there are at least `slow + signal + 1` closes. -/
theorem valid_lastTwo_iff {p : Periods} (hf : 1 ≤ p.fast) (hfs : p.fast ≤ p.slow) (hg : 1 ≤ p.signal)
    (xs : List α) (lastClose : Option α) :
    (lastTwo p xs lastClose).valid = true ↔ p.slow + p.signal + 1 ≤ xs.length := by
  unfold lastTwo
  by_cases hshort : (xs.length : Int) < p.slow + p.signal + 1
  · simp only [hshort, if_true]
    constructor
    · intro h
      cases h
    · intro h
      omega
  · have hline : ((line p xs).length : Int) = xs.length - p.slow + 1 := length_line hf hfs (by omega)
    have hlong : ¬((line p xs).length : Int) < p.signal + 1 := by omega
    simp only [hshort, hlong, if_false]
    constructor
    · intro _
      omega
    · intro _
      exact valid_readingOf hg (by omega)

/-- With whole periods, the configured reading is the reading of those periods
and never fails. -/
theorem Config.lastTwo_of_periods {c : Config} {p : Periods} (hp : c.periods? = some p) (xs : List α)
    (lastClose : Option α) : c.lastTwo xs lastClose = .ok (Macd.lastTwo p xs lastClose) := by
  simp [Config.lastTwo, hp]

end Macd

/-! ## Built indicators -/

namespace Value

theorem eq_int_of_whole? {v : Value} {k : Int} (h : v.whole? = some k) : v = .int k := by
  cases v with
  | int j =>
    simp only [whole?, Option.some.injEq] at h
    rw [h]
  | _ => simp [whole?] at h

end Value

namespace Macd.Config

variable {c : Config} {f sl g : Value}

/-- Whole periods of a built indicator satisfy `1 ≤ fast < slow` and `1 ≤ signal`. -/
theorem periods_of_make (hc : Config.make f sl g = .ok c) {p : Periods} (hp : c.periods? = some p) :
    1 ≤ p.fast ∧ p.fast < p.slow ∧ 1 ≤ p.signal := by
  unfold Config.make at hc
  obtain ⟨hfast, hc⟩ := Except.ok_of_guard hc
  obtain ⟨hslow, hc⟩ := Except.ok_of_guard hc
  obtain ⟨hsignal, hc⟩ := Except.ok_of_guard hc
  obtain ⟨horder, hc⟩ := Except.ok_of_guard hc
  cases hc
  unfold periods? at hp
  dsimp only at hp
  split at hp
  · rename_i a b d ha hb hd
    cases hp
    rw [Value.eq_int_of_whole? ha, Value.test_int_lt] at hfast
    rw [Value.eq_int_of_whole? hb, Value.test_int_lt] at hslow
    rw [Value.eq_int_of_whole? hd, Value.test_int_lt] at hsignal
    rw [Value.eq_int_of_whole? ha, Value.eq_int_of_whole? hb, Value.test_int_ge] at horder
    simp only [Except.ok.injEq, decide_eq_false_iff_not] at hfast hslow hsignal horder
    dsimp only
    refine ⟨?_, ?_, ?_⟩ <;> omega
  · cases hp

/-- Without whole periods, a reading that does not fail is not valid: it can
only be the reading of too few closes. -/
theorem valid_of_lastTwo_none {α : Type} [Numeric α] {xs : List α} {lastClose : Option α}
    {r : Reading α} (hp : c.periods? = none) (h : c.lastTwo xs lastClose = .ok r) : r.valid = false := by
  unfold lastTwo at h
  rw [hp] at h
  obtain ⟨need, -, h⟩ := Except.ok_of_bind h
  obtain ⟨few, -, h⟩ := Except.ok_of_bind h
  cases few with
  | true =>
    cases h
    rfl
  | false =>
    obtain ⟨line, -, h⟩ := Except.ok_of_bind h
    obtain ⟨need', -, h⟩ := Except.ok_of_bind h
    obtain ⟨few', -, h⟩ := Except.ok_of_bind h
    cases few' with
    | true =>
      cases h
      rfl
    | false => cases h

/-- **Valid readings of a built indicator.** A reading that did not fail is
valid exactly when the periods are whole and the series holds at least
`slow + signal + 1` closes. -/
theorem valid_iff_of_make {α : Type} [Numeric α] (hc : Config.make f sl g = .ok c) {xs : List α}
    {lastClose : Option α} {r : Reading α} (h : c.lastTwo xs lastClose = .ok r) :
    r.valid = true ↔ ∃ p, c.periods? = some p ∧ p.slow + p.signal + 1 ≤ xs.length := by
  cases hp : c.periods? with
  | none =>
    rw [valid_of_lastTwo_none hp h]
    simp
  | some p =>
    obtain ⟨hfast, horder, hsignal⟩ := periods_of_make hc hp
    rw [lastTwo_of_periods hp xs lastClose, Except.ok.injEq] at h
    subst h
    rw [valid_lastTwo_iff hfast (Int.le_of_lt horder) hsignal xs lastClose]
    simp

end Macd.Config

end QuoteMomentum
