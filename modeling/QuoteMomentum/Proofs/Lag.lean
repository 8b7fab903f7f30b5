import Mathlib.Algebra.Order.Field.Rat
import Mathlib.Tactic.FieldSimp
import Mathlib.Tactic.Linarith
import Mathlib.Tactic.Ring
import QuoteMomentum.Proofs.Reading

/-!
# The lag of an average behind a line

Read with exact rationals, an EMA of period `p` follows a line `a + b·i` at a
fixed distance: from its seed on, it is the line less `b·(p - 1)/2`
(`Ema.values_compute_ramp`). The seed is the mean of the first `p` values of
the line, which lies `b·(p - 1)/2` below the value at index `p - 1`; and a
smoothing step keeps that distance, because the line rises by `b` from one
index to the next and the step moves the average by
`k·(b + b·(p - 1)/2) = b`, with `k = 2/(p + 1)`. A seed other than the mean,
or another weight, would break the distance at every index.

The MACD line subtracts the slow average from the fast one, so over a line it
is the constant `b·(slow - fast)/2` (`Macd.line_ramp`), and so is every
defined value of its signal average, an average of a constant. A reading over
a line sees MACD and signal at that constant, twice each: no histogram, no
crossover (`Macd.readings_of_ramp`). A constant series is the line of slope zero.
-/

namespace QuoteMomentum

/-- The line `a + b·i` over the indices `i < n`. -/
def ramp (a b : ℚ) (n : ℕ) : List ℚ := (List.range n).map fun i : ℕ => a + b * (i : ℚ)

theorem length_ramp (a b : ℚ) (n : ℕ) : (ramp a b n).length = n := by
  simp [ramp]

/-- A line starts at `a` and goes on from `a + b`. -/
theorem ramp_succ (a b : ℚ) (m : ℕ) : ramp a b (m + 1) = a :: ramp (a + b) b m := by
  simp only [ramp, List.range_succ_eq_map, List.map_cons, List.map_map, Nat.cast_zero, mul_zero,
    add_zero, List.cons.injEq, true_and]
  refine List.map_congr_left fun i _ => ?_
  simp only [Function.comp_apply, Nat.cast_succ]
  ring

/-- Two stretches of a line, the second starting where the first stops. -/
theorem ramp_add (a b : ℚ) (p m : ℕ) : ramp a b (p + m) = ramp a b p ++ ramp (a + b * p) b m := by
  simp only [ramp, List.range_add, List.map_append, List.map_map, List.append_cancel_left_eq]
  refine List.map_congr_left fun i _ => ?_
  simp only [Function.comp_apply, Nat.cast_add]
  ring

/-- A whole number of at least zero, counted in the rationals. -/
theorem cast_toNat {p : ℤ} (hp : 0 ≤ p) : ((p.toNat : ℕ) : ℚ) = p := by
  rw [← Int.cast_natCast, Int.toNat_of_nonneg hp]

/-- A line from index `k` on is the line that starts at its `k`-th value. -/
theorem drop_ramp (a b : ℚ) (k n : ℕ) : (ramp a b n).drop k = ramp (a + b * k) b (n - k) := by
  rcases le_or_gt k n with h | h
  · obtain ⟨m, rfl⟩ := Nat.exists_eq_add_of_le h
    rw [ramp_add, List.drop_left' (length_ramp a b k), Nat.add_sub_cancel_left]
  · rw [List.drop_eq_nil_of_le (by rw [length_ramp]; omega), Nat.sub_eq_zero_of_le h.le]
    rfl

/-- Two lines of one slope differ by a constant. -/
theorem zipWith_sub_ramp (b : ℚ) (m : ℕ) :
    ∀ c d : ℚ, List.zipWith (· - ·) (ramp c b m) (ramp d b m) = List.replicate m (c - d) := by
  induction m with
  | zero =>
    intro c d
    rfl
  | succ m ih =>
    intro c d
    rw [ramp_succ, ramp_succ, List.zipWith_cons_cons, ih, add_sub_add_right_eq_sub,
      List.replicate_succ]

theorem getElem?_ramp (a b : ℚ) {n i : ℕ} (hi : i < n) : (ramp a b n)[i]? = some (a + b * i) := by
  simp [ramp, hi]

/-- A constant series is the line of slope zero. -/
theorem replicate_eq_ramp (a : ℚ) (n : ℕ) : List.replicate n a = ramp a 0 n := by
  simp [ramp, List.map_const']

namespace Ema

open Numeric

theorem total_append_singleton {α : Type} [Numeric α] (l : List α) (x : α) :
    total (l ++ [x]) = total l + x := by
  simp only [total, List.foldl_append, List.foldl_cons, List.foldl_nil]

/-- Twice the sum of a line: its length times its first and last value. -/
theorem total_ramp (a b : ℚ) (n : ℕ) : total (ramp a b n) * 2 = n * (2 * a + b * (n - 1)) := by
  induction n with
  | zero =>
    simp only [ramp, List.range_zero, List.map_nil, total, List.foldl_nil, Nat.cast_zero, zero_mul]
    exact zero_mul 2
  | succ n ih =>
    have hlast : ramp a b (n + 1) = ramp a b n ++ [a + b * n] := by
      rw [ramp_add a b n 1, ramp_succ, show ramp (a + b * n + b) b 0 = [] from rfl]
    rw [hlast, total_append_singleton, add_mul, ih]
    push_cast
    ring

/-- The seed over a line is its mean over the first `p` indices: the value at
index `p - 1` less `b·(p - 1)/2`. -/
theorem seed_ramp (a b : ℚ) {n p : ℕ} (hp : 1 ≤ p) (hn : p ≤ n) :
    seed (ramp a b n) p = a + b * (p - 1) - b * (p - 1) / 2 := by
  obtain ⟨m, rfl⟩ := Nat.exists_eq_add_of_le hn
  have htake : (ramp a b (p + m)).take p = ramp a b p := by
    rw [ramp_add, List.take_left' (length_ramp a b p)]
  have hp' : (p : ℚ) ≠ 0 := Nat.cast_ne_zero.mpr (by omega)
  have hsum := total_ramp a b p
  rw [seed, htake]
  change total (ramp a b p) / (p : ℚ) = _
  field_simp
  rw [hsum]
  ring

/-- A smoothing step of period `p` keeps an average `b·(p - 1)/2` below a line
that rises by `b`: the step closes the fraction `2/(p + 1)` of a gap of
`b·(p + 1)/2`. -/
theorem step_ramp (p : ℕ) (x b : ℚ) :
    step (weight p) (x - b * (p - 1) / 2) (x + b) = x + b - b * (p - 1) / 2 := by
  have hp : (p : ℚ) + 1 ≠ 0 := Nat.cast_add_one_ne_zero p
  simp only [step, weight]
  change (x + b - (x - b * (p - 1) / 2)) * (2 / ((p + 1 : ℕ) : ℚ)) + (x - b * (p - 1) / 2) = _
  push_cast
  field_simp
  ring

/-- The scan of the smoothing step along a line, started `b·(p - 1)/2` below
it, stays that far below it. -/
theorem scanl_step_ramp (p : ℕ) (b : ℚ) (m : ℕ) :
    ∀ c : ℚ, List.scanl (step (weight p)) (c - b * (p - 1) / 2) (ramp (c + b) b m) =
      ramp (c - b * (p - 1) / 2) b (m + 1) := by
  induction m with
  | zero =>
    intro c
    rw [zero_add, ramp_succ]
    rfl
  | succ m ih =>
    intro c
    have hshift : c - b * (p - 1) / 2 + b = c + b - b * (p - 1) / 2 := by ring
    rw [ramp_succ (c + b), List.scanl_cons, step_ramp, ih (c + b), ramp_succ _ b (m + 1), hshift]

/-- The matured scan over a line: from index `p - 1` on, the line less
`b·(p - 1)/2`. -/
theorem matured_ramp (a b : ℚ) {n p : ℕ} (hp : 1 ≤ p) (hn : p ≤ n) :
    matured (ramp a b n) p = ramp (a + b * (p - 1) - b * (p - 1) / 2) b (n - p + 1) := by
  obtain ⟨m, rfl⟩ := Nat.exists_eq_add_of_le hn
  have hdrop : (ramp a b (p + m)).drop p = ramp (a + b * (p - 1) + b) b m := by
    rw [drop_ramp, Nat.add_sub_cancel_left]
    congr 1
    ring
  rw [matured, hdrop, seed_ramp a b hp (Nat.le_add_right p m), scanl_step_ramp]
  congr 1
  omega

/-- **The lag.** From its seed on, the average of a line, over a period
`1 ≤ p ≤ n`, is the line less `b·(p - 1)/2`. -/
theorem values_compute_ramp (a b : ℚ) {n : ℕ} {p : ℤ} (hp : 1 ≤ p) (hn : p ≤ n) {i : ℕ}
    (hi : p - 1 ≤ i) (hin : i < n) :
    (compute (ramp a b n) p).values[i]? = some (some (a + b * i - b * (p - 1) / 2)) := by
  obtain ⟨k, rfl⟩ := Int.eq_ofNat_of_zero_le (by omega : 0 ≤ p)
  have hfits : fits (k : ℤ) (ramp a b n).length = true := by
    rw [fits_iff, length_ramp]
    exact ⟨hp, hn⟩
  -- `i` lies `j` indices past the seed
  obtain ⟨j, rfl⟩ : ∃ j, i = k - 1 + j := ⟨i - (k - 1), by omega⟩
  have hk : ((k - 1 : ℕ) : ℚ) = (k : ℚ) - 1 := by
    rw [Nat.cast_sub (by omega), Nat.cast_one]
  have hidx : k - 1 + j = (k : ℤ).toNat - 1 + j := by rw [Int.toNat_natCast]
  rw [hidx, getElem?_values_compute hfits, Int.toNat_natCast, matured_ramp a b (by omega) (by omega),
    getElem?_ramp _ _ (by omega), Option.map_some, Nat.cast_add, hk, Int.cast_natCast]
  congr 2
  ring

/-- Every defined value of the average of a line lags the line by
`b·(p - 1)/2`, at an index from the seed on. -/
theorem mem_values_compute_ramp (a b : ℚ) (n : ℕ) (p : ℤ) {v : ℚ}
    (h : some v ∈ (compute (ramp a b n) p).values) :
    ∃ i < n, p - 1 ≤ i ∧ v = a + b * i - b * (p - 1) / 2 := by
  obtain ⟨i, hi⟩ := List.mem_iff_getElem?.mp h
  have hin : i < n := by
    have := (List.getElem?_eq_some_iff.mp hi).1
    rwa [length_compute, length_ramp] at this
  by_cases hfits : fits p (ramp a b n).length = true
  · have hpn := (fits_iff _ _).mp hfits
    rw [length_ramp] at hpn
    by_cases hseed : p - 1 ≤ i
    · rw [values_compute_ramp a b hpn.1 hpn.2 hseed hin] at hi
      exact ⟨i, hin, hseed, (Option.some.inj (Option.some.inj hi)).symm⟩
    · -- before the seed every entry is undefined
      rw [values_compute hfits, List.getElem?_append_left (by simp; omega),
        List.getElem?_replicate] at hi
      split at hi <;> simp at hi
  · simp [compute, Bool.eq_false_iff.mpr hfits, List.getElem?_replicate] at hi

end Ema

namespace Macd

open Numeric

/-- The MACD line of a line is constant: the fast average lags the line by
`b·(fast - 1)/2` and the slow one by `b·(slow - 1)/2`. -/
theorem line_ramp (a b : ℚ) {n : ℕ} {P : Periods} (hf : 1 ≤ P.fast) (hfs : P.fast ≤ P.slow)
    (hn : P.slow ≤ n) :
    line P (ramp a b n) = List.replicate (n - P.slow.toNat + 1) (b * (P.slow - P.fast) / 2) := by
  have hn' : P.slow ≤ (ramp a b n).length := by rwa [length_ramp]
  have hgap : (P.slow - P.fast).toNat = P.slow.toNat - P.fast.toNat := by omega
  have hcast : ((P.slow.toNat - P.fast.toNat : ℕ) : ℚ) = P.slow - P.fast := by
    rw [Nat.cast_sub (by omega), cast_toNat (by omega), cast_toNat (by omega)]
  rw [line_eq_zipWith hf hfs hn', Ema.matured_ramp a b (by omega) (by omega),
    Ema.matured_ramp a b (by omega) (by omega), hgap, drop_ramp,
    show n - P.fast.toNat + 1 - (P.slow.toNat - P.fast.toNat) = n - P.slow.toNat + 1 by omega,
    zipWith_sub_ramp, hcast, cast_toNat (by omega : 0 ≤ P.fast), cast_toNat (by omega : 0 ≤ P.slow)]
  congr 1
  ring

/-- Every value of the MACD line of a line is `b·(slow - fast)/2`. -/
theorem mem_line_ramp (a b : ℚ) (n : ℕ) {P : Periods} (hf : 1 ≤ P.fast) (hfs : P.fast ≤ P.slow)
    {y : ℚ} (hy : y ∈ line P (ramp a b n)) : y = b * (P.slow - P.fast) / 2 := by
  by_cases hn : P.slow ≤ n
  · rw [line_ramp a b hf hfs hn] at hy
    exact List.eq_of_mem_replicate hy
  · rw [line_of_lt (by rw [length_ramp]; omega)] at hy
    cases hy

/-- Every defined value of the signal average of the MACD line of a line is
that constant too: it is the average of a constant. -/
theorem mem_signal_ramp (a b : ℚ) (n : ℕ) {P : Periods} (hf : 1 ≤ P.fast) (hfs : P.fast ≤ P.slow)
    {v : ℚ} (hv : some v ∈ (Ema.compute (line P (ramp a b n)) P.signal).values) :
    v = b * (P.slow - P.fast) / 2 := by
  -- the MACD line is the line of slope zero at that constant
  have hconst : line P (ramp a b n) =
      ramp (b * (P.slow - P.fast) / 2) 0 (line P (ramp a b n)).length := by
    rw [← replicate_eq_ramp]
    exact List.eq_replicate_iff.mpr ⟨rfl, fun y hy => mem_line_ramp a b n hf hfs hy⟩
  rw [hconst] at hv
  obtain ⟨i, -, -, rfl⟩ := Ema.mem_values_compute_ramp _ 0 _ _ hv
  ring

/-- Over a line of `slow + signal + 1` values or more, a reading is valid and
sees MACD and signal at `b·(slow - fast)/2` at both of its observations: no
histogram, and no crossover. -/
theorem lastTwo_ramp (a b : ℚ) {n : ℕ} {P : Periods} (hf : 1 ≤ P.fast) (hfs : P.fast ≤ P.slow)
    (hg : 1 ≤ P.signal) (hn : P.slow + P.signal + 1 ≤ n) (lastClose : Option ℚ) :
    let r := lastTwo P (ramp a b n) lastClose
    r.valid = true ∧ r.macdLast = b * (P.slow - P.fast) / 2 ∧
      r.macdPrev = b * (P.slow - P.fast) / 2 ∧ r.signalLast = b * (P.slow - P.fast) / 2 ∧
      r.signalPrev = b * (P.slow - P.fast) / 2 ∧ r.histogram = 0 ∧ r.crossover = .neutral := by
  have hn' : P.slow + P.signal + 1 ≤ (ramp a b n).length := by rwa [length_ramp]
  obtain ⟨⟨ml, mp, mrest, hm⟩, ⟨sl, sp, srest, hs⟩⟩ := line_pairs hf hfs hg hn'
  -- the two ends of the line and of its signal are values of them
  have hmacd : ∀ y ∈ (line P (ramp a b n)).reverse, y = b * (P.slow - P.fast) / 2 :=
    fun y hy => mem_line_ramp a b n hf hfs (List.mem_reverse.mp hy)
  have hsignal : ∀ v, some v ∈ (Ema.compute (line P (ramp a b n)) P.signal).values.reverse →
      v = b * (P.slow - P.fast) / 2 :=
    fun v hv => mem_signal_ramp a b n hf hfs (List.mem_reverse.mp hv)
  rw [hm] at hmacd
  rw [hs] at hsignal
  have hml := hmacd ml List.mem_cons_self
  have hmp := hmacd mp (List.mem_cons_of_mem _ List.mem_cons_self)
  have hsl := hsignal sl List.mem_cons_self
  have hsp := hsignal sp (List.mem_cons_of_mem _ List.mem_cons_self)
  intro r
  rw [show r = readingOf P (ramp a b n) lastClose (line P (ramp a b n)) from
    lastTwo_of_long hf hfs hg hn' lastClose, readingOf_eq hm hs]
  simp [Reading.histogram, Reading.crossover, crossovers, hml, hmp, hsl, hsp]

/-- **Readings of a line.** Read exactly, over the line `a + b·i`, `i < n`:
every average of a period `1 ≤ p ≤ n` is, from its seed at index `p - 1` on,
the line less `b·(p - 1)/2`. For periods `1 ≤ fast < slow` and `1 ≤ signal`,
every value of the MACD line, and every defined value of its signal average,
is `b·(slow - fast)/2`; and over `slow + signal + 1` values or more a reading
is valid, with MACD and signal both at that value at the last two
observations, no histogram and no crossover. -/
theorem readings_of_ramp (a b : ℚ) (n : ℕ) :
    (∀ p : ℤ, 1 ≤ p → p ≤ n → ∀ i : ℕ, p - 1 ≤ i → i < n →
      (Ema.compute (ramp a b n) p).values[i]? = some (some (a + b * i - b * (p - 1) / 2))) ∧
    ∀ P : Periods, 1 ≤ P.fast → P.fast < P.slow → 1 ≤ P.signal →
      (∀ y ∈ line P (ramp a b n), y = b * (P.slow - P.fast) / 2) ∧
      (∀ v, some v ∈ (Ema.compute (line P (ramp a b n)) P.signal).values →
        v = b * (P.slow - P.fast) / 2) ∧
      (P.slow + P.signal + 1 ≤ n → ∀ lastClose : Option ℚ,
        let r := lastTwo P (ramp a b n) lastClose
        r.valid = true ∧ r.macdLast = b * (P.slow - P.fast) / 2 ∧
          r.macdPrev = b * (P.slow - P.fast) / 2 ∧ r.signalLast = b * (P.slow - P.fast) / 2 ∧
          r.signalPrev = b * (P.slow - P.fast) / 2 ∧ r.histogram = 0 ∧
          r.crossover = .neutral) := by
  refine ⟨fun p hp hn i hi hin => Ema.values_compute_ramp a b hp hn hi hin, fun P hf hfs hg => ?_⟩
  have hfs' : P.fast ≤ P.slow := Int.le_of_lt hfs
  exact ⟨fun y hy => mem_line_ramp a b n hf hfs' hy, fun v hv => mem_signal_ramp a b n hf hfs' hv,
    fun hn lastClose => lastTwo_ramp a b hf hfs' hg hn lastClose⟩

/-- Forty values rising by a half from 100, under the standard periods 12, 26
and 9: the average of period 12 ends at `119.5 - 2.75`, and the reading sees
MACD and signal at `0.5 · 14 / 2 = 3.5`. -/
theorem standard_readings_of_ramp :
    (Ema.compute (ramp 100 (1 / 2) 40) 12).values[39]? = some (some (467 / 4)) ∧
      let r := lastTwo ⟨12, 26, 9⟩ (ramp 100 (1 / 2) 40) none
      r.valid = true ∧ r.macdLast = 7 / 2 ∧ r.macdPrev = 7 / 2 ∧ r.signalLast = 7 / 2 ∧
        r.signalPrev = 7 / 2 ∧ r.histogram = 0 ∧ r.crossover = .neutral := by
  obtain ⟨hema, hreading⟩ := readings_of_ramp 100 (1 / 2) 40
  have hlast := hema 12 (by norm_num) (by norm_num) 39 (by norm_num) (by norm_num)
  have hreads := (hreading ⟨12, 26, 9⟩ (by decide) (by decide) (by decide)).2.2 (by decide) none
  norm_num at hlast hreads
  exact ⟨hlast, hreads⟩

end Macd

end QuoteMomentum
