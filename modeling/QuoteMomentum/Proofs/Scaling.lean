import Mathlib.Algebra.Order.Field.Rat
import Mathlib.Algebra.BigOperators.Ring.List
import Mathlib.Tactic.FieldSimp
import Mathlib.Tactic.Ring
import QuoteMomentum.Proofs.Reading

/-!
# Readings of affine closes

Read with exact rationals, every step of a reading commutes with an affine map
`x ↦ c * x + d` of the closes. The seed is a mean, so it maps to the mean of
the images; a smoothing step moves a fraction of the way from the average to
the new value, which an affine map keeps. So the averages of the mapped closes
are the mapped averages, index for index (`Ema.values_compute_affine`). The
MACD line is a difference of two averages, in which the offset cancels: it is
only scaled by `c`, and its signal average with it (`Macd.line_affine`).

A reading of the mapped closes is therefore valid exactly when the reading of
the closes is, and its MACD and signal values are `c` times theirs. The
crossover tests compare MACD with signal, so a positive scale keeps their
outcome and a negative one swaps bullish for bearish. With no offset the
percents of the final close do not see the scale: it cancels in each quotient
(`Macd.affine_closes_scale_readings`).
-/

namespace QuoteMomentum

/-- A scan commutes with a map that commutes with its step. -/
theorem scanl_map_of_comm {β : Type} {f : β → β} {g : β → β → β}
    (hg : ∀ a x, g (f a) (f x) = f (g a x)) (a : β) (l : List β) :
    List.scanl g (f a) (l.map f) = (List.scanl g a l).map f := by
  induction l generalizing a with
  | nil => rfl
  | cons x xs ih => rw [List.map_cons, List.scanl_cons, List.scanl_cons, hg, ih, List.map_cons]

/-- The ends of a mapped list are the mapped ends. -/
theorem reverse_map_cons_cons {β : Type} {g : β → β} {l : List β} {a b : β} {rest : List β}
    (h : l.reverse = a :: b :: rest) : (l.map g).reverse = g a :: g b :: rest.map g := by
  rw [← List.map_reverse, h]
  rfl

namespace Numeric

theorem zero_rat : (zero : ℚ) = 0 := rfl

theorem isZero_rat (x : ℚ) : isZero x = true ↔ x = 0 := by
  simp only [isZero, Bool.and_eq_true, decide_eq_true_eq]
  constructor
  · intro h
    exact le_antisymm h.1 h.2
  · intro h
    exact ⟨h.le, h.ge⟩

/-- A nonzero scale keeps a number from being zero, and keeps zero. -/
theorem isZero_scale {c : ℚ} (hc : c ≠ 0) (x : ℚ) : isZero (c * x) = isZero x := by
  rw [Bool.eq_iff_iff, isZero_rat, isZero_rat, mul_eq_zero]
  simp [hc]

/-- A sum of affine images is the affine image of the sum, the offset once per
term. -/
theorem total_affine (c d : ℚ) (l : List ℚ) :
    total (l.map fun x => c * x + d) = c * total l + l.length * d := by
  have hsum : ∀ l : List ℚ, total l = l.sum := fun l => by
    rw [List.sum_eq_foldl]
    rfl
  have hscale : (l.map fun x => c * x).sum = c * l.sum := by
    simpa using List.sum_map_mul_left l id c
  rw [hsum, hsum, List.sum_map_add, hscale, List.map_const', List.sum_replicate, nsmul_eq_mul]

end Numeric

namespace Ema

open Numeric

/-- The seed of affine values is the affine image of the seed: the offset,
added once per value, is divided out again. -/
theorem seed_affine {xs : List ℚ} {p : Nat} (hp : 1 ≤ p) (hn : p ≤ xs.length) (c d : ℚ) :
    seed (xs.map fun x => c * x + d) p = c * seed xs p + d := by
  have hlen : (xs.take p).length = p := List.length_take_of_le hn
  have hp' : (p : ℚ) ≠ 0 := Nat.cast_ne_zero.mpr (by omega)
  rw [seed, seed, ← List.map_take, total_affine, hlen]
  change (c * total (xs.take p) + p * d) / (p : ℚ) = c * (total (xs.take p) / (p : ℚ)) + d
  field_simp

/-- A smoothing step moves a fraction `k` of the way from the average to the
value, which an affine map keeps. -/
theorem step_affine (k e x c d : ℚ) : step k (c * e + d) (c * x + d) = c * step k e x + d := by
  simp only [step]
  ring

/-- The matured scan of affine values is the affine image of the scan. -/
theorem matured_affine {xs : List ℚ} {p : Nat} (hp : 1 ≤ p) (hn : p ≤ xs.length) (c d : ℚ) :
    matured (xs.map fun x => c * x + d) p = (matured xs p).map fun x => c * x + d := by
  rw [matured, matured, seed_affine hp hn, ← List.map_drop]
  exact scanl_map_of_comm (fun e x => step_affine _ e x c d) _ _

/-- An average commutes with every affine map: over affine values it is the
affine image of the average, at every index, defined where it was defined. -/
theorem values_compute_affine (xs : List ℚ) (p : Int) (c d : ℚ) :
    (compute (xs.map fun x => c * x + d) p).values =
      (compute xs p).values.map (Option.map fun x => c * x + d) := by
  by_cases h : fits p xs.length = true
  · have hp := (fits_iff p xs.length).mp h
    have h' : fits p (xs.map fun x => c * x + d).length = true := by rwa [List.length_map]
    rw [values_compute h, values_compute h', matured_affine (by omega) (by omega), List.map_append,
      List.map_replicate, List.map_map, List.map_map]
    rfl
  · -- neither average fits: both are undefined throughout
    simp [compute, Bool.eq_false_iff.mpr h]

/-- Scaling a series scales its average, at every index. -/
theorem values_compute_scale (xs : List ℚ) (p : Int) (c : ℚ) :
    (compute (xs.map fun x => c * x) p).values =
      (compute xs p).values.map (Option.map fun x => c * x) := by
  have h := values_compute_affine xs p c 0
  simp only [add_zero] at h
  exact h

end Ema

namespace Macd

open Numeric

variable {c : ℚ}

/-- The MACD line of affine closes is the line scaled: the offset cancels in
the difference of the two averages. -/
theorem line_affine {p : Periods} (hf : 1 ≤ p.fast) (hfs : p.fast ≤ p.slow) (xs : List ℚ) (c d : ℚ) :
    line p (xs.map fun x => c * x + d) = (line p xs).map fun x => c * x := by
  by_cases hn : p.slow ≤ (xs.length : Int)
  · have hn' : p.slow ≤ ((xs.map fun x => c * x + d).length : Int) := by rwa [List.length_map]
    rw [line_eq_zipWith hf hfs hn', line_eq_zipWith hf hfs hn,
      Ema.matured_affine (by omega) (by omega), Ema.matured_affine (by omega) (by omega),
      ← List.map_drop, List.zipWith_map, List.map_zipWith]
    congr 1
    funext a b
    show (c * a + d) - (c * b + d) = c * (a - b)
    ring
  · have hn' : ¬p.slow ≤ ((xs.map fun x => c * x + d).length : Int) := by rwa [List.length_map]
    rw [line_of_lt (by omega), line_of_lt (by omega), List.map_nil]

/-- A positive scale keeps both crossover tests: it keeps every comparison. -/
theorem crossovers_scale_pos (hc : 0 < c) (mp sp ml sl : ℚ) :
    crossovers (c * mp) (c * sp) (c * ml) (c * sl) = crossovers mp sp ml sl := by
  simp [crossovers, mul_le_mul_iff_of_pos_left hc, mul_lt_mul_iff_of_pos_left hc]

/-- A negative scale reverses every comparison, so a bullish crossover becomes
a bearish one and the other way round. -/
theorem crossovers_scale_neg (hc : c < 0) (mp sp ml sl : ℚ) :
    crossovers (c * mp) (c * sp) (c * ml) (c * sl) =
      ((crossovers mp sp ml sl).2, (crossovers mp sp ml sl).1) := by
  simp [crossovers, mul_le_mul_left_of_neg hc, mul_lt_mul_left_of_neg hc]

/-- Over `slow + signal + 1` closes or more, the reading of affine closes reads
the scaled ends of the line and of the signal. -/
theorem affine_pairs {p : Periods} (hf : 1 ≤ p.fast) (hfs : p.fast ≤ p.slow) (hg : 1 ≤ p.signal)
    {xs : List ℚ} (hn : p.slow + p.signal + 1 ≤ xs.length) (c d : ℚ) :
    ∃ ml mp mrest sl sp srest, (line p xs).reverse = ml :: mp :: mrest ∧
      (Ema.compute (line p xs) p.signal).values.reverse = some sl :: some sp :: srest ∧
      (line p (xs.map fun x => c * x + d)).reverse = c * ml :: c * mp :: mrest.map (fun x => c * x) ∧
      (Ema.compute (line p (xs.map fun x => c * x + d)) p.signal).values.reverse =
        some (c * sl) :: some (c * sp) :: srest.map (Option.map fun x => c * x) := by
  obtain ⟨⟨ml, mp, mrest, hm⟩, ⟨sl, sp, srest, hs⟩⟩ := line_pairs hf hfs hg hn
  refine ⟨ml, mp, mrest, sl, sp, srest, hm, hs, ?_, ?_⟩
  · rw [line_affine hf hfs]
    exact reverse_map_cons_cons hm
  · rw [line_affine hf hfs, Ema.values_compute_scale]
    exact reverse_map_cons_cons hs

/-- The reading of affine closes has the validity of the reading of the closes,
its values scaled, and its crossovers kept under a positive scale and swapped
under a negative one, whatever the last closes the percents use. -/
theorem lastTwo_affine {p : Periods} (hf : 1 ≤ p.fast) (hfs : p.fast ≤ p.slow)
    (hg : 1 ≤ p.signal) (xs : List ℚ) (c d : ℚ) (lastClose lastClose' : Option ℚ) :
    let r := lastTwo p xs lastClose
    let r' := lastTwo p (xs.map fun x => c * x + d) lastClose'
    r'.valid = r.valid ∧ r'.macdLast = c * r.macdLast ∧ r'.macdPrev = c * r.macdPrev ∧
      r'.signalLast = c * r.signalLast ∧ r'.signalPrev = c * r.signalPrev ∧
      (0 < c → r'.bullish = r.bullish ∧ r'.bearish = r.bearish) ∧
      (c < 0 → r'.bullish = r.bearish ∧ r'.bearish = r.bullish) := by
  intro r r'
  by_cases hn : p.slow + p.signal + 1 ≤ (xs.length : Int)
  · obtain ⟨ml, mp, mrest, sl, sp, srest, hm, hs, hm', hs'⟩ := affine_pairs hf hfs hg hn c d
    have hn' : p.slow + p.signal + 1 ≤ ((xs.map fun x => c * x + d).length : Int) := by
      rwa [List.length_map]
    have hr : r = readingOf p xs lastClose (line p xs) := lastTwo_of_long hf hfs hg hn lastClose
    have hr' : r' = readingOf p _ lastClose' (line p (xs.map fun x => c * x + d)) :=
      lastTwo_of_long hf hfs hg hn' lastClose'
    rw [hr, hr', readingOf_eq hm hs, readingOf_eq hm' hs']
    refine ⟨rfl, rfl, rfl, rfl, rfl, fun hpos => ?_, fun hneg => ?_⟩
    · rw [crossovers_scale_pos hpos]
      exact ⟨rfl, rfl⟩
    · rw [crossovers_scale_neg hneg]
      exact ⟨rfl, rfl⟩
  · have hn' : ¬p.slow + p.signal + 1 ≤ ((xs.map fun x => c * x + d).length : Int) := by
      rwa [List.length_map]
    have hr : r = .insufficient := lastTwo_of_short (by omega) lastClose
    have hr' : r' = .insufficient := lastTwo_of_short (by omega) lastClose'
    rw [hr, hr']
    simp [Reading.insufficient, Numeric.zero_rat]

/-- The final close of scaled closes is the scaled final close. -/
theorem reference_scale (xs : List ℚ) (c : ℚ) :
    reference (xs.map fun x => c * x) none = c * reference xs none := by
  unfold reference
  rw [List.getLast?_map]
  cases xs.getLast? with
  | none => simp [Numeric.zero_rat]
  | some x => rfl

/-- Scaled closes, read against their own final close, give the same percents:
the scale cancels in each quotient, and a final close is zero for both or for
neither. -/
theorem percents_scale {p : Periods} (hf : 1 ≤ p.fast) (hfs : p.fast ≤ p.slow) (hg : 1 ≤ p.signal)
    (xs : List ℚ) (hc : c ≠ 0) :
    (lastTwo p (xs.map fun x => c * x) none).macdPercent = (lastTwo p xs none).macdPercent ∧
      (lastTwo p (xs.map fun x => c * x) none).signalPercent = (lastTwo p xs none).signalPercent ∧
      (lastTwo p (xs.map fun x => c * x) none).percentValid = (lastTwo p xs none).percentValid := by
  have hmap : (xs.map fun x => c * x) = xs.map fun x => c * x + 0 := by simp
  by_cases hn : p.slow + p.signal + 1 ≤ (xs.length : Int)
  · obtain ⟨ml, mp, mrest, sl, sp, srest, hm, hs, hm', hs'⟩ := affine_pairs hf hfs hg hn c 0
    rw [← hmap] at hm' hs'
    have hn' : p.slow + p.signal + 1 ≤ ((xs.map fun x => c * x).length : Int) := by
      rwa [List.length_map]
    rw [lastTwo_of_long hf hfs hg hn none, lastTwo_of_long hf hfs hg hn' none, readingOf_eq hm hs,
      readingOf_eq hm' hs', reference_scale, isZero_scale hc]
    dsimp only
    rw [mul_div_mul_left _ _ hc, mul_div_mul_left _ _ hc]
    exact ⟨rfl, rfl, rfl⟩
  · have hn' : ¬p.slow + p.signal + 1 ≤ ((xs.map fun x => c * x).length : Int) := by
      rwa [List.length_map]
    rw [lastTwo_of_short (by omega) none, lastTwo_of_short (by omega) none]
    exact ⟨rfl, rfl, rfl⟩


/-- **Affine closes scale the reading.** Read exactly, with periods
`1 ≤ fast < slow` and `1 ≤ signal`, mapping every close `x` to `c * x + d` for
a scale `c ≠ 0`: the reading is valid exactly when the reading of the closes
is, its MACD and signal values are `c` times theirs, the offset cancelling,
and its crossovers are theirs under a positive scale and swapped under a
negative one. With no offset, read against the final close, its percents and
their flag are those of the closes. -/
theorem affine_closes_scale_readings {p : Periods} (hf : 1 ≤ p.fast) (hfs : p.fast < p.slow)
    (hg : 1 ≤ p.signal) (xs : List ℚ) {c : ℚ} (hc : c ≠ 0) (d : ℚ) (lastClose lastClose' : Option ℚ) :
    (let r := lastTwo p xs lastClose
    let r' := lastTwo p (xs.map fun x => c * x + d) lastClose'
    r'.valid = r.valid ∧ r'.macdLast = c * r.macdLast ∧ r'.macdPrev = c * r.macdPrev ∧
      r'.signalLast = c * r.signalLast ∧ r'.signalPrev = c * r.signalPrev ∧
      (0 < c → r'.bullish = r.bullish ∧ r'.bearish = r.bearish) ∧
      (c < 0 → r'.bullish = r.bearish ∧ r'.bearish = r.bullish)) ∧
    (d = 0 →
      (lastTwo p (xs.map fun x => c * x + d) none).macdPercent = (lastTwo p xs none).macdPercent ∧
      (lastTwo p (xs.map fun x => c * x + d) none).signalPercent = (lastTwo p xs none).signalPercent ∧
      (lastTwo p (xs.map fun x => c * x + d) none).percentValid =
        (lastTwo p xs none).percentValid) := by
  have hfs' : p.fast ≤ p.slow := Int.le_of_lt hfs
  refine ⟨lastTwo_affine hf hfs' hg xs c d lastClose lastClose', fun hd => ?_⟩
  subst hd
  simp only [add_zero]
  exact percents_scale hf hfs' hg xs hc

/-- The standard periods over forty closes, scaled by `-2` and shifted by
`3`. -/
theorem standard_readings_scale :
    let xs : List ℚ := (List.range 40).map fun n => (n : ℚ)
    (let r := lastTwo ⟨12, 26, 9⟩ xs none
    let r' := lastTwo ⟨12, 26, 9⟩ (xs.map fun x => -2 * x + 3) none
    r'.valid = r.valid ∧ r'.macdLast = -2 * r.macdLast ∧ r'.macdPrev = -2 * r.macdPrev ∧
      r'.signalLast = -2 * r.signalLast ∧ r'.signalPrev = -2 * r.signalPrev ∧
      (0 < (-2 : ℚ) → r'.bullish = r.bullish ∧ r'.bearish = r.bearish) ∧
      ((-2 : ℚ) < 0 → r'.bullish = r.bearish ∧ r'.bearish = r.bullish)) ∧
    ((3 : ℚ) = 0 →
      (lastTwo ⟨12, 26, 9⟩ (xs.map fun x => -2 * x + 3) none).macdPercent =
        (lastTwo ⟨12, 26, 9⟩ xs none).macdPercent ∧
      (lastTwo ⟨12, 26, 9⟩ (xs.map fun x => -2 * x + 3) none).signalPercent =
        (lastTwo ⟨12, 26, 9⟩ xs none).signalPercent ∧
      (lastTwo ⟨12, 26, 9⟩ (xs.map fun x => -2 * x + 3) none).percentValid =
        (lastTwo ⟨12, 26, 9⟩ xs none).percentValid) :=
  affine_closes_scale_readings (p := ⟨12, 26, 9⟩) (by decide) (by decide) (by decide) _ (by norm_num) 3
    none none

end Macd

end QuoteMomentum
