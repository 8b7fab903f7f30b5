import Mathlib
import QuoteMomentum.Proofs.Arithmetic
import QuoteMomentum.Proofs.Colors

/-!
# Crossovers and their shade

The flags of a reading stand for strict crossings at the last observation
(`Macd.Crosses`): bullish when the MACD ends above its signal, bearish when
below. Every reading of a series has them so, over any numbers
(`crosses_lastTwo`). Over doubles, whose order is asymmetric, the two flags
are never both set, and the histogram lies strictly on the side of zero that
the flag names (`Crosses.histogram_pos`, `Crosses.histogram_neg`).

A crossover is shaded by `1/4 + 3/4 · t`, where `t` clamps the gap, scaled by
the saturation, to `[0, 1]`. Against a finite last close and saturation the
gap of a crossover is not NaN, so the clamp is a number in `[0, 1]`
(`within_clamp`) and the shade lies in `[1/4, 1]` (`shadeOf_within`): each
rounding on the way keeps a bound that a double holds exactly. The shade range
`195` times an intensity in `[0, 1]` is a number, so a row with such an
intensity always has a background (`Display.crossoverBackground_ok`).

A NaN MACD or signal value, last close or saturation passes through every
step, the clamp included, and leaves a NaN intensity, with which a row has no
background (`shadeOf_nan`, `Display.crossoverBackground_error_of_nan`). A NaN
anywhere else in a reading is never read. Main statement:
`Macd.crossings_shade_in_range`.
-/

open Float.Model (UnpackedFloat)

namespace QuoteMomentum.Macd

open Numeric Double

variable {α : Type} [Numeric α]

/-- The flags of a reading stand for strict crossings at the last observation:
bullish when the MACD ended above the signal, bearish when below. -/
structure Crosses (r : Reading α) : Prop where
  bullish_lt : r.bullish = true → r.signalLast < r.macdLast
  bearish_lt : r.bearish = true → r.macdLast < r.signalLast

theorem crossovers_fst {mp sp ml sl : α} (h : (crossovers mp sp ml sl).1 = true) : sl < ml := by
  simp only [crossovers, Bool.and_eq_true, decide_eq_true_eq] at h
  exact h.2

theorem crossovers_snd {mp sp ml sl : α} (h : (crossovers mp sp ml sl).2 = true) : ml < sl := by
  simp only [crossovers, Bool.and_eq_true, decide_eq_true_eq] at h
  exact h.2

theorem crosses_insufficient : Crosses (Reading.insufficient : Reading α) where
  bullish_lt h := absurd h Bool.false_ne_true
  bearish_lt h := absurd h Bool.false_ne_true

theorem crosses_readingOf (p : Periods) (xs : List α) (lastClose : Option α) (m : List α) :
    Crosses (readingOf p xs lastClose m) := by
  unfold readingOf
  split
  · dsimp only
    split <;> exact ⟨crossovers_fst, crossovers_snd⟩
  · exact crosses_insufficient

theorem crosses_lastTwo (p : Periods) (xs : List α) (lastClose : Option α) :
    Crosses (lastTwo p xs lastClose) := by
  unfold lastTwo
  split
  · exact crosses_insufficient
  · dsimp only
    split
    · exact crosses_insufficient
    · exact crosses_readingOf p xs lastClose _

/-! ## Flags of readings of doubles -/

omit [Numeric α] in
theorem crossover_eq_bullish_iff (r : Reading α) : r.crossover = .bullish ↔ r.bullish = true := by
  unfold Reading.crossover
  cases r.bullish <;> cases r.bearish <;> simp

omit [Numeric α] in
theorem crossover_eq_neutral_iff (r : Reading α) :
    r.crossover = .neutral ↔ r.bullish = false ∧ r.bearish = false := by
  unfold Reading.crossover
  cases r.bullish <;> cases r.bearish <;> simp

namespace Crosses

variable {r : Reading Float}

/-- The two flags are never both set: the order of doubles is asymmetric. -/
theorem not_both (hr : Crosses r) : ¬ (r.bullish = true ∧ r.bearish = true) :=
  fun ⟨hb, hs⟩ => lt_asymm (hr.bullish_lt hb) (hr.bearish_lt hs)

theorem crossover_eq_bearish_iff (hr : Crosses r) : r.crossover = .bearish ↔ r.bearish = true := by
  have hboth := hr.not_both
  unfold Reading.crossover
  cases hb : r.bullish <;> cases hs : r.bearish <;> simp_all

/-- A bullish reading ends with the MACD above its signal. -/
theorem histogram_pos (hr : Crosses r) (h : r.bullish = true) : 0.0 < r.histogram :=
  zero_lt_sub_of_lt (hr.bullish_lt h)

/-- A bearish reading ends with the MACD below its signal. -/
theorem histogram_neg (hr : Crosses r) (h : r.bearish = true) : r.histogram < 0.0 :=
  sub_lt_zero_of_lt (hr.bearish_lt h)

/-- A reading with a crossover has a histogram on one side of zero, so not NaN. -/
theorem isNaN_histogram (hr : Crosses r) (h : r.crossover ≠ .neutral) :
    r.histogram.toModel.unpack.isNaN = false := by
  have hflag : r.bullish = true ∨ r.bearish = true := by
    rw [Ne, crossover_eq_neutral_iff] at h
    cases hb : r.bullish <;> cases hs : r.bearish <;> simp_all
  rcases hflag with hb | hs
  · exact isNaN_eq_false_of_side ((zero_lt_iff _).1 (hr.histogram_pos hb))
  · exact isNaN_eq_false_of_side ((lt_zero_iff _).1 (hr.histogram_neg hs))

end Crosses

/-! ## The shade -/

theorem unpack_zero : (zero : Float).toModel.unpack = .zero .positive := rfl

theorem unpack_ofNat_one :
    (ofNat 1 : Float).toModel.unpack = .finite .positive (2 ^ 52) (-52) (by decide) := rfl

theorem unpack_quarter :
    (ofNat 1 / ofNat 4 : Float).toModel.unpack = .finite .positive (2 ^ 52) (-54) (by decide) := rfl

theorem unpack_threeQuarters :
    (ofNat 3 / ofNat 4 : Float).toModel.unpack = .finite .positive (3 * 2 ^ 51) (-53) (by decide) := rfl

theorem unpack_hundred :
    (ofNat 100 : Float).toModel.unpack = .finite .positive (100 * 2 ^ 46) (-46) (by decide) := rfl

/-- A double that is finite and does not compare equal to zero is a finite
value, not a zero. -/
theorem unpack_of_isFinite {x : Float} (hf : x.isFinite = true) (hz : isZero x = false) :
    ∃ s m e hm, x.toModel.unpack = .finite s m e hm := by
  have hzero : ∀ s, x.toModel.unpack ≠ .zero s := by
    intro s h
    have hle : x ≤ ofNat 0 ∧ ofNat 0 ≤ x := by
      rw [le_iff_compare, le_iff_compare, h, show (ofNat 0 : Float).toModel.unpack = .zero .positive from rfl]
      simp [UnpackedFloat.compare]
    simp [isZero, hle.1, hle.2] at hz
  change x.toModel.unpack.isFinite = true at hf
  generalize x.toModel.unpack = u at hf hzero ⊢
  cases u with
  | finite s m e hm => exact ⟨s, m, e, hm, rfl⟩
  | zero s => exact absurd rfl (hzero s)
  | infinity | notANumber => cases hf

/-- **The clamp.** A double that is not NaN, clamped to `[0, 1]`, is a number
in `[0, 1]`. -/
theorem within_clamp {g : Float} (hg : g.toModel.unpack.isNaN = false) :
    Within 0 1 (keepMin (keepMax g zero) (ofNat 1) : Float).toModel.unpack := by
  have hone : Within 0 1 (ofNat 1 : Float).toModel.unpack := by
    rw [unpack_ofNat_one]
    refine ⟨.finite ⟨by decide, by decide, .inl le_rfl⟩ (by decide), ?_, ?_⟩ <;> norm_num
  have hzero : Within 0 1 (zero : Float).toModel.unpack := by
    rw [unpack_zero]
    exact ⟨.zero _, le_rfl, zero_le_one⟩
  unfold keepMax keepMin
  by_cases hneg : g < zero
  · -- below zero: the clamp is zero, which is not above one
    have hlow : ¬ (ofNat 1 : Float) < zero := by
      rw [lt_iff_compare, unpack_ofNat_one, unpack_zero]
      decide
    rw [if_pos hneg, if_neg hlow]
    exact hzero
  · rw [if_neg hneg]
    by_cases hbig : (ofNat 1 : Float) < g
    · rw [if_pos hbig]
      exact hone
    · -- the clamp keeps `g`: a number, neither below zero nor above one
      rw [if_neg hbig]
      rw [lt_iff_compare, unpack_zero] at hneg
      rw [lt_iff_compare, unpack_ofNat_one] at hbig
      have hc := canonical_toModel g
      generalize g.toModel.unpack = u at hg hneg hbig hc ⊢
      cases hc with
      | notANumber => cases hg
      | infinity s => cases s <;> simp [UnpackedFloat.compare] at hneg hbig
      | num hu =>
        have hnum1 : IsNum (.finite .positive (2 ^ 52) (-52) (by decide)) :=
          .finite ⟨by decide, by decide, .inl le_rfl⟩ (by decide)
        rw [compare_num hu (.zero _), Option.some.injEq, compare_lt_iff_lt] at hneg
        rw [compare_num hnum1 hu, Option.some.injEq, compare_lt_iff_lt] at hbig
        refine ⟨hu, ?_, ?_⟩
        · simpa using hneg
        · have : value (.finite .positive (2 ^ 52) (-52) (by decide)) = 1 := by norm_num
          rw [this] at hbig
          exact le_of_not_gt hbig

/-- The gap of a histogram that is not NaN, against finite numbers, is not NaN. -/
theorem isNaN_gap {h L S : Float} (hh : h.toModel.unpack.isNaN = false)
    {sL : UnpackedFloat.Sign} {mL : Nat} {eL : Int} {hmL : 0 < mL}
    (hL : L.toModel.unpack = .finite sL mL eL hmL)
    {sS : UnpackedFloat.Sign} {mS : Nat} {eS : Int} {hmS : 0 < mS}
    (hS : S.toModel.unpack = .finite sS mS eS hmS) :
    (abs (h / L) * ofNat 100 / S : Float).toModel.unpack.isNaN = false := by
  have hq : (h / L).toModel.unpack.isNaN = false := by
    rw [unpack_div, hL]
    exact isNaN_unpack_pack (isNaN_div_finite hh _ _ _)
  have ha : (abs (h / L) : Float).toModel.unpack.isNaN = false := by
    rw [show (abs (h / L) : Float) = (h / L).abs from rfl, unpack_abs]
    exact isNaN_unpack_pack (isNaN_abs hq)
  have hp : (abs (h / L) * ofNat 100 : Float).toModel.unpack.isNaN = false := by
    rw [unpack_mul, unpack_hundred]
    exact isNaN_unpack_pack (isNaN_mul_finite _ ha _ _ _ _)
  rw [unpack_div, hS]
  exact isNaN_unpack_pack (isNaN_div_finite hp _ _ _)

/-- The ends of a shade, `1/4` and `1`, and three quarters, the span between
them, as bounds a double holds exactly. -/
def quarterBound : Bound := ⟨1, -2, by decide, by decide, by decide⟩
def spanBound : Bound := ⟨3, -2, by decide, by decide, by decide⟩
-- A bound at exponent `0` has the exponent range of zero.
def oneBound : Bound := ⟨1, 0, by decide, Bound.zero.least_le, Bound.zero.le_greatest⟩

@[simp] theorem quarterBound_val : quarterBound.val = 1 / 4 := by norm_num [quarterBound, Bound.val]
@[simp] theorem spanBound_val : spanBound.val = 3 / 4 := by norm_num [spanBound, Bound.val]
@[simp] theorem oneBound_val : oneBound.val = 1 := by norm_num [oneBound, Bound.val]

/-- **The range of a shade.** A histogram that is not NaN, against a finite
last close and a finite saturation, has a shade in `[1/4, 1]`. -/
theorem shadeOf_within {r : Reading Float} {L S : Float} (hh : r.histogram.toModel.unpack.isNaN = false)
    (hLf : L.isFinite = true) (hL0 : isZero L = false) (hSf : S.isFinite = true) (hS0 : isZero S = false) :
    ∃ x, shadeOf r L S = .ok x ∧ Within (1 / 4) 1 x.toModel.unpack := by
  obtain ⟨sL, mL, eL, hmL, hL⟩ := unpack_of_isFinite hLf hL0
  obtain ⟨sS, mS, eS, hmS, hS⟩ := unpack_of_isFinite hSf hS0
  unfold shadeOf
  rw [hS0]
  refine ⟨_, rfl, ?_⟩
  generalize htdef : (keepMin (keepMax (abs (r.histogram / L) * ofNat 100 / S) zero) (ofNat 1) : Float) = t
  have ht : Within 0 1 t.toModel.unpack := htdef ▸ within_clamp (isNaN_gap hh hL hS)
  -- three quarters of the clamp is in `[0, 3/4]`
  have hp : Within 0 (3 / 4) (ofNat 3 / ofNat 4 * t : Float).toModel.unpack := by
    rw [unpack_mul, unpack_threeQuarters, ← spanBound_val]
    exact within_mul (by norm_num) ht spanBound (by norm_num)
  -- a quarter more is in `[1/4, 1]`
  rw [unpack_add, unpack_quarter, ← quarterBound_val, ← oneBound_val]
  exact within_add ⟨by decide, by decide, .inl le_rfl⟩ (by decide) hp quarterBound oneBound
    (by norm_num) (by norm_num)

/-! ## NaN through the shade -/

section NaN

variable {a b : Float}

theorem unpack_sub_nan (h : a.toModel.unpack = .notANumber ∨ b.toModel.unpack = .notANumber) :
    (a - b).toModel.unpack = .notANumber := by
  rcases h with h | h
  · rw [unpack_sub, h]
    exact unpack_pack_notANumber
  · rw [unpack_sub, h, sub_notANumber_right]
    exact unpack_pack_notANumber

theorem unpack_div_nan (h : a.toModel.unpack = .notANumber ∨ b.toModel.unpack = .notANumber) :
    (a / b).toModel.unpack = .notANumber := by
  rcases h with h | h
  · rw [unpack_div, h]
    exact unpack_pack_notANumber
  · rw [unpack_div, h, div_notANumber_right]
    exact unpack_pack_notANumber

theorem unpack_mul_nan (h : a.toModel.unpack = .notANumber ∨ b.toModel.unpack = .notANumber) :
    (a * b).toModel.unpack = .notANumber := by
  rcases h with h | h
  · rw [unpack_mul, h]
    exact unpack_pack_notANumber
  · rw [unpack_mul, h, mul_notANumber_right]
    exact unpack_pack_notANumber

theorem unpack_add_nan (h : b.toModel.unpack = .notANumber) : (a + b).toModel.unpack = .notANumber := by
  rw [unpack_add, h, add_notANumber_right]
  exact unpack_pack_notANumber

theorem unpack_abs_nan (h : a.toModel.unpack = .notANumber) :
    (abs a : Float).toModel.unpack = .notANumber := by
  rw [show (abs a : Float) = a.abs from rfl, unpack_abs, h]
  exact unpack_pack_notANumber

/-- The clamp keeps a NaN: it is neither below zero nor above one. -/
theorem keepMax_nan (h : a.toModel.unpack = .notANumber) : keepMax a b = a := by
  unfold keepMax
  rw [if_neg]
  rw [lt_iff_compare, h]
  simp [UnpackedFloat.compare]

theorem keepMin_nan (h : a.toModel.unpack = .notANumber) : keepMin a b = a := by
  unfold keepMin
  rw [if_neg]
  rw [lt_iff_compare, h, compare_notANumber_right]
  simp

end NaN

/-- **A NaN shade.** A NaN histogram, last close or saturation makes the
shade NaN: every step passes the NaN on, and the clamp keeps it. -/
theorem shadeOf_nan {r : Reading Float} {L S : Float} (hS0 : isZero S = false)
    (h : r.histogram.toModel.unpack = .notANumber ∨ L.toModel.unpack = .notANumber ∨
      S.toModel.unpack = .notANumber) :
    ∃ x, shadeOf r L S = .ok x ∧ x.toModel.unpack = .notANumber := by
  have hg : (abs (r.histogram / L) * ofNat 100 / S : Float).toModel.unpack = .notANumber := by
    rcases h with h | h | h
    · exact unpack_div_nan (.inl (unpack_mul_nan (.inl (unpack_abs_nan (unpack_div_nan (.inl h))))))
    · exact unpack_div_nan (.inl (unpack_mul_nan (.inl (unpack_abs_nan (unpack_div_nan (.inr h))))))
    · exact unpack_div_nan (.inr h)
  unfold shadeOf
  rw [hS0]
  refine ⟨_, rfl, ?_⟩
  rw [keepMax_nan hg, keepMin_nan hg]
  exact unpack_add_nan (unpack_mul_nan (.inr hg))

/-! ## The intensity -/

theorem shades_eq_true_iff (r : Reading α) (lastClose : α) :
    shades r lastClose = true ↔ r.valid = true ∧ r.crossover ≠ .neutral ∧ isZero lastClose = false := by
  simp [shades, and_assoc]

theorem intensity_of_not_shades {r : Reading α} {lastClose : α} (h : shades r lastClose = false)
    (saturation : α) : intensity r lastClose saturation = .ok zero := by
  simp [intensity, h]

theorem intensity_of_shades {r : Reading α} {lastClose : α} (h : shades r lastClose = true)
    (saturation : α) : intensity r lastClose saturation = shadeOf r lastClose saturation := by
  simp [intensity, h]

/-- A saturation above zero does not compare equal to zero. -/
theorem isZero_of_pos {x : Float} (h : 0.0 < x) : isZero x = false := by
  have hx : ¬ x ≤ ofNat 0 := by
    rw [lt_iff_compare, show (0.0 : Float).toModel.unpack = .zero .positive from rfl] at h
    rw [le_iff_compare, show (ofNat 0 : Float).toModel.unpack = .zero .positive from rfl,
      compare_swap, h]
    simp
  simp [isZero, hx]

/-- **The intensity of a reading.** Against a finite last close other than zero
and a finite saturation above zero, the intensity of a reading whose flags
stand for crossings is zero when it has nothing to shade, and in `[1/4, 1]`
when it has. -/
theorem intensity_range {r : Reading Float} (hr : Crosses r) {L S : Float} (hLf : L.isFinite = true)
    (hL0 : isZero L = false) (hSf : S.isFinite = true) (hS : 0.0 < S) :
    ∃ x, intensity r L S = .ok x ∧ (shades r L = false → x = 0.0) ∧
      (shades r L = true → Within (1 / 4) 1 x.toModel.unpack) := by
  cases hsh : shades r L with
  | false => exact ⟨_, intensity_of_not_shades hsh S, fun _ => rfl, fun h => absurd h Bool.false_ne_true⟩
  | true =>
    have hc := ((shades_eq_true_iff r L).1 hsh).2.1
    obtain ⟨x, hx, hw⟩ := shadeOf_within (hr.isNaN_histogram hc) hLf hL0 hSf (isZero_of_pos hS)
    exact ⟨x, (intensity_of_shades hsh S).trans hx, fun h => absurd h.symm Bool.false_ne_true, fun _ => hw⟩

/-- A double in `[1/4, 1]` lies between the doubles `0.25` and `1.0`. -/
theorem quarter_le_and_le_one {x : Float} (h : Within (1 / 4) 1 x.toModel.unpack) :
    0.25 ≤ x ∧ x ≤ 1.0 := by
  have hq : (0.25 : Float).toModel.unpack = .finite .positive (2 ^ 52) (-54) (by decide) := rfl
  have h1 : (1.0 : Float).toModel.unpack = .finite .positive (2 ^ 52) (-52) (by decide) := rfl
  have hqn : IsNum (0.25 : Float).toModel.unpack := hq ▸ .finite ⟨by decide, by decide, .inl le_rfl⟩ (by decide)
  have h1n : IsNum (1.0 : Float).toModel.unpack := h1 ▸ .finite ⟨by decide, by decide, .inl le_rfl⟩ (by decide)
  refine ⟨le_of_value_le hqn h.isNum ?_, le_of_value_le h.isNum h1n ?_⟩
  · rw [hq]
    norm_num
    exact h.lo_le
  · rw [h1]
    norm_num
    exact h.le_hi

end QuoteMomentum.Macd

namespace QuoteMomentum.Display

open Double Decimal

/-- The shade range, `195`, as a bound a double holds exactly. -/
def levelBound : Bound := ⟨195, 0, by decide, Bound.zero.least_le, Bound.zero.le_greatest⟩

@[simp] theorem levelBound_val : levelBound.val = 195 := by norm_num [levelBound, Bound.val]

theorem kindOf_isNum {u : UnpackedFloat} (h : IsNum u) : ∃ b, kindOf u = .finite b := by
  cases h <;> exact ⟨_, rfl⟩

/-- **An intensity in `[0, 1]` has a shade**: the shade range times it is a
number in `[0, 195]`, whose whole part is taken without fault. -/
theorem crossoverBackground_ok {row : Row} (h : Within 0 1 row.intensity.toModel.unpack) :
    ∃ bg, crossoverBackground row = .ok bg := by
  have hlevel : Within 0 195 (Float.ofInt (shadePeak - shadeFloor) * row.intensity).toModel.unpack := by
    rw [unpack_mul, unpack_shadeRange, ← levelBound_val]
    exact within_mul (by decide) h levelBound (by norm_num)
  obtain ⟨b, hb⟩ := kindOf_isNum hlevel.isNum
  rw [← ofFloat_eq_kindOf] at hb
  cases hc : crossoverBackground row with
  | ok bg => exact ⟨bg, rfl⟩
  | error f =>
    obtain ⟨-, hbad | hbad⟩ := (crossoverBackground_error_iff row).1 ⟨f, hc⟩ <;>
      rw [hb] at hbad <;> cases hbad

/-- A row with a valid reading and a NaN intensity has no shade. -/
theorem crossoverBackground_error_of_nan {row : Row} (hm : row.hasMacd = true)
    (hx : row.intensity.toModel.unpack = .notANumber) : ∃ f, crossoverBackground row = .error f := by
  refine (crossoverBackground_error_iff row).2 ⟨hm, .inl ?_⟩
  rw [ofFloat_eq_nan_iff, unpack_mul, hx, mul_notANumber_right, unpack_pack_notANumber]
  rfl

end QuoteMomentum.Display

namespace QuoteMomentum.Macd

open Numeric Double Display

/-- A reading with a crossover and a NaN MACD or signal value, or a NaN last
close or saturation, has a NaN intensity, and then no shade. -/
theorem intensity_nan {r : Reading Float} {L S : Float} (hv : r.valid = true) (hc : r.crossover ≠ .neutral)
    (hL0 : isZero L = false) (hS0 : isZero S = false)
    (h : r.macdLast.isNaN = true ∨ r.signalLast.isNaN = true ∨ L.isNaN = true ∨ S.isNaN = true) :
    ∃ x, intensity r L S = .ok x ∧ x.toModel.unpack = .notANumber := by
  have hnan {y : Float} (hy : y.isNaN = true) : y.toModel.unpack = .notANumber :=
    UnpackedFloat.isNaN_iff.1 hy
  have hh : r.histogram.toModel.unpack = .notANumber ∨ L.toModel.unpack = .notANumber ∨
      S.toModel.unpack = .notANumber := by
    rcases h with h | h | h | h
    · exact .inl (unpack_sub_nan (.inl (hnan h)))
    · exact .inl (unpack_sub_nan (.inr (hnan h)))
    · exact .inr (.inl (hnan h))
    · exact .inr (.inr (hnan h))
  rw [intensity_of_shades ((shades_eq_true_iff r L).2 ⟨hv, hc, hL0⟩)]
  exact shadeOf_nan hS0 hh

/-- **Crossings and their shade.** For any periods and closes, a finite last
close other than zero and a finite saturation above zero: the reading of the
last two MACD/signal pairs never has both flags; a bullish one ends with the
MACD above its signal, a bearish one below; the crossover names the flag that
is set; the intensity is zero when the reading is invalid or neutral and in
`[0.25, 1]` otherwise, so a row with it always has a shade. A valid reading with
a crossover and a NaN MACD or signal value, or a NaN last close or
saturation, has a NaN intensity instead, and a row with it has no shade. -/
theorem crossings_shade_in_range (p : Periods) (closes : List Float) {lastClose saturation : Float}
    (hlf : lastClose.isFinite = true) (hl0 : isZero lastClose = false)
    (hsf : saturation.isFinite = true) (hs0 : 0.0 < saturation) :
    let r := lastTwo p closes (some lastClose)
    (¬ (r.bullish = true ∧ r.bearish = true) ∧
      (r.bullish = true → 0.0 < r.histogram) ∧ (r.bearish = true → r.histogram < 0.0) ∧
      (r.crossover = .bullish ↔ r.bullish = true) ∧ (r.crossover = .bearish ↔ r.bearish = true) ∧
      (r.crossover = .neutral ↔ r.bullish = false ∧ r.bearish = false) ∧
      ∃ x, intensity r lastClose saturation = .ok x ∧
        (r.valid = false ∨ r.crossover = .neutral → x = 0.0) ∧
        (r.valid = true ∧ r.crossover ≠ .neutral → 0.25 ≤ x ∧ x ≤ 1.0) ∧
        ∀ row : Row, row.intensity = x → ∃ bg, crossoverBackground row = .ok bg) ∧
    ∀ (r : Reading Float) (L S : Float), r.valid = true → r.crossover ≠ .neutral →
      isZero L = false → isZero S = false →
      (r.macdLast.isNaN = true ∨ r.signalLast.isNaN = true ∨ L.isNaN = true ∨ S.isNaN = true) →
      ∃ x, intensity r L S = .ok x ∧ x.isNaN = true ∧
        ∀ row : Row, row.hasMacd = true → row.intensity = x → ∃ f, crossoverBackground row = .error f := by
  intro r
  have hr : Crosses r := crosses_lastTwo p closes (some lastClose)
  obtain ⟨x, hx, hzero, hwithin⟩ := intensity_range hr hlf hl0 hsf hs0
  -- the shade is `0.0` or in `[1/4, 1]`: in `[0, 1]` either way
  have hunit : Within 0 1 x.toModel.unpack := by
    cases hsh : shades r lastClose with
    | false =>
      rw [hzero hsh]
      exact ⟨.zero _, le_rfl, zero_le_one⟩
    | true => exact Within.mono (hwithin hsh) (by norm_num) le_rfl
  refine ⟨⟨hr.not_both, hr.histogram_pos, hr.histogram_neg, crossover_eq_bullish_iff r,
    hr.crossover_eq_bearish_iff, crossover_eq_neutral_iff r, x, hx, ?_, ?_, ?_⟩, ?_⟩
  · intro h
    refine hzero ?_
    rcases h with h | h <;> simp [shades, h]
  · rintro ⟨hv, hc⟩
    exact quarter_le_and_le_one (hwithin ((shades_eq_true_iff r lastClose).2 ⟨hv, hc, hl0⟩))
  · rintro row rfl
    exact crossoverBackground_ok hunit
  · intro r L S hv hc hL0 hS0 h
    obtain ⟨y, hy, hnan⟩ := intensity_nan hv hc hL0 hS0 h
    refine ⟨y, hy, ?_, fun row hm hrow => crossoverBackground_error_of_nan hm (hrow ▸ hnan)⟩
    show y.toModel.unpack.isNaN = true
    rw [hnan]
    rfl

/-- The standard periods over a series that rises for 34 closes and then
turns down, whose last step is a bearish crossover, against a last close of
`100` and the default saturation. -/
theorem standard_crossings_shade_in_range :
    let p : Periods := ⟨12, 26, 9⟩
    let closes : List Float := (List.range 36).map fun i => Float.ofNat (if i < 34 then i else 68 - i)
    let r := lastTwo p closes (some 100.0)
    (¬ (r.bullish = true ∧ r.bearish = true) ∧
      (r.bullish = true → 0.0 < r.histogram) ∧ (r.bearish = true → r.histogram < 0.0) ∧
      (r.crossover = .bullish ↔ r.bullish = true) ∧ (r.crossover = .bearish ↔ r.bearish = true) ∧
      (r.crossover = .neutral ↔ r.bullish = false ∧ r.bearish = false) ∧
      ∃ x, intensity r 100.0 0.5 = .ok x ∧
        (r.valid = false ∨ r.crossover = .neutral → x = 0.0) ∧
        (r.valid = true ∧ r.crossover ≠ .neutral → 0.25 ≤ x ∧ x ≤ 1.0) ∧
        ∀ row : Row, row.intensity = x → ∃ bg, crossoverBackground row = .ok bg) ∧
    ∀ (r : Reading Float) (L S : Float), r.valid = true → r.crossover ≠ .neutral →
      isZero L = false → isZero S = false →
      (r.macdLast.isNaN = true ∨ r.signalLast.isNaN = true ∨ L.isNaN = true ∨ S.isNaN = true) →
      ∃ x, intensity r L S = .ok x ∧ x.isNaN = true ∧
        ∀ row : Row, row.hasMacd = true → row.intensity = x → ∃ f, crossoverBackground row = .error f :=
  crossings_shade_in_range _ _ (by decide) (by decide) (by decide) (by decide)

/-- A valid bullish reading whose previous MACD value is NaN: its intensity is
the full shade, not NaN, since the intensity reads only the last values. -/
theorem nan_previous_macd_keeps_shade :
    let r : Reading Float := ⟨1.0, Decimal.quietNaN, 0.5, 0.0, 0.0, 0.0, false, true, false, true⟩
    r.valid = true ∧ r.bullish = true ∧ r.macdPrev.isNaN = true ∧
      (intensity r 100.0 0.5).toOption.map Float.toBits = some (1.0 : Float).toBits := by
  decide +kernel

end QuoteMomentum.Macd
