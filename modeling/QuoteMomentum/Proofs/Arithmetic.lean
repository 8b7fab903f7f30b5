import Mathlib
import QuoteMomentum.Proofs.Rounding
import QuoteMomentum.Proofs.Quote

/-!
# The order and arithmetic of doubles

Numbers compare as their values do (`Double.compare_num`): comparing by
exponent first and then by mantissa is the order of the values, because a
shaped mantissa at a larger exponent always stands for the larger value.
Comparing the other way round swaps the answer (`compare_swap`), so the order
of doubles is asymmetric (`lt_asymm`).

Two doubles that compare unequal have a difference on the side of zero the
comparison gives (`side_sub`): the exact difference, in steps of the smaller
exponent, is a whole number other than zero, and its rounding keeps its side.
So `a < b` gives `0 < b - a` and `a - b < 0`, with no NaN and no zero in
between (`zero_lt_sub_of_lt`, `sub_lt_zero_of_lt`).

A positive double with all 53 bits times a number in `[0, hi]`, and a positive
double plus such a number, are numbers within any bounds a double holds on
their exact result (`within_mul`, `within_add`). NaN passes through every
operation, and a quotient by a finite number is NaN only when the dividend is
(`isNaN_div_finite`).
-/

open Float.Model Float.Model.UnpackedFloat

namespace QuoteMomentum.Double

/-! ## Order -/

theorem compare_neg_neg (a b : ℚ) : compare (-a) (-b) = (compare a b).swap := by
  rcases lt_trichotomy a b with h | rfl | h
  · rw [compare_lt_iff_lt.2 h, compare_gt_iff_gt.2 (neg_lt_neg h)]
    rfl
  · rw [compare_eq_iff_eq.2 rfl, compare_eq_iff_eq.2 rfl]
    rfl
  · rw [compare_gt_iff_gt.2 h, compare_lt_iff_lt.2 (neg_lt_neg h)]
    rfl

theorem compare_mul_zpow (a b : Nat) (e : Int) :
    compare ((a : ℚ) * 2 ^ e) ((b : ℚ) * 2 ^ e) = compare a b := by
  have hpos : (0 : ℚ) < 2 ^ e := zpow_pos two_pos e
  rcases lt_trichotomy a b with h | rfl | h
  · rw [compare_lt_iff_lt.2 h,
      compare_lt_iff_lt.2 (mul_lt_mul_of_pos_right (by exact_mod_cast h) hpos)]
  · rw [compare_eq_iff_eq.2 rfl, compare_eq_iff_eq.2 rfl]
  · rw [compare_gt_iff_gt.2 h,
      compare_gt_iff_gt.2 (mul_lt_mul_of_pos_right (by exact_mod_cast h) hpos)]

/-- A shaped value with a smaller exponent is the smaller value: the mantissas
of the larger exponent carry all 53 bits. -/
theorem Shaped.value_lt_of_lt {m₁ m₂ : Nat} {e₁ e₂ : Int} (h₁ : Shaped m₁ e₁)
    (h₂ : Shaped m₂ e₂) (he : e₁ < e₂) : (m₁ : ℚ) * 2 ^ e₁ < m₂ * 2 ^ e₂ :=
  calc (m₁ : ℚ) * 2 ^ e₁ < 2 ^ ((53 : Nat) + e₁) := h₁.lt_value
    _ ≤ 2 ^ ((52 : Nat) + e₂) := zpow_le_zpow_right₀ one_le_two (by push_cast; omega)
    _ ≤ m₂ * 2 ^ e₂ := h₂.value_ge (by have := h₁.least_le; omega)

/-- Shaped values compare by exponent first, then by mantissa. -/
theorem Shaped.lex_eq_compare {m₁ m₂ : Nat} {e₁ e₂ : Int} (h₁ : Shaped m₁ e₁) (h₂ : Shaped m₂ e₂) :
    (compare e₁ e₂).then (compare m₁ m₂) = compare ((m₁ : ℚ) * 2 ^ e₁) ((m₂ : ℚ) * 2 ^ e₂) := by
  rcases lt_trichotomy e₁ e₂ with he | rfl | he
  · rw [compare_lt_iff_lt.2 he, compare_lt_iff_lt.2 (h₁.value_lt_of_lt h₂ he)]
    rfl
  · rw [compare_eq_iff_eq.2 rfl, compare_mul_zpow]
    rfl
  · rw [compare_gt_iff_gt.2 he, compare_gt_iff_gt.2 (h₂.value_lt_of_lt h₁ he)]
    rfl

/-- **Numbers compare as their values.** -/
theorem compare_num {u v : UnpackedFloat} (hu : IsNum u) (hv : IsNum v) :
    UnpackedFloat.compare u v = some (compare (value u) (value v)) := by
  have hpos {m : Nat} (e : Int) (hm : 0 < m) : (0 : ℚ) < m * 2 ^ e :=
    mul_pos (by exact_mod_cast hm) (zpow_pos two_pos e)
  cases hu with
  | zero s =>
    cases hv with
    | zero s' => simp [UnpackedFloat.compare]
    | @finite s' m' e' hm' hs' he' =>
      have h := hpos e' hm'
      cases s' with
      | negative =>
        simp only [UnpackedFloat.compare, value_zero, value_negative, Option.some.injEq]
        exact (compare_gt_iff_gt.2 (by linarith)).symm
      | positive =>
        simp only [UnpackedFloat.compare, value_zero, value_positive, Option.some.injEq]
        exact (compare_lt_iff_lt.2 h).symm
  | @finite s m e hm hs he =>
    have h := hpos e hm
    cases hv with
    | zero s' =>
      cases s with
      | negative =>
        simp only [UnpackedFloat.compare, value_zero, value_negative, Option.some.injEq]
        exact (compare_lt_iff_lt.2 (by linarith)).symm
      | positive =>
        simp only [UnpackedFloat.compare, value_zero, value_positive, Option.some.injEq]
        exact (compare_gt_iff_gt.2 h).symm
    | @finite s' m' e' hm' hs' he' =>
      have h' := hpos e' hm'
      cases s with
      | negative =>
        cases s' with
        | negative =>
          -- the order of the magnitudes, swapped
          simp only [UnpackedFloat.compare, value_negative, compare_neg_neg, hs.lex_eq_compare hs']
        | positive =>
          simp only [UnpackedFloat.compare, value_positive, value_negative, Option.some.injEq]
          exact (compare_lt_iff_lt.2 (by linarith)).symm
      | positive =>
        cases s' with
        | negative =>
          simp only [UnpackedFloat.compare, value_positive, value_negative, Option.some.injEq]
          exact (compare_gt_iff_gt.2 (by linarith)).symm
        | positive =>
          simp only [UnpackedFloat.compare, value_positive, hs.lex_eq_compare hs']

theorem lex_swap (e e' : Int) (m m' : Nat) :
    (compare e' e).then (compare m' m) = ((compare e e').then (compare m m')).swap := by
  rw [Ordering.swap_then, ← Std.OrientedOrd.eq_swap, ← Std.OrientedOrd.eq_swap]

/-- Comparing the other way round swaps the answer. -/
theorem compare_swap (u v : UnpackedFloat) :
    UnpackedFloat.compare v u = (UnpackedFloat.compare u v).map Ordering.swap := by
  rcases u with s | _ | s | ⟨s, m, e, hm⟩ <;> rcases v with s' | _ | s' | ⟨s', m', e', hm'⟩ <;>
    (try cases s) <;> (try cases s') <;> (try rfl)
  -- what is left: two finite numbers of one sign, compared by exponent, then mantissa
  · simp only [UnpackedFloat.compare, Option.map_some, lex_swap e e' m m', Ordering.swap_swap]
  · simp only [UnpackedFloat.compare, Option.map_some, lex_swap e e' m m']

/-! ## Differences -/

/-- The exact difference of two finite doubles, as a whole number of steps of
the smaller exponent. -/
theorem sub_finite (s s' : Sign) {m m' : Nat} {e e' : Int} (hm : 0 < m) (hm' : 0 < m') :
    UnpackedFloat.sub .binary64 (.finite s m e hm) (.finite s' m' e' hm') =
      UnpackedFloat.normalize .binary64 (s.apply (decreaseExponent m e (min e e')).1 -
        s'.apply (decreaseExponent m' e' (min e e')).1) (min e e') .positive := rfl

theorem value_sub_finite (s s' : Sign) {m m' : Nat} (e e' : Int) (hm : 0 < m) (hm' : 0 < m') :
    ((s.apply (decreaseExponent m e (min e e')).1 - s'.apply (decreaseExponent m' e' (min e e')).1 :
      Int) : ℚ) * 2 ^ min e e' = value (.finite s m e hm) - value (.finite s' m' e' hm') := by
  rw [Int.cast_sub, sub_mul, value_decreaseExponent s m (min_le_left e e'),
    value_decreaseExponent s' m' (min_le_right e e')]
  rfl

/-- Two finite numbers of unequal value have a rounded difference on the side
their comparison gives: the exact difference, in steps of the smaller
exponent, is a whole number other than zero, and rounding keeps its side. -/
theorem side_sub_finite {s s' : Sign} {m m' : Nat} {e e' : Int} {hm : 0 < m} {hm' : 0 < m'}
    (hs : Shaped m e) (hs' : Shaped m' e')
    (hne : value (.finite s m e hm) ≠ value (.finite s' m' e' hm')) :
    side (Float.Model.pack (UnpackedFloat.sub .binary64 (.finite s m e hm) (.finite s' m' e' hm'))).unpack =
      some (compare (value (.finite s m e hm)) (value (.finite s' m' e' hm'))) := by
  have hval := value_sub_finite s s' e e' hm hm'
  have hleast : -1074 ≤ min e e' := le_min hs.least_le hs'.least_le
  have hstep : (0 : ℚ) < 2 ^ min e e' := zpow_pos two_pos _
  rw [sub_finite]
  generalize (s.apply (decreaseExponent m e (min e e')).1 -
    s'.apply (decreaseExponent m' e' (min e e')).1 : Int) = D at hval ⊢
  rcases lt_trichotomy D 0 with hD | rfl | hD
  · have hlt : value (.finite s m e hm) < value (.finite s' m' e' hm') := by
      have : (D : ℚ) * 2 ^ min e e' < 0 := mul_neg_of_neg_of_pos (by exact_mod_cast hD) hstep
      linarith
    rw [compare_lt_iff_lt.2 hlt, normalize_of_neg hD, side_round .negative (by omega) hleast]
    rfl
  · -- no steps between them: the values are equal
    simp only [Int.cast_zero, zero_mul] at hval
    exact absurd (by linarith) hne
  · have hgt : value (.finite s' m' e' hm') < value (.finite s m e hm) := by
      have : (0 : ℚ) < D * 2 ^ min e e' := mul_pos (by exact_mod_cast hD) hstep
      linarith
    rw [compare_gt_iff_gt.2 hgt, normalize_of_pos hD, side_round .positive (by omega) hleast]
    rfl

/-- Two numbers of unequal value have a rounded difference on the side their
comparison gives. Against a zero the difference is exact: the other number,
or its negation. -/
theorem side_sub_num {u v : UnpackedFloat} (hu : IsNum u) (hv : IsNum v) (hne : value u ≠ value v) :
    side (Float.Model.pack (UnpackedFloat.sub .binary64 u v)).unpack =
      some (compare (value u) (value v)) := by
  cases hu with
  | zero s =>
    cases hv with
    | zero s' => exact absurd rfl hne
    | @finite s' m' e' hm' hs' he' =>
      -- zero less a number is the number negated
      have hsub : UnpackedFloat.sub .binary64 (.zero s) (.finite s' m' e' hm') =
          .finite (-s') m' e' hm' := rfl
      have hpos : (0 : ℚ) < m' * 2 ^ e' := mul_pos (by exact_mod_cast hm') (zpow_pos two_pos e')
      rw [hsub, unpack_modelPack_num (.finite hs' he')]
      cases s' <;> simp only [value_zero, value_positive, value_negative]
      · rw [compare_gt_iff_gt.2 (by linarith)]
        rfl
      · rw [compare_lt_iff_lt.2 hpos]
        rfl
  | @finite s m e hm hs he =>
    cases hv with
    | zero s' =>
      have hsub : UnpackedFloat.sub .binary64 (.finite s m e hm) (.zero s') = .finite s m e hm := rfl
      have hpos : (0 : ℚ) < m * 2 ^ e := mul_pos (by exact_mod_cast hm) (zpow_pos two_pos e)
      rw [hsub, unpack_modelPack_num (.finite hs he)]
      cases s <;> simp only [value_zero, value_positive, value_negative]
      · rw [compare_lt_iff_lt.2 (by linarith)]
        rfl
      · rw [compare_gt_iff_gt.2 hpos]
        rfl
    | @finite s' m' e' hm' hs' he' => exact side_sub_finite hs hs' hne

/-- **The side of a difference.** Two doubles that compare unequal have a
difference on the side of zero their comparison gives; the difference of two
numbers never rounds to zero, and one too large for a double is the infinity
of that side. -/
theorem side_sub {a b : UnpackedFloat} (ha : Canonical a) (hb : Canonical b) {o : Ordering}
    (h : UnpackedFloat.compare a b = some o) (ho : o ≠ .eq) :
    side (Float.Model.pack (UnpackedFloat.sub .binary64 a b)).unpack = some o := by
  cases ha with
  | notANumber => cases h
  | infinity s =>
    cases hb with
    | notANumber => cases s <;> cases h
    | infinity s' =>
      -- of one sign they compare equal; of two, the difference is the first
      cases s <;> cases s' <;> simp only [UnpackedFloat.compare, Option.some.injEq] at h <;> subst h
      · exact absurd rfl ho
      · exact side_pack_infinity .negative
      · exact side_pack_infinity .positive
      · exact absurd rfl ho
    | num hv =>
      -- against a number the infinity decides both the difference and the comparison
      have hsub : UnpackedFloat.sub .binary64 (.infinity s) b = .infinity s := by
        cases hv <;> rfl
      rw [hsub, side_pack_infinity]
      cases hv <;> cases s <;> simp only [UnpackedFloat.compare, Option.some.injEq] at h <;>
        subst h <;> rfl
  | num hu =>
    cases hb with
    | notANumber => cases hu <;> cases h
    | infinity s' =>
      have hsub : UnpackedFloat.sub .binary64 a (.infinity s') = .infinity (-s') := by
        cases hu <;> rfl
      rw [hsub, side_pack_infinity]
      cases hu <;> cases s' <;> simp only [UnpackedFloat.compare, Option.some.injEq] at h <;>
        subst h <;> rfl
    | num hv =>
      -- two numbers compare as their values, which differ
      rw [compare_num hu hv, Option.some.injEq] at h
      subst h
      exact side_sub_num hu hv fun heq => ho (compare_eq_iff_eq.2 heq)

/-! ## Bounds -/

/-- A number a double holds exactly: a mantissa below `2 ^ 53` at an exponent
in range. -/
structure Bound where
  mant : Nat
  exp : Int
  mant_lt : mant < 2 ^ 53
  least_le : -1074 ≤ exp
  le_greatest : exp ≤ 971

/-- The number a bound stands for. -/
def Bound.val (B : Bound) : ℚ := B.mant * 2 ^ B.exp

/-- Zero, as a bound. -/
def Bound.zero : Bound := ⟨0, 0, by decide, by decide, by decide⟩

@[simp] theorem Bound.val_zero : Bound.zero.val = 0 := by
  simp [Bound.val, Bound.zero]

theorem Bound.val_nonneg (B : Bound) : 0 ≤ B.val :=
  mul_nonneg (Nat.cast_nonneg _) (zpow_pos two_pos _).le

/-- A double that is a number between `lo` and `hi`. -/
structure Within (lo hi : ℚ) (u : UnpackedFloat) : Prop where
  isNum : IsNum u
  lo_le : lo ≤ value u
  le_hi : value u ≤ hi

theorem Within.mono {lo hi lo' hi' : ℚ} {u : UnpackedFloat} (h : Within lo hi u) (hlo : lo' ≤ lo)
    (hhi : hi ≤ hi') : Within lo' hi' u :=
  ⟨h.isNum, le_trans hlo h.lo_le, le_trans h.le_hi hhi⟩

/-- A rounding of a value between two bounds is a number between them. -/
theorem RoundsTo.within {x : ℚ} {r : Nat} {t : Int} (h : RoundsTo x r t) (L B : Bound)
    (hL : L.val ≤ x) (hB : x ≤ B.val) :
    Within L.val B.val (Float.Model.pack (atGrid .positive r t)).unpack := by
  have hup : (r : ℚ) * 2 ^ t ≤ B.val := h.le_of_le B.mant_lt B.least_le hB
  have hlow : L.val ≤ (r : ℚ) * 2 ^ t := h.le_of_ge L.mant_lt L.least_le hL
  have hnum := h.isNum_atGrid .positive B.mant_lt B.le_greatest hup
  rw [unpack_modelPack_num hnum]
  refine ⟨hnum, ?_, ?_⟩ <;> rw [value_atGrid _ h.le_two_pow] <;> simpa [Sign.apply]

theorem eq_positive_of_nonneg {s : Sign} {m : Nat} {e : Int} {hm : 0 < m}
    (h : 0 ≤ value (.finite s m e hm)) : s = .positive := by
  cases s with
  | positive => rfl
  | negative =>
    have : (0 : ℚ) < m * 2 ^ e := mul_pos (by exact_mod_cast hm) (zpow_pos two_pos e)
    simp only [value_negative] at h
    linarith

theorem le_grid_of_full {m : Nat} (hm : 2 ^ 52 ≤ m) (e : Int) : e ≤ grid m e := by
  have : 52 ≤ m.log2 := (Nat.le_log2 (by omega)).2 hm
  rw [grid_eq]
  omega

/-- **A bounded product.** A positive double with all 53 bits times a number
between zero and `hi` is a number between zero and any bound on their exact
product. -/
theorem within_mul {mc : Nat} {ec : Int} {hmc : 0 < mc} (hfull : 2 ^ 52 ≤ mc) {u : UnpackedFloat}
    {hi : ℚ} (hu : Within 0 hi u) (B : Bound) (hB : (mc : ℚ) * 2 ^ ec * hi ≤ B.val) :
    Within 0 B.val (Float.Model.pack (mul .binary64 (.finite .positive mc ec hmc) u)).unpack := by
  rcases hu with ⟨hnum, hlo, hhi⟩
  cases hnum with
  | zero s =>
    rw [show mul .binary64 (.finite .positive mc ec hmc) (.zero s) = .zero (.positive * s) from rfl,
      unpack_modelPack_num (.zero _)]
    exact ⟨.zero _, le_rfl, B.val_nonneg⟩
  | @finite s m e hm hs he =>
    obtain rfl := eq_positive_of_nonneg hlo
    -- the exact product, `mc · m` at `ec + e`, is rounded at its grid
    have hgrid : ec + e ≤ grid (mc * m) (ec + e) := le_grid_of_full (by nlinarith) _
    obtain ⟨r, hround, hr⟩ := roundWithAccuracy_roundsTo .positive (Nat.mul_pos hmc hm) hgrid
    have hx : ((mc * m : Nat) : ℚ) * 2 ^ (ec + e) = mc * 2 ^ ec * value (.finite .positive m e hm) := by
      rw [value_positive, zpow_add₀ two_ne_zero]
      push_cast
      ring
    have hcpos : (0 : ℚ) ≤ mc * 2 ^ ec := mul_nonneg (Nat.cast_nonneg _) (zpow_pos two_pos _).le
    rw [show mul .binary64 (.finite .positive mc ec hmc) (.finite .positive m e hm) =
      roundWithAccuracy .binary64 .positive (mc * m) (ec + e) .exact from rfl, hround]
    have hw := hr.within Bound.zero B ?_ ?_
    · rwa [Bound.val_zero] at hw
    · rw [Bound.val_zero]
      exact mul_nonneg (Nat.cast_nonneg _) (zpow_pos two_pos _).le
    · rw [hx]
      exact le_trans (mul_le_mul_of_nonneg_left hhi hcpos) hB

theorem add_finite (s s' : Sign) {m m' : Nat} {e e' : Int} (hm : 0 < m) (hm' : 0 < m') :
    UnpackedFloat.add .binary64 (.finite s m e hm) (.finite s' m' e' hm') =
      UnpackedFloat.normalize .binary64 (s.apply (decreaseExponent m e (min e e')).1 +
        s'.apply (decreaseExponent m' e' (min e e')).1) (min e e') .positive := rfl

/-- **A bounded sum.** A positive double plus a number between zero and `hi`
is a number between any bounds on their exact sum. -/
theorem within_add {ma : Nat} {ea : Int} {hma : 0 < ma} (hsa : Shaped ma ea) (hea : ea ≤ 971)
    {u : UnpackedFloat} {hi : ℚ} (hu : Within 0 hi u) (L B : Bound)
    (hL : L.val ≤ ma * 2 ^ ea) (hB : ma * 2 ^ ea + hi ≤ B.val) :
    Within L.val B.val (Float.Model.pack (UnpackedFloat.add .binary64 (.finite .positive ma ea hma) u)).unpack := by
  rcases hu with ⟨hnum, hlo, hhi⟩
  cases hnum with
  | zero s =>
    -- adding a zero leaves the number as it is
    rw [show UnpackedFloat.add .binary64 (.finite .positive ma ea hma) (.zero s) =
      .finite .positive ma ea hma from rfl, unpack_modelPack_num (.finite hsa hea)]
    refine ⟨.finite hsa hea, by simpa using hL, ?_⟩
    simp only [value_zero] at hhi
    simp only [value_positive]
    linarith
  | @finite s m e hm hs he =>
    obtain rfl := eq_positive_of_nonneg hlo
    have hval := value_decreaseExponent .positive ma (min_le_left ea e)
    have hval' := value_decreaseExponent .positive m (min_le_right ea e)
    simp only [Sign.apply, Int.cast_natCast] at hval hval'
    -- both terms are positive, so the exact sum in steps of the smaller exponent is too
    have hsum : Sign.positive.apply ((decreaseExponent ma ea (min ea e)).1 : Int) +
        Sign.positive.apply ((decreaseExponent m e (min ea e)).1 : Int) =
        (((decreaseExponent ma ea (min ea e)).1 + (decreaseExponent m e (min ea e)).1 : Nat) : Int) := by
      simp [Sign.apply]
    have hpos : 0 < (decreaseExponent ma ea (min ea e)).1 := by
      simp only [decreaseExponent, Nat.shiftLeft_eq]
      exact Nat.mul_pos hma (Nat.two_pow_pos _)
    rw [add_finite, hsum, normalize_of_pos (by omega), Int.toNat_natCast]
    obtain ⟨r, hround, hr⟩ := round_roundsTo .positive
      (m := (decreaseExponent ma ea (min ea e)).1 + (decreaseExponent m e (min ea e)).1) (by omega) (min ea e)
    rw [hround]
    have hx : (((decreaseExponent ma ea (min ea e)).1 + (decreaseExponent m e (min ea e)).1 : Nat) : ℚ) *
        2 ^ min ea e = ma * 2 ^ ea + value (.finite .positive m e hm) := by
      rw [value_positive]
      push_cast
      rw [add_mul, hval, hval']
    refine hr.within L B ?_ ?_ <;> rw [hx]
    · have : (0 : ℚ) ≤ value (.finite .positive m e hm) := hlo
      linarith
    · linarith

/-! ## NaN -/

/-- A quotient by a finite number is NaN only when the dividend is. -/
theorem isNaN_div_finite {a : UnpackedFloat} (ha : a.isNaN = false) (s : Sign) {m : Nat} (e : Int)
    (hm : 0 < m) : (div .binary64 a (.finite s m e hm)).isNaN = false := by
  cases a with
  | notANumber => cases ha
  | infinity => rfl
  | zero => rfl
  | finite => exact isNaN_roundWithAccuracy _ _ _ _ _

/-- A value on a side of zero is not NaN. -/
theorem isNaN_eq_false_of_side {u : UnpackedFloat} {o : Ordering} (h : side u = some o) :
    u.isNaN = false := by
  cases u with
  | notANumber => cases h
  | _ => rfl

theorem compare_notANumber_right (u : UnpackedFloat) : UnpackedFloat.compare u .notANumber = none := by
  cases u <;> rfl

theorem sub_notANumber_right (u : UnpackedFloat) : sub .binary64 u .notANumber = .notANumber := by
  cases u <;> rfl

theorem add_notANumber_right (u : UnpackedFloat) : add .binary64 u .notANumber = .notANumber := by
  cases u <;> rfl

theorem mul_notANumber_right (u : UnpackedFloat) : mul .binary64 u .notANumber = .notANumber := by
  cases u <;> rfl

theorem div_notANumber_right (u : UnpackedFloat) : div .binary64 u .notANumber = .notANumber := by
  cases u <;> rfl

theorem isNaN_abs {a : UnpackedFloat} (ha : a.isNaN = false) : a.abs.isNaN = false := by
  cases a with
  | notANumber => cases ha
  | _ => rfl

/-! ## Doubles

A double computes by unpacking its operands, running the operation on the
unpacked values and packing the result: each operation's lemma below says so,
and the rest of this section reads the order of doubles off `compare`. -/

@[simp] theorem unpack_add (a b : Float) :
    (a + b).toModel.unpack = (Float.Model.pack (add .binary64 a.toModel.unpack b.toModel.unpack)).unpack :=
  rfl

@[simp] theorem unpack_sub (a b : Float) :
    (a - b).toModel.unpack = (Float.Model.pack (sub .binary64 a.toModel.unpack b.toModel.unpack)).unpack :=
  rfl

@[simp] theorem unpack_mul (a b : Float) :
    (a * b).toModel.unpack = (Float.Model.pack (mul .binary64 a.toModel.unpack b.toModel.unpack)).unpack :=
  rfl

@[simp] theorem unpack_div (a b : Float) :
    (a / b).toModel.unpack = (Float.Model.pack (div .binary64 a.toModel.unpack b.toModel.unpack)).unpack :=
  rfl

@[simp] theorem unpack_abs (a : Float) :
    a.abs.toModel.unpack = (Float.Model.pack a.toModel.unpack.abs).unpack :=
  rfl

theorem unpack_pack_notANumber : (Float.Model.pack .notANumber).unpack = .notANumber := by
  rw [unpack_modelPack]
  exact unpack_packedNaN

theorem lt_iff_compare (a b : Float) :
    a < b ↔ UnpackedFloat.compare a.toModel.unpack b.toModel.unpack = some .lt := by
  show decide (Float.Model.lt a.toModel b.toModel = true) = true ↔ _
  rw [decide_eq_true_iff]
  unfold Float.Model.lt UnpackedFloat.lt
  simp

theorem le_iff_compare (a b : Float) :
    a ≤ b ↔ UnpackedFloat.compare a.toModel.unpack b.toModel.unpack = some .lt ∨
      UnpackedFloat.compare a.toModel.unpack b.toModel.unpack = some .eq := by
  show decide (Float.Model.le a.toModel b.toModel = true) = true ↔ _
  rw [decide_eq_true_iff]
  unfold Float.Model.le UnpackedFloat.le
  cases UnpackedFloat.compare a.toModel.unpack b.toModel.unpack with
  | none => simp
  | some o => cases o <;> simp

/-- A double below or equal to another by value is at most it. -/
theorem le_of_value_le {a b : Float} (ha : IsNum a.toModel.unpack) (hb : IsNum b.toModel.unpack)
    (h : value a.toModel.unpack ≤ value b.toModel.unpack) : a ≤ b := by
  rw [le_iff_compare, compare_num ha hb, Option.some.injEq, Option.some.injEq]
  rcases h.lt_or_eq with h | h
  · exact .inl (compare_lt_iff_lt.2 h)
  · exact .inr (compare_eq_iff_eq.2 h)

/-- The order of doubles is asymmetric. -/
theorem lt_asymm {a b : Float} (h : a < b) : ¬ b < a := by
  rw [lt_iff_compare] at h ⊢
  rw [compare_swap, h]
  decide

theorem zero_lt_iff (x : Float) : 0.0 < x ↔ side x.toModel.unpack = some .gt := by
  rw [lt_iff_compare, show (0.0 : Float).toModel.unpack = .zero .positive from rfl]
  cases x.toModel.unpack with
  | infinity s => cases s <;> simp [UnpackedFloat.compare, side, sideOf]
  | notANumber => simp [UnpackedFloat.compare, side]
  | zero s => simp [UnpackedFloat.compare, side]
  | finite s => cases s <;> simp [UnpackedFloat.compare, side, sideOf]

theorem lt_zero_iff (x : Float) : x < 0.0 ↔ side x.toModel.unpack = some .lt := by
  rw [lt_iff_compare, show (0.0 : Float).toModel.unpack = .zero .positive from rfl]
  cases x.toModel.unpack with
  | infinity s => cases s <;> simp [UnpackedFloat.compare, side, sideOf]
  | notANumber => simp [UnpackedFloat.compare, side]
  | zero s => simp [UnpackedFloat.compare, side]
  | finite s => cases s <;> simp [UnpackedFloat.compare, side, sideOf]

/-- **The difference of ordered doubles** lies above zero: never NaN, never a
zero, even where the two are as close as doubles get. -/
theorem zero_lt_sub_of_lt {a b : Float} (h : a < b) : 0.0 < b - a := by
  rw [zero_lt_iff]
  rw [lt_iff_compare] at h
  have hba : UnpackedFloat.compare b.toModel.unpack a.toModel.unpack = some .gt := by
    rw [compare_swap, h]
    rfl
  exact side_sub (canonical_toModel b) (canonical_toModel a) hba (by decide)

theorem sub_lt_zero_of_lt {a b : Float} (h : a < b) : a - b < 0.0 := by
  rw [lt_zero_iff]
  rw [lt_iff_compare] at h
  exact side_sub (canonical_toModel a) (canonical_toModel b) h (by decide)

end QuoteMomentum.Double
