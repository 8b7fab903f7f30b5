import Mathlib
import QuoteMomentum.Proofs.Signs

/-!
# Rounding to the nearest double

Every operation on doubles computes its exact result as a mantissa and an
exponent, rounds it to nearest (ties to even) and packs it into 64 bits. This
module gives the rounding a closed form and the result a value.

Rounding `m · 2 ^ e` keeps a whole number `r` of steps of its *grid* `2 ^ t`:
the place 52 bits below the leading one of `m · 2 ^ e`, or the least exponent
`-1074` when that is lower (`grid_eq`). The steps *bracket* the value: they
never pass a multiple of the step that lies at or above the value, nor fall
short of one at or below it (`Brackets`). What a rounding is, with its bounds on
the number of bits, is `RoundsTo`; every rounding the operations make is one
(`round_roundsTo`, `roundWithAccuracy_roundsTo`). From it, a number a double
holds exactly that lies on one side of a value lies on the same side of its
rounding (`RoundsTo.le_of_le`, `RoundsTo.le_of_ge`).

The bits of a double stand for a NaN, a signed infinity or a number, and a
number is a zero or a *shaped* mantissa: 53 bits, or fewer at the least
exponent (`Canonical`, `canonical_unpack`). Packing a number and unpacking it
gives it back (`unpack_pack_num`); past the largest exponent it gives the
infinity of its sign (`unpack_pack_overflow`). So a rounding bounded by a
number a double holds is that number of steps, and any rounding of a nonzero
value keeps its side of zero (`side_round`).
-/

open Float.Model Float.Model.UnpackedFloat

namespace QuoteMomentum.Double

/-! ## Shifting right and rounding to nearest -/

theorem mantissa_shiftRight (em : ExtendedMantissa) (n : Nat) :
    (em >>> n).mantissa = em.mantissa / 2 ^ n := by
  induction n with
  | zero => simp [HShiftRight.hShiftRight, Nat.repeat]
  | succ n ih =>
    show (ExtendedMantissa.shiftRightOne (em >>> n)).mantissa = _
    rw [ExtendedMantissa.shiftRightOne, ih, Nat.div_div_eq_div_mul, Nat.pow_succ]

/-- The bits shifted out of an exact mantissa are all zero exactly when
`2 ^ n` divides it. -/
theorem residue_shiftRight (m n : Nat) :
    ((ExtendedMantissa.ofMantissaAndAccuracy m .exact >>> n).roundBit ||
      (ExtendedMantissa.ofMantissaAndAccuracy m .exact >>> n).stickyBit) = false ↔
      m % 2 ^ n = 0 := by
  induction n with
  | zero => simp [HShiftRight.hShiftRight, Nat.repeat, ExtendedMantissa.ofMantissaAndAccuracy,
      Nat.mod_one]
  | succ n ih =>
    show ((ExtendedMantissa.shiftRightOne
        (ExtendedMantissa.ofMantissaAndAccuracy m .exact >>> n)).roundBit ||
      (ExtendedMantissa.shiftRightOne
        (ExtendedMantissa.ofMantissaAndAccuracy m .exact >>> n)).stickyBit) = false ↔ _
    have hmod : m % 2 ^ (n + 1) = 2 ^ n * (m / 2 ^ n % 2) + m % 2 ^ n := by
      rw [Nat.pow_succ, Nat.mod_mul]
      omega
    simp only [ExtendedMantissa.shiftRightOne, mantissa_shiftRight, Bool.or_eq_false_iff,
      bne_eq_false_iff_eq] at ih ⊢
    rw [ih, hmod]
    simp only [ExtendedMantissa.ofMantissaAndAccuracy]
    have hpos : 0 < 2 ^ n := Nat.two_pow_pos n
    constructor
    · rintro ⟨h1, h2⟩
      simp [h1, h2]
    · intro h
      have h2 : m % 2 ^ n = 0 := by omega
      refine ⟨?_, h2⟩
      rw [h2, Nat.add_zero] at h
      rcases Nat.mul_eq_zero.1 h with h | h
      · omega
      · exact h

@[simp] theorem mantissa_ofExact (m : Nat) :
    (ExtendedMantissa.ofMantissaAndAccuracy m .exact).mantissa = m := rfl

/-- `m` shifted right by `n` places and rounded to nearest, ties to even. -/
def shiftRound (m n : Nat) : Nat :=
  (ExtendedMantissa.ofMantissaAndAccuracy m .exact >>> n).roundedMantissa

theorem roundedMantissa_bounds (em : ExtendedMantissa) :
    em.mantissa ≤ em.roundedMantissa ∧ em.roundedMantissa ≤ em.mantissa + 1 := by
  obtain ⟨m, r, s⟩ := em
  cases r <;> cases s <;>
    simp only [ExtendedMantissa.roundedMantissa, ExtendedMantissa.accuracy,
      Accuracy.roundToNearestEven] <;> omega

theorem roundedMantissa_of_residue {em : ExtendedMantissa}
    (h : (em.roundBit || em.stickyBit) = false) : em.roundedMantissa = em.mantissa := by
  obtain ⟨m, r, s⟩ := em
  simp only [Bool.or_eq_false_iff] at h
  obtain ⟨rfl, rfl⟩ := h
  rfl

/-- Rounding never goes past a multiple of the step at or above the value. -/
theorem shiftRound_le {m n W : Nat} (h : m ≤ W * 2 ^ n) : shiftRound m n ≤ W := by
  have hpos : 0 < 2 ^ n := Nat.two_pow_pos n
  have hq : m / 2 ^ n * 2 ^ n + m % 2 ^ n = m := Nat.div_add_mod' m (2 ^ n)
  have hb := roundedMantissa_bounds (ExtendedMantissa.ofMantissaAndAccuracy m .exact >>> n)
  rw [mantissa_shiftRight, mantissa_ofExact] at hb
  unfold shiftRound
  by_cases hr : m % 2 ^ n = 0
  · rw [roundedMantissa_of_residue ((residue_shiftRight m n).2 hr), mantissa_shiftRight,
      mantissa_ofExact]
    exact Nat.div_le_of_le_mul (by rwa [Nat.mul_comm])
  · -- a remainder is left, so the quotient is below `W`
    have hlt : m / 2 ^ n * 2 ^ n < W * 2 ^ n := by
      omega
    have := Nat.lt_of_mul_lt_mul_right hlt
    omega

/-- Rounding never goes below a multiple of the step at or below the value. -/
theorem le_shiftRound {m n L : Nat} (h : L * 2 ^ n ≤ m) : L ≤ shiftRound m n := by
  have hb := roundedMantissa_bounds (ExtendedMantissa.ofMantissaAndAccuracy m .exact >>> n)
  rw [mantissa_shiftRight, mantissa_ofExact] at hb
  exact le_trans ((Nat.le_div_iff_mul_le (Nat.two_pow_pos n)).2 h) hb.1

/-! ## The grid of a value -/

/-- The exponent of the last bit a double keeps of `m · 2 ^ e`. -/
def grid (m : Nat) (e : Int) : Int :=
  Format.binary64.targetExponent (totalExponent m e)

theorem grid_eq (m : Nat) (e : Int) : grid m e = max ((m.log2 : Int) + e - 52) (-1074) := by
  simp only [grid, Format.targetExponent, totalExponent, Format.mantissaBits, Format.minExponent]
  norm_num
  omega

/-- A mantissa at the grid `t` as an unpacked double: a zero, itself, or, when
rounding carried it into a 54th bit, half of it one place up. -/
def atGrid (s : Sign) (r : Nat) (t : Int) : UnpackedFloat :=
  if h : r = 0 then .zero s
  else if r < 2 ^ 53 then .finite s r t (Nat.pos_of_ne_zero h)
  else .finite s (2 ^ 52) (t + 1) (Nat.two_pow_pos 52)

theorem shiftToTarget_small {r : Nat} {t : Int} (hr : r < 2 ^ 53) (ht : -1074 ≤ t) :
    shiftToTargetExponent .binary64 r t .exact =
      (ExtendedMantissa.ofMantissaAndAccuracy r .exact, t) := by
  have hlog : r.log2 ≤ 52 := by
    rcases Nat.eq_zero_or_pos r with rfl | hr0
    · simp
    · have := (Nat.log2_lt (Nat.pos_iff_ne_zero.1 hr0)).2 hr
      omega
  have hshift : (grid r t - t).toNat = 0 := by
    rw [grid_eq]
    omega
  simp only [shiftToTargetExponent, shiftToExponent]
  rw [show Format.binary64.targetExponent (totalExponent r t) = grid r t from rfl, hshift]
  simp [HShiftRight.hShiftRight, Nat.repeat]

theorem shiftToTarget_carry {t : Int} (ht : -1074 ≤ t) :
    shiftToTargetExponent .binary64 (2 ^ 53) t .exact =
      (ExtendedMantissa.ofMantissaAndAccuracy (2 ^ 52) .exact, t + 1) := by
  have hshift : (grid (2 ^ 53) t - t).toNat = 1 := by
    rw [grid_eq, Nat.log2_two_pow]
    omega
  simp only [shiftToTargetExponent, shiftToExponent]
  rw [show Format.binary64.targetExponent (totalExponent (2 ^ 53) t) = grid (2 ^ 53) t from rfl,
    hshift]
  simp [HShiftRight.hShiftRight, Nat.repeat, ExtendedMantissa.shiftRightOne,
    ExtendedMantissa.ofMantissaAndAccuracy]

/-- The rounded mantissa at the grid has at most 54 bits: the value is below
`2 ^ 53` steps of the grid. -/
theorem shiftRound_le_two_pow {m : Nat} {e : Int} (he : e ≤ grid m e) :
    shiftRound m (grid m e - e).toNat ≤ 2 ^ 53 := by
  apply shiftRound_le
  rcases Nat.eq_zero_or_pos m with rfl | hm
  · simp
  · have hlt : m < 2 ^ (m.log2 + 1) := Nat.lt_log2_self
    have hn : m.log2 + 1 ≤ 53 + (grid m e - e).toNat := by
      rw [grid_eq] at he ⊢
      omega
    calc m ≤ 2 ^ (m.log2 + 1) := hlt.le
      _ ≤ 2 ^ (53 + (grid m e - e).toNat) := Nat.pow_le_pow_right (by decide) hn
      _ = 2 ^ 53 * 2 ^ (grid m e - e).toNat := Nat.pow_add _ _ _

/-- **Rounding in closed form.** Rounding `m · 2 ^ e`, with `e` at or below its
grid, keeps the rounded mantissa at the grid. -/
theorem roundWithAccuracy_exact (s : Sign) {m : Nat} {e : Int} (he : e ≤ grid m e) :
    roundWithAccuracy .binary64 s m e .exact =
      atGrid s (shiftRound m (grid m e - e).toNat) (grid m e) := by
  have hfirst : shiftToTargetExponent .binary64 m e .exact =
      (ExtendedMantissa.ofMantissaAndAccuracy m .exact >>> (grid m e - e).toNat, grid m e) := by
    simp only [shiftToTargetExponent, shiftToExponent]
    rw [show Format.binary64.targetExponent (totalExponent m e) = grid m e from rfl]
    congr 1
    omega
  have hR := shiftRound_le_two_pow he
  have ht : -1074 ≤ grid m e := by
    rw [grid_eq]
    omega
  unfold roundWithAccuracy
  rw [hfirst]
  dsimp only
  rw [show (ExtendedMantissa.ofMantissaAndAccuracy m .exact >>> (grid m e - e).toNat).roundedMantissa =
    shiftRound m (grid m e - e).toNat from rfl]
  unfold atGrid
  by_cases hsmall : shiftRound m (grid m e - e).toNat < 2 ^ 53
  · rw [shiftToTarget_small hsmall ht]
    simp only [mantissa_ofExact, hsmall, if_true]
    rfl
  · -- the rounding carried into a 54th bit
    have hcarry : shiftRound m (grid m e - e).toNat = 2 ^ 53 := by omega
    rw [hcarry, shiftToTarget_carry ht]
    simp

theorem log2_shiftLeft {m : Nat} (hm : 0 < m) (k : Nat) : (m <<< k).log2 = m.log2 + k := by
  have hlo : 2 ^ m.log2 ≤ m := Nat.log2_self_le (Nat.pos_iff_ne_zero.1 hm)
  have hhi : m < 2 ^ (m.log2 + 1) := Nat.lt_log2_self
  rw [Nat.shiftLeft_eq, Nat.log2_eq_iff (Nat.mul_ne_zero (Nat.pos_iff_ne_zero.1 hm)
    (Nat.pos_iff_ne_zero.1 (Nat.two_pow_pos k)))]
  constructor
  · rw [Nat.pow_add]
    exact Nat.mul_le_mul_right _ hlo
  · rw [show m.log2 + k + 1 = m.log2 + 1 + k by omega, Nat.pow_add]
    exact Nat.mul_lt_mul_of_pos_right hhi (Nat.two_pow_pos k)

/-- Rounding after the exponent is brought down to the grid. -/
theorem round_eq (s : Sign) {m : Nat} (hm : 0 < m) (e : Int) :
    UnpackedFloat.round .binary64 s m e =
      atGrid s (shiftRound (m <<< (e - grid m e).toNat) (grid m e - e).toNat) (grid m e) := by
  have hgrid : grid (m <<< (e - grid m e).toNat) (e - ((e - grid m e).toNat : Nat)) = grid m e := by
    rw [grid_eq, grid_eq, log2_shiftLeft hm]
    push_cast
    omega
  have hle : e - ((e - grid m e).toNat : Nat) ≤ grid (m <<< (e - grid m e).toNat)
      (e - ((e - grid m e).toNat : Nat)) := by
    rw [hgrid]
    omega
  unfold UnpackedFloat.round decreaseExponent
  dsimp only
  rw [show Format.binary64.targetExponent (totalExponent m e) = grid m e from rfl,
    roundWithAccuracy_exact s hle, hgrid]
  congr 2
  omega

/-! ## The values a double's bits stand for -/

/-- The shape of a finite double: a mantissa below `2 ^ 53`, with all 53 bits
unless the exponent is the least one. -/
structure Shaped (m : Nat) (e : Int) : Prop where
  lt_two_pow : m < 2 ^ 53
  least_le : -1074 ≤ e
  full : 2 ^ 52 ≤ m ∨ e = -1074

/-- A double that is a number: a zero, or a shaped finite value whose exponent
is in range. -/
inductive IsNum : UnpackedFloat → Prop
  | zero (s : Sign) : IsNum (.zero s)
  | finite {s : Sign} {m : Nat} {e : Int} {h : 0 < m} : Shaped m e → e ≤ 971 →
    IsNum (.finite s m e h)

/-- The unpacked values that a double's bits stand for. -/
inductive Canonical : UnpackedFloat → Prop
  | notANumber : Canonical .notANumber
  | infinity (s : Sign) : Canonical (.infinity s)
  | num {u : UnpackedFloat} : IsNum u → Canonical u

theorem canonical_unpack (b : BitVec Format.binary64.numBits) :
    Canonical (UnpackedFloat.unpack Format.binary64 b) := by
  have hexp : (unpackExponent b).toNat < 2048 := (unpackExponent b).isLt
  have hman : (unpackMantissa b).toNat < 2 ^ 52 := (unpackMantissa b).isLt
  have hbias : ((2 ^ (11 - 1) - 1 : Nat) : Int) + (52 : Nat) = 1075 := by norm_num
  unfold UnpackedFloat.unpack
  dsimp only
  by_cases h1 : unpackExponent b = -1#_
  · by_cases h2 : unpackMantissa b = 0#_
    · simpa [h1, h2] using Canonical.infinity _
    · simpa [h1, h2] using Canonical.notANumber
  · have h1' : (unpackExponent b).toNat ≠ 2047 := fun h => h1 (BitVec.eq_of_toNat_eq (by simpa using h))
    by_cases h3 : unpackExponent b = 0#_
    · by_cases h2 : unpackMantissa b = 0#_
      · simpa [h1, h2, h3] using Canonical.num (.zero _)
      · -- a subnormal: no hidden bit, the least exponent
        simp only [h2, h3, if_false, if_true]
        refine .num (.finite ⟨by omega, ?_, .inr ?_⟩ ?_) <;>
          simp [Format.exponentBias]
    · -- a normal number: the hidden bit, an exponent field neither zero nor all ones
      have h3' : (unpackExponent b).toNat ≠ 0 := fun hz => h3 (BitVec.eq_of_toNat_eq (by simpa using hz))
      have hnorm : (1#1 ++ unpackMantissa b).toNat = (unpackMantissa b).toNat + 2 ^ 52 := by
        rw [BitVec.toNat_append, ← Nat.shiftLeft_add_eq_or_of_lt (unpackMantissa b).isLt]
        simp [Nat.shiftLeft_eq]
        omega
      simp only [h1, h3, if_false]
      refine .num (.finite ⟨?_, ?_, .inl ?_⟩ ?_) <;>
        simp only [hnorm, Format.exponentBias, hbias] <;> omega

theorem unpack_packedInfinity (s : Sign) :
    UnpackedFloat.unpack Format.binary64 (packedInfinity Format.binary64 s) = .infinity s := by
  simp [packedInfinity, UnpackedFloat.unpack, unpackSign_packComponents, Sign.ofBitVec_toBitVec]

/-- Bits with an exponent field neither zero nor all ones unpack to a normal
number: the hidden bit on the fraction, the field less the bias. -/
theorem unpack_packComponents_normal (s : Sign) (ev : BitVec Format.binary64.exponentBits)
    (mv : BitVec Format.binary64.mantissaBitsWithoutImplicit)
    (h0 : ev.toNat ≠ 0) (h1 : ev.toNat ≠ 2047) :
    UnpackedFloat.unpack Format.binary64 (packComponents Format.binary64 s ev mv) =
      .finite s (mv.toNat + 2 ^ 52) ((ev.toNat : Int) - 1075) (by omega) := by
  have hall : ev ≠ -1#_ := fun h => h1 (by rw [h]; rfl)
  have hzero : ev ≠ 0#_ := fun h => h0 (by rw [h]; rfl)
  have hnorm : (1#1 ++ mv).toNat = mv.toNat + 2 ^ 52 := by
    rw [BitVec.toNat_append, ← Nat.shiftLeft_add_eq_or_of_lt mv.isLt]
    simp [Nat.shiftLeft_eq]
    omega
  unfold UnpackedFloat.unpack
  simp only [unpackExponent_packComponents, unpackMantissa_packComponents, unpackSign_packComponents,
    Sign.ofBitVec_toBitVec, hall, hzero, if_false, hnorm, UnpackedFloat.finite.injEq, true_and]
  simp [Format.exponentBias]

/-- Bits with a zero exponent field and a nonzero fraction unpack to a
subnormal number at the least exponent. -/
theorem unpack_packComponents_subnormal (s : Sign)
    (mv : BitVec Format.binary64.mantissaBitsWithoutImplicit) (hmv : mv.toNat ≠ 0) :
    UnpackedFloat.unpack Format.binary64 (packComponents Format.binary64 s 0#_ mv) =
      .finite s mv.toNat (-1074) (by omega) := by
  have hzero : mv ≠ 0#_ := fun h => hmv (by rw [h]; rfl)
  unfold UnpackedFloat.unpack
  simp only [unpackExponent_packComponents, unpackMantissa_packComponents, unpackSign_packComponents,
    Sign.ofBitVec_toBitVec, hzero, dite_false, if_true]
  simp [Format.exponentBias]

/-- Packing a number and unpacking it gives it back. -/
theorem unpack_pack_num {u : UnpackedFloat} (hu : IsNum u) :
    UnpackedFloat.unpack Format.binary64 (UnpackedFloat.pack Format.binary64 u) = u := by
  cases hu with
  | zero s => exact unpack_packedZero
  | @finite s m e hm hs he =>
    have hbiased : ((e + (2 ^ (11 - 1) - 1 : Nat) + (52 : Nat)).toNat : Int) = e + 1075 := by
      have := hs.least_le
      omega
    have hnofl : ¬ 2 ^ 11 ≤ (e + (2 ^ (11 - 1) - 1 : Nat) + (52 : Nat)).toNat + 1 := by omega
    simp only [UnpackedFloat.pack, Format.exponentBias, Format.mantissaBits, hnofl, if_false]
    by_cases hfull : 2 ^ 52 ≤ m
    · -- a normal number: 53 mantissa bits, a biased exponent field in [1, 2046]
      have hlog : m.log2 = 52 := (Nat.log2_eq_iff (by omega)).2 ⟨hfull, hs.lt_two_pow⟩
      have hexp : (BitVec.ofNat 11 (e + (2 ^ (11 - 1) - 1 : Nat) + (52 : Nat)).toNat).toNat =
          (e + 1075).toNat := by
        rw [BitVec.toNat_ofNat]
        omega
      have h0 : (BitVec.ofNat 11 (e + (2 ^ (11 - 1) - 1 : Nat) + (52 : Nat)).toNat).toNat ≠ 0 := by
        rw [hexp]; have := hs.least_le; omega
      have h1 : (BitVec.ofNat 11 (e + (2 ^ (11 - 1) - 1 : Nat) + (52 : Nat)).toNat).toNat ≠ 2047 := by
        rw [hexp]; omega
      simp only [hlog, if_true]
      rw [unpack_packComponents_normal _ _ _ h0 h1]
      have hman : (BitVec.ofNat 52 m).toNat + 2 ^ 52 = m := by
        rw [BitVec.toNat_ofNat]
        have := hs.lt_two_pow
        omega
      simp only [hman, hexp, UnpackedFloat.finite.injEq, true_and]
      omega
    · -- a subnormal: fewer than 53 bits, so the least exponent
      have hleast : e = -1074 := hs.full.resolve_left hfull
      have hlog : m.log2 ≠ 52 := fun h => hfull (by
        have := (Nat.log2_eq_iff (n := m) (k := 52) (by omega)).1 h
        exact this.1)
      have hman : (BitVec.ofNat 52 m).toNat = m := by
        rw [BitVec.toNat_ofNat]
        omega
      simp only [show ¬ m.log2 + 1 = 1 + 52 by omega, if_false]
      rw [unpack_packComponents_subnormal _ _ (by omega)]
      simp only [hman, hleast]

/-- A value whose exponent is past the largest one packs to an infinity. -/
theorem unpack_pack_overflow (s : Sign) {m : Nat} {e : Int} (hm : 0 < m) (he : 972 ≤ e) :
    UnpackedFloat.unpack Format.binary64 (UnpackedFloat.pack Format.binary64 (.finite s m e hm)) =
      .infinity s := by
  have hofl : 2 ^ 11 ≤ (e + (2 ^ (11 - 1) - 1 : Nat) + (52 : Nat)).toNat + 1 := by omega
  simp only [UnpackedFloat.pack, Format.exponentBias, hofl, if_true]
  exact unpack_packedInfinity s

/-! ## Values and brackets -/

/-- The number a finite double stands for; NaN and the infinities are given zero. -/
def value : UnpackedFloat → ℚ
  | .finite s m e _ => (s.apply m : ℚ) * 2 ^ e
  | _ => 0

@[simp] theorem value_zero (s : Sign) : value (.zero s) = 0 := rfl

@[simp] theorem value_positive {m : Nat} {e : Int} {h : 0 < m} :
    value (.finite .positive m e h) = m * 2 ^ e := by
  simp [value, Sign.apply]

@[simp] theorem value_negative {m : Nat} {e : Int} {h : 0 < m} :
    value (.finite .negative m e h) = -(m * 2 ^ e) := by
  simp [value, Sign.apply]


/-- `m · 2 ^ e` lies between the powers of two of its leading bit and the next one. -/
theorem two_zpow_log2_le {m : Nat} (hm : 0 < m) (e : Int) :
    (2 : ℚ) ^ ((m.log2 : Int) + e) ≤ m * 2 ^ e := by
  have h : ((2 ^ m.log2 : Nat) : ℚ) ≤ m := by
    exact_mod_cast Nat.log2_self_le (Nat.pos_iff_ne_zero.1 hm)
  rw [zpow_add₀ two_ne_zero, zpow_natCast]
  push_cast at h
  exact mul_le_mul_of_nonneg_right h (zpow_pos two_pos e).le

theorem lt_two_zpow_log2 (m : Nat) (e : Int) :
    (m : ℚ) * 2 ^ e < 2 ^ ((m.log2 : Int) + 1 + e) := by
  have h : (m : ℚ) < ((2 ^ (m.log2 + 1) : Nat) : ℚ) := by exact_mod_cast Nat.lt_log2_self
  rw [zpow_add₀ two_ne_zero, show ((m.log2 : Int) + 1) = ((m.log2 + 1 : Nat) : Int) by push_cast; rfl,
    zpow_natCast]
  push_cast at h
  exact mul_lt_mul_of_pos_right h (zpow_pos two_pos e)

/-- `r` steps of `2 ^ t` bracket `x` as rounding to nearest does: they never
pass a multiple of the step at or above `x`, nor fall short of one at or
below it. -/
structure Brackets (x : ℚ) (r : Nat) (t : Int) : Prop where
  le_of_le : ∀ W : Nat, x ≤ W * 2 ^ t → r ≤ W
  le_of_ge : ∀ L : Nat, (L : ℚ) * 2 ^ t ≤ x → L ≤ r

theorem brackets_shiftRound (m n : Nat) (e : Int) :
    Brackets ((m : ℚ) * 2 ^ e) (shiftRound m n) (e + n) := by
  have hstep (K : Nat) : (K : ℚ) * 2 ^ (e + (n : Int)) = ((K * 2 ^ n : Nat) : ℚ) * 2 ^ e := by
    rw [zpow_add₀ two_ne_zero, zpow_natCast]
    push_cast
    ring
  have hpos : (0 : ℚ) < 2 ^ e := zpow_pos two_pos e
  constructor
  · intro W h
    rw [hstep] at h
    exact shiftRound_le (by exact_mod_cast le_of_mul_le_mul_right h hpos)
  · intro L h
    rw [hstep] at h
    exact le_shiftRound (by exact_mod_cast le_of_mul_le_mul_right h hpos)

/-- A rounding of `x` to `r` steps of the grid `t`: the steps bracket `x`, and
`x` lies below `2 ^ 53` steps, and at or above `2 ^ 52` of them unless the grid
is the least one. -/
structure RoundsTo (x : ℚ) (r : Nat) (t : Int) : Prop where
  brackets : Brackets x r t
  least_le : -1074 ≤ t
  lt_two_pow : x < ((2 ^ 53 : Nat) : ℚ) * 2 ^ t
  full : t ≠ -1074 → ((2 ^ 52 : Nat) : ℚ) * 2 ^ t ≤ x

theorem two_pow_mul_zpow (k : Nat) (t : Int) :
    ((2 ^ k : Nat) : ℚ) * 2 ^ t = 2 ^ ((k : Int) + t) := by
  rw [zpow_add₀ two_ne_zero, zpow_natCast]
  push_cast
  rfl

/-- The grid of `m · 2 ^ e` lies `52` places below its leading bit, or at the
least exponent. -/
theorem roundsTo_grid {m : Nat} (hm : 0 < m) {e : Int} {r : Nat}
    (hb : Brackets ((m : ℚ) * 2 ^ e) r (grid m e)) : RoundsTo ((m : ℚ) * 2 ^ e) r (grid m e) := by
  have hg := grid_eq m e
  refine ⟨hb, by omega, ?_, fun ht => ?_⟩
  · rw [two_pow_mul_zpow]
    calc (m : ℚ) * 2 ^ e < 2 ^ ((m.log2 : Int) + 1 + e) := lt_two_zpow_log2 m e
      _ ≤ 2 ^ ((53 : Nat) + grid m e) := zpow_le_zpow_right₀ one_le_two (by push_cast; omega)
  · rw [two_pow_mul_zpow]
    calc (2 : ℚ) ^ ((52 : Nat) + grid m e) ≤ 2 ^ ((m.log2 : Int) + e) :=
          zpow_le_zpow_right₀ one_le_two (by push_cast; omega)
      _ ≤ (m : ℚ) * 2 ^ e := two_zpow_log2_le hm e

/-- **Rounding a product.** A mantissa whose exponent is at or below its grid
rounds to a mantissa at the grid. -/
theorem roundWithAccuracy_roundsTo (s : Sign) {m : Nat} (hm : 0 < m) {e : Int} (he : e ≤ grid m e) :
    ∃ r, roundWithAccuracy .binary64 s m e .exact = atGrid s r (grid m e) ∧
      RoundsTo ((m : ℚ) * 2 ^ e) r (grid m e) := by
  refine ⟨_, roundWithAccuracy_exact s he, roundsTo_grid hm ?_⟩
  have hb := brackets_shiftRound m (grid m e - e).toNat e
  rwa [show e + ((grid m e - e).toNat : Int) = grid m e by omega] at hb

/-- **Rounding a sum.** Any mantissa rounds to a mantissa at its grid. -/
theorem round_roundsTo (s : Sign) {m : Nat} (hm : 0 < m) (e : Int) :
    ∃ r, UnpackedFloat.round .binary64 s m e = atGrid s r (grid m e) ∧
      RoundsTo ((m : ℚ) * 2 ^ e) r (grid m e) := by
  refine ⟨_, round_eq s hm e, roundsTo_grid hm ?_⟩
  have hb := brackets_shiftRound (m <<< (e - grid m e).toNat) (grid m e - e).toNat
    (e - (e - grid m e).toNat)
  have hx : ((m <<< (e - grid m e).toNat : Nat) : ℚ) * 2 ^ (e - ((e - grid m e).toNat : Int)) =
      (m : ℚ) * 2 ^ e := by
    rw [Nat.shiftLeft_eq, zpow_sub₀ two_ne_zero, zpow_natCast]
    push_cast
    field_simp
  rwa [hx, show e - ((e - grid m e).toNat : Int) + ((grid m e - e).toNat : Int) = grid m e by omega]
    at hb

/-- A multiple of `2 ^ k` is a whole number of steps of any grid `t ≤ k`. -/
theorem steps_of_le {t k : Int} (htk : t ≤ k) (b : Nat) :
    (b : ℚ) * 2 ^ k = ((b * 2 ^ (k - t).toNat : Nat) : ℚ) * 2 ^ t := by
  have hk : k = ((k - t).toNat : Int) + t := by omega
  conv_lhs => rw [hk]
  rw [zpow_add₀ two_ne_zero, zpow_natCast]
  push_cast
  ring

namespace RoundsTo

variable {x : ℚ} {r : Nat} {t : Int}

theorem le_two_pow (h : RoundsTo x r t) : r ≤ 2 ^ 53 :=
  h.brackets.le_of_le _ h.lt_two_pow.le

theorem two_pow_le (h : RoundsTo x r t) (ht : t ≠ -1074) : 2 ^ 52 ≤ r :=
  h.brackets.le_of_ge _ (h.full ht)

/-- A bound a double can hold, above the value, is above its rounding too. -/
theorem le_of_le (h : RoundsTo x r t) {b : Nat} {k : Int} (hb : b < 2 ^ 53) (hk : -1074 ≤ k)
    (hx : x ≤ b * 2 ^ k) : (r : ℚ) * 2 ^ t ≤ b * 2 ^ k := by
  -- the grid is at or below the bound's exponent, so the bound is a whole number of steps
  have htk : t ≤ k := by
    by_cases ht : t = -1074
    · omega
    · have hlt : (2 : ℚ) ^ ((52 : Nat) + t) < 2 ^ ((53 : Nat) + k) := by
        rw [← two_pow_mul_zpow, ← two_pow_mul_zpow]
        calc ((2 ^ 52 : Nat) : ℚ) * 2 ^ t ≤ x := h.full ht
          _ ≤ b * 2 ^ k := hx
          _ < ((2 ^ 53 : Nat) : ℚ) * 2 ^ k :=
            mul_lt_mul_of_pos_right (by exact_mod_cast hb) (zpow_pos two_pos k)
      have := (zpow_lt_zpow_iff_right₀ one_lt_two).1 hlt
      push_cast at this
      omega
  rw [steps_of_le htk] at hx ⊢
  exact mul_le_mul_of_nonneg_right (by exact_mod_cast h.brackets.le_of_le _ hx)
    (zpow_pos two_pos t).le

/-- A bound a double can hold, below the value, is below its rounding too. -/
theorem le_of_ge (h : RoundsTo x r t) {b : Nat} {k : Int} (hb : b < 2 ^ 53) (hk : -1074 ≤ k)
    (hx : b * 2 ^ k ≤ x) : (b : ℚ) * 2 ^ k ≤ r * 2 ^ t := by
  by_cases htk : t ≤ k
  · -- the bound is a whole number of steps
    rw [steps_of_le htk] at hx ⊢
    exact mul_le_mul_of_nonneg_right (by exact_mod_cast h.brackets.le_of_ge _ hx)
      (zpow_pos two_pos t).le
  · -- the grid is above the bound's exponent: the rounding has all 53 bits there
    have hfull := h.two_pow_le (by omega)
    calc (b : ℚ) * 2 ^ k ≤ ((2 ^ 53 : Nat) : ℚ) * 2 ^ k :=
          mul_le_mul_of_nonneg_right (by exact_mod_cast hb.le) (zpow_pos two_pos k).le
      _ = 2 ^ ((53 : Nat) + k) := two_pow_mul_zpow 53 k
      _ ≤ 2 ^ ((52 : Nat) + t) := zpow_le_zpow_right₀ one_le_two (by push_cast; omega)
      _ = ((2 ^ 52 : Nat) : ℚ) * 2 ^ t := (two_pow_mul_zpow 52 t).symm
      _ ≤ r * 2 ^ t := mul_le_mul_of_nonneg_right (by exact_mod_cast hfull) (zpow_pos two_pos t).le

end RoundsTo

/-! ## Rounded values as doubles -/

theorem unpack_modelPack (u : UnpackedFloat) :
    (Float.Model.pack u).unpack = UnpackedFloat.unpack .binary64 (UnpackedFloat.pack .binary64 u) := by
  unfold Float.Model.unpack Float.Model.pack
  rw [UInt64.toBitVec_ofBitVec]

theorem canonical_toModel (x : Float) : Canonical x.toModel.unpack :=
  canonical_unpack _

/-- A shaped mantissa `m` keeps its value below the next power of two past its
53 bits, and, unless its exponent is the least one, at or above its leading bit. -/
theorem Shaped.lt_value {m : Nat} {e : Int} (hs : Shaped m e) :
    (m : ℚ) * 2 ^ e < 2 ^ ((53 : Nat) + e) := by
  rw [← two_pow_mul_zpow]
  exact mul_lt_mul_of_pos_right (by exact_mod_cast hs.lt_two_pow) (zpow_pos two_pos e)

theorem Shaped.value_ge {m : Nat} {e : Int} (hs : Shaped m e) (he : e ≠ -1074) :
    (2 : ℚ) ^ ((52 : Nat) + e) ≤ m * 2 ^ e := by
  rw [← two_pow_mul_zpow]
  exact mul_le_mul_of_nonneg_right (by exact_mod_cast hs.full.resolve_right he)
    (zpow_pos two_pos e).le

/-- A shaped value at or below a bound a double can hold has an exponent at or
below the bound's, unless its exponent is the least one. -/
theorem Shaped.exponent_le {m b : Nat} {e k : Int} (hs : Shaped m e) (he : e ≠ -1074)
    (hb : b < 2 ^ 53) (hle : (m : ℚ) * 2 ^ e ≤ b * 2 ^ k) : e ≤ k := by
  have hlt : (2 : ℚ) ^ ((52 : Nat) + e) < 2 ^ ((53 : Nat) + k) := by
    calc (2 : ℚ) ^ ((52 : Nat) + e) ≤ m * 2 ^ e := hs.value_ge he
      _ ≤ b * 2 ^ k := hle
      _ < ((2 ^ 53 : Nat) : ℚ) * 2 ^ k :=
        mul_lt_mul_of_pos_right (by exact_mod_cast hb) (zpow_pos two_pos k)
      _ = 2 ^ ((53 : Nat) + k) := two_pow_mul_zpow 53 k
  have := (zpow_lt_zpow_iff_right₀ one_lt_two).1 hlt
  push_cast at this
  omega

theorem value_atGrid (s : Sign) {r : Nat} (hr : r ≤ 2 ^ 53) (t : Int) :
    value (atGrid s r t) = (s.apply r : ℚ) * 2 ^ t := by
  unfold atGrid
  split
  · rename_i h0
    subst h0
    cases s <;> simp [value, Sign.apply]
  · split
    · rfl
    · -- the carry: `2 ^ 52` steps one place up are `2 ^ 53` steps
      have hcarry : r = 2 ^ 53 := by omega
      subst hcarry
      have h : ((2 ^ 52 : Nat) : ℚ) * 2 ^ (t + 1) = ((2 ^ 53 : Nat) : ℚ) * 2 ^ t := by
        rw [zpow_add₀ two_ne_zero]
        push_cast
        ring
      cases s <;> simpa [value, Sign.apply] using h

/-- A rounding to a positive number of steps is a finite shaped double of the
same value. -/
theorem RoundsTo.atGrid_shaped {x : ℚ} {r : Nat} {t : Int} (h : RoundsTo x r t) (hr : 0 < r)
    (s : Sign) : ∃ m e hm, atGrid s r t = .finite s m e hm ∧ Shaped m e ∧
      (m : ℚ) * 2 ^ e = r * 2 ^ t := by
  unfold atGrid
  rw [dif_neg (by omega)]
  by_cases hsmall : r < 2 ^ 53
  · rw [if_pos hsmall]
    refine ⟨r, t, hr, rfl, ⟨hsmall, h.least_le, ?_⟩, rfl⟩
    by_cases ht : t = -1074
    · exact .inr ht
    · exact .inl (h.two_pow_le ht)
  · -- the carry into a 54th bit
    have hcarry : r = 2 ^ 53 := by have := h.le_two_pow; omega
    rw [if_neg hsmall]
    refine ⟨2 ^ 52, t + 1, Nat.two_pow_pos 52, rfl, ⟨by decide, by have := h.least_le; omega,
      .inl le_rfl⟩, ?_⟩
    rw [hcarry, zpow_add₀ two_ne_zero]
    push_cast
    ring

/-- A rounding at or below a bound a double can hold is a number. -/
theorem RoundsTo.isNum_atGrid {x : ℚ} {r : Nat} {t : Int} (h : RoundsTo x r t) (s : Sign)
    {b : Nat} {k : Int} (hb : b < 2 ^ 53) (hk : k ≤ 971) (hle : (r : ℚ) * 2 ^ t ≤ b * 2 ^ k) :
    IsNum (atGrid s r t) := by
  rcases Nat.eq_zero_or_pos r with hr | hr
  · subst hr
    exact .zero s
  · obtain ⟨m, e, hm, heq, hs, hval⟩ := h.atGrid_shaped hr s
    rw [heq]
    refine .finite hs ?_
    by_cases he : e = -1074
    · omega
    · have := hs.exponent_le he hb (hval ▸ hle)
      omega

/-- A rounding to a positive number of steps is packed on the side of its
sign: as a number, or past the largest double as the infinity of its sign. -/
theorem RoundsTo.side_pack_atGrid {x : ℚ} {r : Nat} {t : Int} (h : RoundsTo x r t) (hr : 0 < r)
    (s : Sign) : side (Float.Model.pack (atGrid s r t)).unpack = some (sideOf s) := by
  obtain ⟨m, e, hm, heq, hs, -⟩ := h.atGrid_shaped hr s
  rw [heq, unpack_modelPack]
  by_cases he : e ≤ 971
  · rw [unpack_pack_num (.finite hs he)]
    rfl
  · rw [unpack_pack_overflow s hm (by omega)]
    rfl

/-! ## Nonzero roundings and normalized sums -/

theorem two_zpow_grid_le {m : Nat} (hm : 0 < m) {e : Int} (he : -1074 ≤ e) :
    (2 : ℚ) ^ grid m e ≤ m * 2 ^ e := by
  rw [grid_eq]
  rcases max_cases ((m.log2 : Int) + e - 52) (-1074) with ⟨hmax, -⟩ | ⟨hmax, -⟩ <;> rw [hmax]
  · calc (2 : ℚ) ^ ((m.log2 : Int) + e - 52) ≤ 2 ^ ((m.log2 : Int) + e) :=
          zpow_le_zpow_right₀ one_le_two (by omega)
      _ ≤ m * 2 ^ e := two_zpow_log2_le hm e
  · calc (2 : ℚ) ^ (-1074 : Int) ≤ 2 ^ e := zpow_le_zpow_right₀ one_le_two he
      _ = 1 * 2 ^ e := (one_mul _).symm
      _ ≤ m * 2 ^ e := mul_le_mul_of_nonneg_right (by exact_mod_cast hm) (zpow_pos two_pos e).le

/-- Rounding a nonzero value at or above the least exponent, and packing it,
stays on the side of its sign. -/
theorem side_round (s : Sign) {m : Nat} (hm : 0 < m) {e : Int} (he : -1074 ≤ e) :
    side (Float.Model.pack (UnpackedFloat.round .binary64 s m e)).unpack = some (sideOf s) := by
  obtain ⟨r, hround, hr⟩ := round_roundsTo s hm e
  have hone : 1 ≤ r := hr.brackets.le_of_ge 1 (by simpa using two_zpow_grid_le hm he)
  rw [hround]
  exact hr.side_pack_atGrid hone s

theorem normalize_of_pos {D : Int} (hD : 0 < D) (e : Int) (z : Sign) :
    UnpackedFloat.normalize .binary64 D e z = UnpackedFloat.round .binary64 .positive D.toNat e := by
  unfold UnpackedFloat.normalize
  rw [compare_gt_iff_gt.2 hD]

theorem normalize_of_neg {D : Int} (hD : D < 0) (e : Int) (z : Sign) :
    UnpackedFloat.normalize .binary64 D e z = UnpackedFloat.round .binary64 .negative (-D).toNat e := by
  unfold UnpackedFloat.normalize
  rw [compare_lt_iff_lt.2 hD]

/-- A mantissa moved down to a smaller exponent keeps its value. -/
theorem value_decreaseExponent (s : Sign) (m : Nat) {e t : Int} (h : t ≤ e) :
    ((s.apply ((decreaseExponent m e t).1 : Int) : Int) : ℚ) * 2 ^ t = (s.apply m : ℚ) * 2 ^ e := by
  have he : e = ((e - t).toNat : Int) + t := by omega
  simp only [decreaseExponent, Nat.shiftLeft_eq]
  conv_rhs => rw [he]
  rw [zpow_add₀ two_ne_zero, zpow_natCast]
  cases s <;> simp [Sign.apply] <;> ring

theorem unpack_modelPack_num {u : UnpackedFloat} (hu : IsNum u) : (Float.Model.pack u).unpack = u := by
  rw [unpack_modelPack]
  exact unpack_pack_num hu

theorem side_pack_infinity (s : Sign) :
    side (Float.Model.pack (.infinity s)).unpack = some (sideOf s) := by
  rw [unpack_modelPack]
  rw [show UnpackedFloat.pack .binary64 (.infinity s) = packedInfinity .binary64 s from rfl,
    unpack_packedInfinity]
  rfl

end QuoteMomentum.Double
