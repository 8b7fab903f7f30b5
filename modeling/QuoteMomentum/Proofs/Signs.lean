import Mathlib
import QuoteMomentum.Value.Number
import QuoteMomentum.Decimal.Compare

/-!
# Which side of zero a double lies on

Every operation on doubles works on the unpacked value (NaN, a signed
infinity, a signed zero, or a sign with a mantissa and an exponent), rounds
the exact result and packs it into 64 bits. Rounding keeps the sign: it may
carry a number down to a zero, or up to the infinity of its sign, but never
across zero (`Double.Rounds`). A product by a positive number therefore lies
on the side of zero its other factor lies on, or on zero itself
(`Double.rounds_mul_positive`).

The parts a double is printed and compared by (`Decimal.Kind`) are read off
its bits directly; `Decimal.ofFloat_eq_kindOf` reads them off the unpacked
value instead, so that what is known of the side carries over to them: a
double with no whole part is NaN or an infinity, and the whole part of a
double not below zero is not negative (`Num.doubleToWhole_nonneg`).
-/

open Float.Model Float.Model.UnpackedFloat

namespace QuoteMomentum

namespace Double

/-! ## Sides -/

/-- The side of zero a sign stands for. -/
def sideOf : Sign → Ordering
  | .positive => .gt
  | .negative => .lt

/-- The side of zero an unpacked double lies on: nothing for NaN, `eq` for
both zeros. -/
def side : UnpackedFloat → Option Ordering
  | .notANumber => none
  | .zero _ => some .eq
  | .infinity s => some (sideOf s)
  | .finite s .. => some (sideOf s)

/-- What rounding may do to a side: keep it, or, for a number, bring it to
zero. -/
def Rounds (a b : Option Ordering) : Prop :=
  b = a ∨ (a.isSome ∧ b = some .eq)

theorem Rounds.refl (a : Option Ordering) : Rounds a a := .inl rfl

theorem Rounds.trans {a b c : Option Ordering} (hab : Rounds a b) (hbc : Rounds b c) :
    Rounds a c := by
  rcases hab with rfl | ⟨ha, rfl⟩
  · exact hbc
  · rcases hbc with rfl | ⟨-, rfl⟩ <;> exact .inr ⟨ha, rfl⟩

/-- A side that rounds from a side of a number stays a number's. -/
theorem Rounds.isSome {a b : Option Ordering} (h : Rounds a b) : b.isSome = a.isSome := by
  rcases h with rfl | ⟨ha, rfl⟩
  · rfl
  · exact ha.symm

/-- Rounding keeps a side at most zero at most zero. -/
theorem Rounds.le_zero {a b : Option Ordering} (h : Rounds a b) (ha : a = some .lt ∨ a = some .eq) :
    b = some .lt ∨ b = some .eq := by
  rcases h with rfl | ⟨-, rfl⟩
  · exact ha
  · exact .inr rfl

/-- Rounding never brings a side below zero. -/
theorem Rounds.ne_lt {a b : Option Ordering} (h : Rounds a b) (ha : a ≠ some .lt) : b ≠ some .lt := by
  rcases h with rfl | ⟨-, rfl⟩
  · exact ha
  · simp

theorem Rounds.of_sign {s : Sign} {b : Option Ordering}
    (h : b = some .eq ∨ b = some (sideOf s)) : Rounds (some (sideOf s)) b := by
  rcases h with h | h
  · exact .inr ⟨rfl, h⟩
  · exact .inl h

/-! ## Rounding and products -/

/-- Rounding a signed mantissa gives a zero or a number of that sign. -/
theorem side_roundWithAccuracy (spec : Format) (s : Sign) (m : Nat) (e : Int) (acc : Accuracy) :
    side (roundWithAccuracy spec s m e acc) = some .eq ∨
      side (roundWithAccuracy spec s m e acc) = some (sideOf s) := by
  simp only [roundWithAccuracy]
  split
  · exact .inl rfl
  · exact .inr rfl

@[simp] theorem positive_mul (s : Sign) : Sign.positive * s = s := by
  cases s <;> rfl

/-- A product by a positive number lies on the side of the other factor, or
on zero. -/
theorem rounds_mul_positive (spec : Format) (m : Nat) (e : Int) (hm : 0 < m) (u : UnpackedFloat) :
    Rounds (side u) (side (mul spec (.finite .positive m e hm) u)) := by
  cases u with
  | notANumber => exact .refl _
  | infinity s =>
    show Rounds _ (side (.infinity (Sign.positive * s)))
    rw [positive_mul]
    exact .refl _
  | zero s => exact .refl _
  | finite s m' e' hm' =>
    show Rounds _ (side (roundWithAccuracy spec (Sign.positive * s) _ _ _))
    rw [positive_mul]
    exact Rounds.of_sign (side_roundWithAccuracy _ _ _ _ _)

/-! ## Packing -/

/-- Bits whose exponent field is not all ones unpack to a zero or a number of
their sign bit's sign. -/
theorem side_unpack_packComponents (s : Sign) (ev : BitVec Format.binary64.exponentBits)
    (mv : BitVec Format.binary64.mantissaBitsWithoutImplicit) (hev : ev ≠ -1#_) :
    side (UnpackedFloat.unpack Format.binary64 (packComponents Format.binary64 s ev mv)) = some .eq ∨
      side (UnpackedFloat.unpack Format.binary64 (packComponents Format.binary64 s ev mv)) =
        some (sideOf s) := by
  unfold UnpackedFloat.unpack
  simp only [unpackExponent_packComponents, unpackMantissa_packComponents, unpackSign_packComponents,
    Sign.ofBitVec_toBitVec, hev, if_false]
  split
  · split
    · exact .inl rfl
    · exact .inr rfl
  · exact .inr rfl

/-- Packing a value and reading it back keeps its side, or brings a number
to zero. -/
theorem rounds_unpack_pack (u : UnpackedFloat) : Rounds (side u) (side (Float.Model.pack u).unpack) := by
  unfold Float.Model.pack Float.Model.unpack
  rw [UInt64.toBitVec_ofBitVec]
  cases u with
  | notANumber =>
    rw [UnpackedFloat.pack, unpack_packedNaN]
    exact .refl _
  | infinity s => cases s <;> exact .refl _
  | zero s =>
    rw [UnpackedFloat.pack, unpack_packedZero]
    exact .refl _
  | finite s m e hm =>
    unfold UnpackedFloat.pack
    dsimp only
    split
    · -- too large: the infinity of its sign
      cases s <;> exact .refl _
    · rename_i hbig
      split
      · -- normal: the biased exponent stays below all ones
        refine Rounds.of_sign (side_unpack_packComponents _ _ _ ?_)
        intro hh
        have hbits := congrArg BitVec.toNat hh
        simp only [BitVec.neg_one_eq_allOnes, BitVec.toNat_allOnes, BitVec.toNat_ofNat] at hbits
        rw [Nat.mod_eq_of_lt (by omega)] at hbits
        omega
      · -- subnormal: the exponent field is zero
        exact Rounds.of_sign (side_unpack_packComponents _ _ _ (by decide))

/-! ## Doubles -/

/-- A double is at most zero exactly when it lies below zero or on it. -/
theorem le_zero_iff (x : Float) :
    x ≤ 0.0 ↔ side x.toModel.unpack = some .lt ∨ side x.toModel.unpack = some .eq := by
  have h0 : (0.0 : Float).toModel.unpack = .zero .positive := by rfl
  show decide (Float.Model.le x.toModel (0.0 : Float).toModel = true) = true ↔ _
  rw [decide_eq_true_iff]
  unfold Float.Model.le UnpackedFloat.le
  rw [h0]
  cases x.toModel.unpack with
  | notANumber => simp [UnpackedFloat.compare, side]
  | infinity s => cases s <;> simp [UnpackedFloat.compare, side, sideOf]
  | zero s => simp [UnpackedFloat.compare, side]
  | finite s => cases s <;> simp [UnpackedFloat.compare, side, sideOf]

/-- The product of a positive number `c` and a double lies on the side of the
double, or on zero. -/
theorem rounds_mul {c : Float} {m : Nat} {e : Int} {hm : 0 < m}
    (hc : c.toModel.unpack = .finite .positive m e hm) (x : Float) :
    Rounds (side x.toModel.unpack) (side (c * x).toModel.unpack) := by
  show Rounds _ (side (Float.Model.pack (mul Format.binary64 c.toModel.unpack x.toModel.unpack)).unpack)
  rw [hc]
  exact (rounds_mul_positive _ m e hm _).trans (rounds_unpack_pack _)

end Double

namespace Decimal

open Double

/-! ## The parts of a double, read off its unpacked value -/

/-- Whether a sign is the negative one. -/
def isNegative : Sign → Bool
  | .negative => true
  | .positive => false

/-- The parts of an unpacked double as `Kind.ofFloat` reads them off the bits. -/
def kindOf : UnpackedFloat → Kind
  | .notANumber => .nan
  | .infinity s => .inf (isNegative s)
  | .zero s => .finite ⟨isNegative s, 0, -1074, false⟩
  | .finite s m e _ => .finite ⟨isNegative s, m, e, m == Nat.pow 2 52 && decide (-1074 < e)⟩

theorem toNat_unpackExponent (b : BitVec Format.binary64.numBits) :
    (unpackExponent b).toNat = b.toNat / Nat.pow 2 52 % 2048 := by
  rw [unpackExponent_def, BitVec.extractLsb'_toNat]
  simp [Nat.shiftRight_eq_div_pow]

theorem toNat_unpackMantissa (b : BitVec Format.binary64.numBits) :
    (unpackMantissa b).toNat = b.toNat % Nat.pow 2 52 := by
  rw [unpackMantissa_def, BitVec.extractLsb'_toNat]
  simp

theorem isNegative_unpackSign (b : BitVec Format.binary64.numBits) :
    isNegative (Sign.ofBitVec (unpackSign b)) = (b.toNat / Nat.pow 2 63 % 2 == 1) := by
  have h : (unpackSign b).toNat = b.toNat / Nat.pow 2 63 % 2 := by
    rw [unpackSign_def, BitVec.extractLsb'_toNat]
    simp [Nat.shiftRight_eq_div_pow]
  unfold Sign.ofBitVec
  by_cases h0 : unpackSign b = 0#1
  · rw [h0, BitVec.toNat_zero] at h
    simp [h0, isNegative, ← h]
  · have h1 : (unpackSign b).toNat ≠ 0 := fun hz => h0 (BitVec.eq_of_toNat_eq (by simpa using hz))
    have h2 : (unpackSign b).toNat < 2 := (unpackSign b).isLt
    have h3 : b.toNat / Nat.pow 2 63 % 2 = 1 := by omega
    simp [h0, isNegative, h3]

/-- The fields of the bits are those of the unpacked value: the sign bit, the
biased exponent and the fraction, with the hidden bit of a normal number. -/
theorem kindOf_unpack (b : BitVec Format.binary64.numBits) :
    kindOf (UnpackedFloat.unpack Format.binary64 b) =
      let bits := b.toNat
      let neg := bits / Nat.pow 2 63 % 2 == 1
      let biased : Nat := bits / Nat.pow 2 52 % 2048
      let frac : Nat := bits % Nat.pow 2 52
      if biased = 2047 then
        if frac = 0 then .inf neg else .nan
      else if biased = 0 then
        .finite ⟨neg, frac, -1074, false⟩
      else
        .finite ⟨neg, frac + Nat.pow 2 52, (biased : Int) - 1075, frac == 0 && 1 < biased⟩ := by
  have he := toNat_unpackExponent b
  have hm := toNat_unpackMantissa b
  have hs := isNegative_unpackSign b
  unfold UnpackedFloat.unpack
  dsimp only
  rw [← he, ← hm, ← hs]
  by_cases h1 : unpackExponent b = -1#_
  · -- all ones: an infinity or NaN
    by_cases h2 : unpackMantissa b = 0#_
    · simp [h1, h2, kindOf]
    · have h2' : (unpackMantissa b).toNat ≠ 0 := fun hz => h2 (BitVec.eq_of_toNat_eq (by simpa using hz))
      simp [h1, h2, h2', kindOf]
  · have h1' : (unpackExponent b).toNat ≠ 2047 := fun h => h1 (BitVec.eq_of_toNat_eq (by simpa using h))
    by_cases h3 : unpackExponent b = 0#_
    · -- zero exponent field: a zero or a subnormal
      by_cases h2 : unpackMantissa b = 0#_
      · simp [h2, h3, kindOf]
      · simp [h2, h3, kindOf, Format.exponentBias]
    · -- a normal number, with its hidden bit
      have h3' : (unpackExponent b).toNat ≠ 0 := fun hz => h3 (BitVec.eq_of_toNat_eq (by simpa using hz))
      have hnorm : (1#1 ++ unpackMantissa b).toNat = (unpackMantissa b).toNat + Nat.pow 2 52 := by
        rw [BitVec.toNat_append, ← Nat.shiftLeft_add_eq_or_of_lt (unpackMantissa b).isLt]
        simp [Nat.shiftLeft_eq]
        omega
      simp only [h1, h3, if_false, kindOf, hnorm, h1', h3', Format.exponentBias]
      have hedge : ((unpackMantissa b).toNat + Nat.pow 2 52 == Nat.pow 2 52) =
          ((unpackMantissa b).toNat == 0) := by
        simp
      have hbias : ((2 ^ (11 - 1) - 1 : Nat) : Int) + (52 : Nat) = 1075 := by norm_num
      simp only [hedge, Kind.finite.injEq, Binary.mk.injEq, true_and, hbias]
      have hgt : decide (-1074 < ((unpackExponent b).toNat : Int) - 1075) =
          decide (1 < (unpackExponent b).toNat) :=
        decide_eq_decide.2 (by omega)
      rw [hgt]

/-- The parts of a double are those of its unpacked value. -/
theorem ofFloat_eq_kindOf (x : Float) : Kind.ofFloat x = kindOf x.toModel.unpack := by
  rw [Float.Model.unpack, kindOf_unpack]
  rfl

theorem ofFloat_eq_nan_iff (x : Float) : Kind.ofFloat x = .nan ↔ side x.toModel.unpack = none := by
  rw [ofFloat_eq_kindOf]
  cases x.toModel.unpack <;> simp [kindOf, side]

/-- An infinity lies on the side of its sign. -/
theorem side_of_ofFloat_eq_inf {x : Float} {neg : Bool} (h : Kind.ofFloat x = .inf neg) :
    side x.toModel.unpack = some (if neg then .lt else .gt) := by
  rw [ofFloat_eq_kindOf] at h
  cases hu : x.toModel.unpack with
  | infinity s =>
    rw [hu] at h
    cases s <;> cases h <;> rfl
  | notANumber | zero | finite => rw [hu] at h; cases h

/-- A finite double not below zero has a value that is not negative. -/
theorem num_nonneg {x : Float} {b : Binary} (h : Kind.ofFloat x = .finite b)
    (hside : side x.toModel.unpack ≠ some .lt) : 0 ≤ b.num := by
  rw [ofFloat_eq_kindOf] at h
  cases hu : x.toModel.unpack with
  | zero s =>
    rw [hu] at h
    cases h
    simp [Binary.num]
  | finite s m e hm =>
    rw [hu] at h hside
    cases s with
    | negative => exact absurd rfl hside
    | positive =>
      cases h
      simp [Binary.num, isNegative]
  | notANumber | infinity => rw [hu] at h; cases h

end Decimal

namespace Num

open Double Decimal

/-- A double has a whole part exactly when it is neither NaN nor infinite. -/
theorem doubleToWhole_error_iff (x : Float) :
    (∃ f, doubleToWhole x = .error f) ↔ Kind.ofFloat x = .nan ∨ ∃ neg, Kind.ofFloat x = .inf neg := by
  unfold doubleToWhole
  cases Kind.ofFloat x with
  | nan => simp
  | inf neg => simp
  | finite b => simp

/-- The whole part of a double not below zero is not negative. -/
theorem doubleToWhole_nonneg {x : Float} {n : Int} (h : doubleToWhole x = .ok n)
    (hside : side x.toModel.unpack ≠ some .lt) : 0 ≤ n := by
  unfold doubleToWhole at h
  cases hk : Kind.ofFloat x with
  | nan => rw [hk] at h; cases h
  | inf neg => rw [hk] at h; cases h
  | finite b =>
    rw [hk] at h
    cases h
    exact Int.tdiv_nonneg (num_nonneg hk hside) (by show (0 : Int) ≤ 2 ^ b.shift; positivity)

end Num

end QuoteMomentum
