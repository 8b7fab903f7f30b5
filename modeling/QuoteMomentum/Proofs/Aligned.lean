import QuoteMomentum.Proofs.Reading

/-!
# Where an average is defined, and what it holds there

An EMA keeps the indices of its source. Over `n` values and a whole period `p`
it has `n` entries. When `1 ≤ p ≤ n` the first `p - 1` entries are undefined,
entry `p - 1` is the seed, the mean of the first `p` values summed from zero,
and each later entry `i` is one smoothing step from entry `i - 1` towards value
`i`, with the weight `2 / (p + 1)`. For any other period every entry is
undefined. So the average is defined at its last entry exactly when
`1 ≤ p ≤ n`, and its defined values are then its entries from the seed on
(`Ema.Aligned`).

The layout is read off the scan `Ema.matured`: the seed is its first value,
and each value of a scan is one step from the one before it.

A period is a whole number, and a boolean is not one: any other value is
refused as a bad value before anything is computed (`Ema.ofPeriod_aligned`).
-/

namespace QuoteMomentum.Ema

open Numeric

variable {α : Type} [Numeric α]

/-- What an average of period `p` over `xs` holds, index by index. -/
structure Aligned (xs : List α) (p : Int) (s : Series α) : Prop where
  /-- One entry per value. -/
  length : s.values.length = xs.length
  /-- A period out of range leaves every entry undefined. -/
  undefined : ¬ (1 ≤ p ∧ p ≤ xs.length) → s.values = List.replicate xs.length none
  /-- Nothing is defined before the seed. -/
  before_seed : 1 ≤ p → p ≤ xs.length → ∀ i : Nat, (i : Int) < p - 1 → s.values[i]? = some none
  /-- The seed: the mean of the first `p` values, summed from zero. -/
  seed : 1 ≤ p → p ≤ xs.length →
    s.values[(p - 1).toNat]? = some (some (total (xs.take p.toNat) / ofNat p.toNat))
  /-- Each later entry is one step from the entry before it towards its value. -/
  step : ∀ (i : Nat) (hi : i < xs.length), 1 ≤ p → p ≤ i →
    ∃ v, s.values[i - 1]? = some (some v) ∧
      s.values[i]? = some (some ((xs[i] - v) * (ofNat 2 / ofNat (p.toNat + 1)) + v))
  /-- Defined at the last entry exactly when the period fits. -/
  isDefined : s.isDefined = true ↔ 1 ≤ p ∧ p ≤ xs.length
  /-- The defined values are the entries from the seed on, `n - p + 1` of them. -/
  defined : 1 ≤ p → p ≤ xs.length →
    s.defined.map some = s.values.drop (p - 1).toNat ∧ s.defined.length = xs.length + 1 - p.toNat
  /-- An average that never matured has no defined values. -/
  defined_nil : ¬ (1 ≤ p ∧ p ≤ xs.length) → s.defined = []
  /-- The last entry, none over no values. -/
  last : s.last = s.values[xs.length - 1]?.join

/-! ## The matured scan -/

/-- The scan starts at the seed. -/
theorem getElem?_matured_zero (xs : List α) (p : Nat) : (matured xs p)[0]? = some (seed xs p) := by
  rw [matured, List.getElem?_scanl_zero]

/-- Each later value of the scan is one step from the one before it, towards
the value `p + j` of the source. -/
theorem getElem?_matured_succ {xs : List α} {p j : Nat} (hj : p + j < xs.length) :
    ∃ v, (matured xs p)[j]? = some v ∧ (matured xs p)[j + 1]? = some (step (weight p) v xs[p + j]) := by
  have hlen : j < (matured xs p).length := by
    rw [length_matured]
    omega
  obtain ⟨v, hv⟩ : ∃ v, (matured xs p)[j]? = some v := ⟨_, List.getElem?_eq_getElem hlen⟩
  have hdrop : (xs.drop p)[j]? = some xs[p + j] := by
    rw [List.getElem?_drop, List.getElem?_eq_getElem hj]
  have hsucc : (matured xs p)[j + 1]? =
      (matured xs p)[j]?.bind fun e => (xs.drop p)[j]?.map fun x => step (weight p) e x :=
    List.getElem?_succ_scanl
  refine ⟨v, hv, ?_⟩
  rw [hsucc, hv, Option.bind_some, hdrop, Option.map_some]

/-! ## The aligned series -/

/-- A period out of range leaves every entry undefined. -/
theorem values_compute_of_not_fits {xs : List α} {p : Int} (h : fits p xs.length = false) :
    (compute xs p).values = List.replicate xs.length none := by
  simp [compute, h]

/-- Before the seed, an average that fits is undefined. -/
theorem getElem?_values_compute_of_lt {xs : List α} {p : Int} (h : fits p xs.length = true) {i : Nat}
    (hi : i < p.toNat - 1) : (compute xs p).values[i]? = some none := by
  rw [values_compute h, List.getElem?_append_left (by simpa using hi), List.getElem?_replicate_of_lt hi]

/-- The entry at index `p - 1` is the seed. -/
theorem getElem?_values_compute_seed {xs : List α} {p : Int} (h : fits p xs.length = true) :
    (compute xs p).values[p.toNat - 1]? = some (some (seed xs p.toNat)) := by
  rw [← Nat.add_zero (p.toNat - 1), getElem?_values_compute h, getElem?_matured_zero, Option.map_some]

/-- From index `p` on, each entry is one step from the entry before it. -/
theorem getElem?_values_compute_step {xs : List α} {p : Int} (h : fits p xs.length = true) {i : Nat}
    (hi : i < xs.length) (hpi : p ≤ i) :
    ∃ v, (compute xs p).values[i - 1]? = some (some v) ∧
      (compute xs p).values[i]? = some (some (step (weight p.toNat) v xs[i])) := by
  have hp := ((fits_iff p xs.length).mp h).1
  -- index `i` is the scan's value `j + 1`, with `j = i - p`
  obtain ⟨v, hv, hstep⟩ := getElem?_matured_succ (show p.toNat + (i - p.toNat) < xs.length by omega)
  have hprev : i - 1 = p.toNat - 1 + (i - p.toNat) := by omega
  have hcur : i = p.toNat - 1 + (i - p.toNat + 1) := by omega
  have hidx : p.toNat + (i - p.toNat) = i := by omega
  refine ⟨v, by rw [hprev, getElem?_values_compute h, hv, Option.map_some], ?_⟩
  have hval := getElem?_values_compute h (i - p.toNat + 1)
  rw [← hcur, hstep, Option.map_some] at hval
  simpa only [hidx] using hval

/-- An average is defined at its last entry exactly when its period fits. -/
theorem isDefined_compute_iff (xs : List α) (p : Int) :
    (compute xs p).isDefined = true ↔ 1 ≤ p ∧ p ≤ xs.length := by
  rw [← fits_iff]
  cases h : fits p xs.length with
  | true => exact iff_of_true (isDefined_compute h) rfl
  | false => rw [isDefined_compute_of_not_fits h]

/-- The entries from the seed on are the defined values. -/
theorem drop_values_compute {xs : List α} {p : Int} (h : fits p xs.length = true) :
    (compute xs p).values.drop (p - 1).toNat = (compute xs p).defined.map some := by
  have hlen : (List.replicate (p.toNat - 1) (none : Option α)).length = (p - 1).toNat := by
    rw [List.length_replicate]
    omega
  rw [defined_compute h, values_compute h, List.drop_left' hlen]

/-- An average that never matured has no defined values. -/
theorem defined_compute_of_not_fits {xs : List α} {p : Int} (h : fits p xs.length = false) :
    (compute xs p).defined = [] := by
  rw [Series.defined, if_neg (by rw [isDefined_compute_of_not_fits h]; decide)]

/-- The last entry of an average is its entry at the last index. -/
theorem last_compute (xs : List α) (p : Int) :
    (compute xs p).last = (compute xs p).values[xs.length - 1]?.join := by
  rw [Series.last, List.getLast?_eq_getElem?, length_compute]
  rfl

theorem fits_eq_false {p : Int} {n : Nat} (h : ¬ (1 ≤ p ∧ p ≤ n)) : fits p n = false :=
  Bool.eq_false_iff.mpr fun hf => h ((fits_iff p n).mp hf)

/-- An average of a whole period is laid out as `Ema.Aligned` says. -/
theorem compute_aligned (xs : List α) (p : Int) : Aligned xs p (compute xs p) where
  length := length_compute xs p
  undefined hp := values_compute_of_not_fits (fits_eq_false hp)
  before_seed hp hn _ hi := getElem?_values_compute_of_lt ((fits_iff p _).mpr ⟨hp, hn⟩) (by omega)
  seed hp hn := by
    rw [show (p - 1).toNat = p.toNat - 1 by omega]
    exact getElem?_values_compute_seed ((fits_iff p _).mpr ⟨hp, hn⟩)
  step _ hi hp hpi := getElem?_values_compute_step ((fits_iff p _).mpr ⟨hp, by omega⟩) hi hpi
  isDefined := isDefined_compute_iff xs p
  defined hp hn := by
    have h := (fits_iff p _).mpr ⟨hp, hn⟩
    refine ⟨(drop_values_compute h).symm, ?_⟩
    rw [defined_compute h, length_matured]
    omega
  defined_nil hp := defined_compute_of_not_fits (fits_eq_false hp)
  last := last_compute xs p

/-! ## Periods as values -/

/-- Only a whole number is a period: any other value, a boolean among them, is
refused as a bad value. -/
theorem ofPeriod_of_not_int {xs : List α} {v : Value} (hv : ∀ p : Int, v ≠ .int p) :
    ofPeriod xs v = .error (.periodNotWhole v) := by
  cases v with
  | int p => exact absurd rfl (hv p)
  | _ => rfl

/-- **The layout of an average.** Computing an average refuses, as a bad value,
exactly the periods that are not whole numbers; for a whole period `p` it
computes `Ema.compute`, laid out as `Ema.Aligned` says: undefined throughout
unless `1 ≤ p ≤ n`, and otherwise undefined before index `p - 1`, the seed
there, and one smoothing step per index after it. -/
theorem ofPeriod_aligned (xs : List α) (v : Value) :
    ((∃ f, ofPeriod xs v = .error f) ↔ ∀ p : Int, v ≠ .int p) ∧
      (∀ f, ofPeriod xs v = .error f → f.family = .badValue) ∧
      ∀ p : Int, v = .int p → ofPeriod xs v = .ok (compute xs p) ∧ Aligned xs p (compute xs p) := by
  refine ⟨⟨?_, fun hv => ⟨_, ofPeriod_of_not_int hv⟩⟩, fun f hf => ?_, fun p hv => ?_⟩
  · rintro ⟨f, hf⟩ p rfl
    cases hf
  · -- the only fault is the one naming the period
    cases v with
    | int p => cases hf
    | _ =>
      cases hf
      rfl
  · subst hv
    exact ⟨rfl, compute_aligned xs p⟩

/-- Over three doubles, a period of two is accepted and laid out as described. -/
theorem period_two_aligned :
    ofPeriod [1.0, 2.0, 4.0] (.int 2) = .ok (compute [(1.0 : Float), 2.0, 4.0] 2) ∧
      Aligned [(1.0 : Float), 2.0, 4.0] 2 (compute [(1.0 : Float), 2.0, 4.0] 2) :=
  (ofPeriod_aligned [(1.0 : Float), 2.0, 4.0] (.int 2)).2.2 2 rfl

end QuoteMomentum.Ema
