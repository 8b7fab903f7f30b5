import Mathlib.Algebra.Order.Field.Rat
import Mathlib.Algebra.Order.BigOperators.Group.List
import Mathlib.Data.List.Forall2
import Mathlib.Tactic.FieldSimp
import Mathlib.Tactic.Linarith
import Mathlib.Tactic.Ring
import QuoteMomentum.Proofs.Aligned
import QuoteMomentum.Proofs.Causality

/-!
# An average follows the order of its values

Read exactly, a smoothing step of period `p ≥ 1` moves the average the
fraction `k = 2 / (p + 1)` of the way towards the new value, and `k` lies in
`(0, 1]`: the step is the convex combination `k · x + (1 - k) · prev`, monotone
in both. The seed, a mean, is monotone in its values too. So, by induction
along the scan, an average is monotone in its series: over two series of one
length, one below the other entry by entry, the averages are defined at the
same entries and one is below the other there (`Ema.values_compute_mono`).

A constant is a fixed point of both the mean and the step, so the average of
a constant series is that constant wherever it is defined
(`Ema.getElem?_values_compute_replicate`). An entry reads only the values up
to its index (`Ema.prefix_values_append`); comparing those values with the
constant series of their least and of their greatest value bounds the entry
by both (`Ema.values_compute_within`).

The laws are of exact arithmetic. With doubles the seed's sum is rounded:
the average of `[0.1, 0.1, 0.1]` over three is `0.10000000000000002`.
-/

namespace QuoteMomentum

/-- A list related entry by entry to a constant one of its length. -/
theorem forall₂_replicate_left {β γ : Type} {R : β → γ → Prop} {c : β} {l : List γ}
    (h : ∀ u ∈ l, R c u) : List.Forall₂ R (List.replicate l.length c) l := by
  rw [← List.map_const']
  exact List.forall₂_map_left_iff.mpr (List.forall₂_same.mpr h)

/-- Two lists related entry by entry are related at every index where both
have an entry. -/
theorem forall₂_rel_of_getElem? {β γ : Type} {R : β → γ → Prop} {l : List β} {l' : List γ}
    (h : List.Forall₂ R l l') {i : Nat} {a : β} {b : γ} (ha : l[i]? = some a) (hb : l'[i]? = some b) :
    R a b := by
  obtain ⟨hi, rfl⟩ := List.getElem?_eq_some_iff.mp ha
  obtain ⟨hi', rfl⟩ := List.getElem?_eq_some_iff.mp hb
  exact h.get hi hi'

namespace Ema

open Numeric

/-! ## The step -/

/-- The weight of a period, read exactly. -/
theorem weight_rat (p : Nat) : (weight p : ℚ) = 2 / (p + 1) := by
  show ((2 : Nat) : ℚ) / ((p + 1 : Nat) : ℚ) = 2 / (p + 1)
  push_cast
  rfl

/-- The weight of a period of at least one lies in `[0, 1]`. -/
theorem weight_mem {p : Nat} (hp : 1 ≤ p) : 0 ≤ (weight p : ℚ) ∧ (weight p : ℚ) ≤ 1 := by
  have hp' : (1 : ℚ) ≤ p := by exact_mod_cast hp
  have hpos : (0 : ℚ) < p + 1 := by linarith
  have hle : (2 : ℚ) ≤ p + 1 := by linarith
  rw [weight_rat]
  exact ⟨div_nonneg zero_le_two hpos.le, (div_le_one₀ hpos).mpr hle⟩

/-- A step is the convex combination of the new value and the average. -/
theorem step_eq (k e x : ℚ) : step k e x = k * x + (1 - k) * e := by
  show (x - e) * k + e = _
  ring

/-- With a weight in `[0, 1]`, a step is monotone in the average and in the
new value. -/
theorem step_mono {k : ℚ} (hk : 0 ≤ k ∧ k ≤ 1) {a b x y : ℚ} (hab : a ≤ b) (hxy : x ≤ y) :
    step k a x ≤ step k b y := by
  have hx : k * x ≤ k * y := mul_le_mul_of_nonneg_left hxy hk.1
  have ha : (1 - k) * a ≤ (1 - k) * b := mul_le_mul_of_nonneg_left hab (sub_nonneg.mpr hk.2)
  rw [step_eq, step_eq]
  exact add_le_add hx ha

/-- A step from a value towards itself stays there. -/
theorem step_self (k c : ℚ) : step k c c = c := by
  rw [step_eq]
  ring

/-! ## The seed -/

/-- Summed exactly, from zero left to right, a list of rationals gives its sum. -/
theorem total_eq_sum (l : List ℚ) : total l = l.sum := by
  rw [List.sum_eq_foldl]
  rfl

theorem total_mono {l l' : List ℚ} (h : List.Forall₂ (· ≤ ·) l l') : total l ≤ total l' := by
  rw [total_eq_sum, total_eq_sum]
  exact h.sum_le_sum

/-- The seed is monotone in the series. -/
theorem seed_mono {xs ys : List ℚ} (h : List.Forall₂ (· ≤ ·) xs ys) (p : Nat) : seed xs p ≤ seed ys p :=
  div_le_div_of_nonneg_right (total_mono (List.forall₂_take p h)) (Nat.cast_nonneg p)

theorem total_replicate (n : Nat) (c : ℚ) : total (List.replicate n c) = n * c := by
  rw [total_eq_sum, List.sum_replicate, nsmul_eq_mul]

/-- The seed of a constant series is the constant. -/
theorem seed_replicate {p n : Nat} (hp : 1 ≤ p) (hn : p ≤ n) (c : ℚ) : seed (List.replicate n c) p = c := by
  have hp' : (p : ℚ) ≠ 0 := Nat.cast_ne_zero.mpr (by omega)
  rw [seed, List.take_replicate, Nat.min_eq_left hn, total_replicate]
  show (p : ℚ) * c / (p : ℚ) = c
  field_simp

/-! ## The scan -/

/-- The scan of a monotone step is monotone in its start and its values. -/
theorem scanl_step_mono {k : ℚ} (hk : 0 ≤ k ∧ k ≤ 1) {l l' : List ℚ} (h : List.Forall₂ (· ≤ ·) l l') :
    ∀ {a b : ℚ}, a ≤ b → List.Forall₂ (· ≤ ·) (List.scanl (step k) a l) (List.scanl (step k) b l') := by
  induction h with
  | nil => exact fun hab => .cons hab .nil
  | cons hxy _ ih =>
    intro _ _ hab
    rw [List.scanl_cons, List.scanl_cons]
    exact .cons hab (ih (step_mono hk hab hxy))

/-- The scan along a constant, started at it, stays at it. -/
theorem scanl_step_replicate (k c : ℚ) (m : Nat) :
    List.scanl (step k) c (List.replicate m c) = List.replicate (m + 1) c := by
  induction m with
  | zero => rfl
  | succ m ih =>
    rw [List.replicate_succ, List.scanl_cons, step_self, ih]
    rfl

theorem matured_mono {xs ys : List ℚ} (h : List.Forall₂ (· ≤ ·) xs ys) {p : Nat} (hp : 1 ≤ p) :
    List.Forall₂ (· ≤ ·) (matured xs p) (matured ys p) :=
  scanl_step_mono (weight_mem hp) (List.forall₂_drop p h) (seed_mono h p)

theorem matured_replicate {p n : Nat} (hp : 1 ≤ p) (hn : p ≤ n) (c : ℚ) :
    matured (List.replicate n c) p = List.replicate (n - p + 1) c := by
  rw [matured, seed_replicate hp hn, List.drop_replicate, scanl_step_replicate]

/-! ## The aligned series -/

/-- **An average is monotone in its series.** Over two series of one length,
one below the other entry by entry, the averages are defined at the same
entries, and one is below the other there. -/
theorem values_compute_mono {xs ys : List ℚ} (h : List.Forall₂ (· ≤ ·) xs ys) (p : Int) :
    List.Forall₂ (Option.Rel (· ≤ ·)) (compute xs p).values (compute ys p).values := by
  have hlen : ys.length = xs.length := h.length_eq.symm
  have hnone (n : Nat) :
      List.Forall₂ (Option.Rel (· ≤ ·)) (List.replicate n (none : Option ℚ)) (List.replicate n none) :=
    List.forall₂_same.mpr fun e he => by
      rw [List.eq_of_mem_replicate he]
      exact .none
  cases hf : fits p xs.length with
  | true =>
    have hf' : fits p ys.length = true := by rwa [hlen]
    have hp := ((fits_iff p xs.length).mp hf).1
    rw [values_compute hf, values_compute hf']
    refine List.rel_append (hnone _) ?_
    rw [List.forall₂_map_left_iff, List.forall₂_map_right_iff]
    exact (matured_mono h (by omega)).imp fun _ _ hab => .some hab
  | false =>
    have hf' : fits p ys.length = false := by rwa [hlen]
    rw [values_compute_of_not_fits hf, values_compute_of_not_fits hf', hlen]
    exact hnone _

/-- An entry is defined only when the period fits, and only from the seed on. -/
theorem fits_of_getElem?_values_compute {xs : List ℚ} {p : Int} {i : Nat} {v : ℚ}
    (h : (compute xs p).values[i]? = some (some v)) : fits p xs.length = true ∧ p.toNat - 1 ≤ i := by
  cases hf : fits p xs.length with
  | false =>
    rw [values_compute_of_not_fits hf, List.getElem?_replicate] at h
    split at h <;> cases h
  | true =>
    refine ⟨rfl, Nat.le_of_not_lt fun hi => ?_⟩
    rw [getElem?_values_compute_of_lt hf hi] at h
    cases h

/-- The average of a constant series is the constant from the seed on. -/
theorem getElem?_values_compute_replicate {n : Nat} {p : Int} (hf : fits p n = true) {i : Nat}
    (hi : p.toNat - 1 ≤ i) (hin : i < n) (c : ℚ) :
    (compute (List.replicate n c) p).values[i]? = some (some c) := by
  have hp := (fits_iff p n).mp hf
  have hf' : fits p (List.replicate n c).length = true := by rwa [List.length_replicate]
  have hj : i = p.toNat - 1 + (i - (p.toNat - 1)) := by omega
  rw [hj, getElem?_values_compute hf', matured_replicate (by omega) (by simp; omega),
    List.getElem?_replicate_of_lt (by omega), Option.map_some]

/-- An entry reads only the values up to its index. -/
theorem getElem?_values_compute_take {xs : List ℚ} {p : Int} {i : Nat} {v : ℚ}
    (h : (compute xs p).values[i]? = some (some v)) : (compute (xs.take (i + 1)) p).values[i]? = some (some v) := by
  obtain ⟨hf, hi⟩ := fits_of_getElem?_values_compute h
  have hp := (fits_iff p xs.length).mp hf
  have hin : i < xs.length := by
    have := (List.getElem?_eq_some_iff.mp h).1
    rwa [length_compute] at this
  have htake : (xs.take (i + 1)).length = i + 1 := List.length_take_of_le (by omega)
  have hpre := prefix_values_append hp.1 (by omega : p ≤ ((xs.take (i + 1)).length : Int)) (xs.drop (i + 1))
  rw [List.take_append_drop] at hpre
  have hlt : i < (compute (xs.take (i + 1)) p).values.length := by
    rw [length_compute, htake]
    omega
  rw [List.getElem?_eq_getElem hlt, ← List.prefix_iff_getElem?.mp hpre i hlt, h]

/-- Two series compared entry by entry compare their averages at each entry. -/
theorem le_of_getElem?_values_compute {xs ys : List ℚ} (h : List.Forall₂ (· ≤ ·) xs ys) {p : Int}
    {i : Nat} {a b : ℚ} (ha : (compute xs p).values[i]? = some (some a))
    (hb : (compute ys p).values[i]? = some (some b)) : a ≤ b := by
  cases forall₂_rel_of_getElem? (values_compute_mono h p) ha hb with
  | some hab => exact hab

/-- **An average stays within what it has read.** Each defined entry lies
between the least and the greatest value up to its index. -/
theorem values_compute_within {xs : List ℚ} {p : Int} {i : Nat} {v : ℚ}
    (h : (compute xs p).values[i]? = some (some v)) {lo hi : ℚ}
    (hlo : ∀ u ∈ xs.take (i + 1), lo ≤ u) (hhi : ∀ u ∈ xs.take (i + 1), u ≤ hi) : lo ≤ v ∧ v ≤ hi := by
  -- the entry is the same over the values it reads, and there it is compared
  -- with the averages of two constant series of the same length
  have ht := getElem?_values_compute_take h
  obtain ⟨hf, hseed⟩ := fits_of_getElem?_values_compute ht
  have hin : i < (xs.take (i + 1)).length := by
    have := (List.getElem?_eq_some_iff.mp ht).1
    rwa [length_compute] at this
  exact ⟨le_of_getElem?_values_compute (forall₂_replicate_left hlo)
      (getElem?_values_compute_replicate hf hseed hin lo) ht,
    le_of_getElem?_values_compute (forall₂_replicate_left hhi).flip ht
      (getElem?_values_compute_replicate hf hseed hin hi)⟩

/-- **Order and range of an average**, read exactly. An average is monotone in
its series; each defined entry lies between the least and the greatest value
up to its index; so the average of a constant series is that constant. -/
theorem average_monotone_within_range :
    (∀ (p : Int) (xs ys : List ℚ), List.Forall₂ (· ≤ ·) xs ys →
        List.Forall₂ (Option.Rel (· ≤ ·)) (compute xs p).values (compute ys p).values) ∧
      (∀ (p : Int) (xs : List ℚ) (i : Nat) (v lo hi : ℚ), (compute xs p).values[i]? = some (some v) →
        (xs.take (i + 1)).min? = some lo → (xs.take (i + 1)).max? = some hi → lo ≤ v ∧ v ≤ hi) ∧
      ∀ (p : Int) (n : Nat) (c : ℚ) (i : Nat) (v : ℚ),
        (compute (List.replicate n c) p).values[i]? = some (some v) → v = c := by
  refine ⟨fun p xs ys h => values_compute_mono h p, fun p xs i v lo hi h hlo hhi => ?_,
    fun p n c i v h => ?_⟩
  · exact values_compute_within h (fun u hu => (List.min?_eq_some_iff.mp hlo).2 u hu)
      (fun u hu => (List.max?_eq_some_iff.mp hhi).2 u hu)
  · have hc : ∀ u ∈ (List.replicate n c).take (i + 1), u = c := fun u hu =>
      List.eq_of_mem_replicate (List.mem_of_mem_take hu)
    have hbounds := values_compute_within h (fun u hu => (hc u hu).ge) (fun u hu => (hc u hu).le)
    exact le_antisymm hbounds.2 hbounds.1

/-- The series `[1, 3, 2]` lies below `[2, 3, 4]`, so its average of period two
does too; its last entry, `2`, lies between the least value `1` and the
greatest `3`. -/
theorem three_values_within :
    (List.Forall₂ (· ≤ ·) [(1 : ℚ), 3, 2] [2, 3, 4] ∧
        List.Forall₂ (Option.Rel (· ≤ ·)) (compute [(1 : ℚ), 3, 2] 2).values
          (compute [(2 : ℚ), 3, 4] 2).values) ∧
      (compute [(1 : ℚ), 3, 2] 2).values[2]? = some (some 2) ∧ (1 : ℚ) ≤ 2 ∧ (2 : ℚ) ≤ 3 :=
  have hle : List.Forall₂ (· ≤ ·) [(1 : ℚ), 3, 2] [2, 3, 4] := by decide
  have hlast : (compute [(1 : ℚ), 3, 2] 2).values[2]? = some (some 2) := by decide +kernel
  ⟨⟨hle, average_monotone_within_range.1 2 _ _ hle⟩, hlast,
    average_monotone_within_range.2.1 2 _ 2 2 1 3 hlast (by decide +kernel) (by decide +kernel)⟩

end Ema

end QuoteMomentum
