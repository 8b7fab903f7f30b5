import QuoteMomentum.Indicator.Numeric
import QuoteMomentum.Value.Number

/-!
# Exponential moving averages

The EMA of a series over a period `p` gives weight `k = 2 / (p + 1)` to each
new value: `ema ← (x - ema) · k + ema`. It is seeded with the plain mean of
the first `p` values, summed from zero left to right, placed at index `p - 1`;
before the seed the average is undefined. A period below one or beyond the
length of the series leaves every index undefined.

The series keeps the source's indices, so an EMA of period `p` over `n` values
has `n` entries of which the last `n - p + 1` are defined. Main definitions:
`Ema.matured` (the defined part, a scan) and `Ema.compute` (the aligned
series); `Ema.ofPeriod` accepts a period only when it is a whole number.
-/

namespace QuoteMomentum.Ema

open Numeric

variable {α : Type} [Numeric α]

/-- The weight of the newest value in a `p`-period average, `2 / (p + 1)`. -/
def weight (p : Nat) : α := ofNat 2 / ofNat (p + 1)

/-- One smoothing step from the previous average towards the value `x`. -/
def step (k : α) (prev x : α) : α := (x - prev) * k + prev

/-- The seed: the mean of the first `p` values. -/
def seed (xs : List α) (p : Nat) : α := total (xs.take p) / ofNat p

/-- The defined part of the average, from the seed at index `p - 1` on. -/
def matured (xs : List α) (p : Nat) : List α :=
  (xs.drop p).scanl (step (weight p)) (seed xs p)

/-- An EMA aligned index for index with its source: `none` where undefined. -/
structure Series (α : Type) where
  period : Int
  values : List (Option α)

/-- Whether the period leaves the average defined over a series of length `n`. -/
def fits (p : Int) (n : Nat) : Bool := decide (1 ≤ p) && decide (p ≤ n)

/-- The EMA of `xs` over period `p`. -/
def compute (xs : List α) (p : Int) : Series α :=
  if fits p xs.length then
    ⟨p, List.replicate (p.toNat - 1) none ++ (matured xs p.toNat).map some⟩
  else ⟨p, List.replicate xs.length none⟩

namespace Series

/-- The index of the seed, `period - 1`, also when it is out of range. -/
def seedIndex (s : Series α) : Int := s.period - 1

/-- Whether the source was long enough for a seed: the last entry is defined. -/
def isDefined (s : Series α) : Bool :=
  match s.values.getLast? with
  | some (some _) => true
  | _ => false

/-- The defined values, from the seed on; none when the average never matured. -/
def defined (s : Series α) : List α :=
  if s.isDefined then (s.values.drop s.seedIndex.toNat).filterMap id else []

/-- The last entry, none for an empty source. -/
def last (s : Series α) : Option α := s.values.getLast?.bind id

end Series

/-- The EMA over a period given as a value: only a whole number is a period, a
boolean is not. -/
def ofPeriod (xs : List α) (p : Value) : Except Fault (Series α) :=
  match p with
  | .int n => .ok (compute xs n)
  | _ => .error (.periodNotWhole p)

theorem length_matured (xs : List α) (p : Nat) :
    (matured xs p).length = xs.length - p + 1 := by
  simp [matured]

theorem length_compute (xs : List α) (p : Int) : (compute xs p).values.length = xs.length := by
  unfold compute fits
  split
  · rename_i h
    simp at h
    simp [length_matured]
    omega
  · simp

end QuoteMomentum.Ema
