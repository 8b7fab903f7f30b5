import QuoteMomentum.Proofs.Macd

/-!
# What a reading reads off the MACD line

The MACD line of `n` closes starts at the slow seed, index `slow - 1`, and has
`n - slow + 1` values: the `j`-th is the fast average minus the slow one at
index `slow - 1 + j`, and both are defined there, since the fast average is
seeded no later than the slow one (`Macd.lineLayout`). Over fewer than `slow`
closes the line is empty.

A full reading over `slow + signal + 1` closes or more takes the last two
values of the line and the last two of its signal average, all of them
defined, and its second length test never fires; over fewer closes it is the
reading of too few closes. A percent reading needs one close fewer. With whole
periods the indicator is built and neither reading fails
(`Macd.readings_read_line_ends`).

Where the full reading is valid the two agree on the percents, to the bit:
the percent reading divides the same two values by the same reference close,
and both report the percents as meaningless, and zero, exactly when that close
compares equal to zero (`Macd.percents_agree_with_lastTwo`).
-/

namespace QuoteMomentum

/-- A list whose reverse starts with `a` ends with `a`. -/
theorem getLast?_of_reverse {β : Type} {l : List β} {a b : β} {rest : List β}
    (h : l.reverse = a :: b :: rest) : l.getLast? = some a := by
  rw [← List.head?_reverse, h, List.head?_cons]

namespace Ema

open Numeric

variable {α : Type} [Numeric α]

/-- From the seed on, an average that fits its series reads its matured scan. -/
theorem getElem?_values_compute {xs : List α} {p : Int} (h : fits p xs.length = true) (i : Nat) :
    (compute xs p).values[p.toNat - 1 + i]? = (matured xs p.toNat)[i]?.map some := by
  rw [values_compute h, List.getElem?_append_right (by simp), List.length_replicate,
    Nat.add_sub_cancel_left, List.getElem?_map]

/-- An average that does not fit its series is undefined at its last index. -/
theorem isDefined_compute_of_not_fits {xs : List α} {p : Int} (h : fits p xs.length = false) :
    (compute xs p).isDefined = false := by
  unfold Series.isDefined
  simp only [compute, h, Bool.false_eq_true, if_false, List.getLast?_replicate]
  split <;> simp_all

end Ema

namespace Macd

open Numeric

variable {α : Type} [Numeric α]

/-! ## The line -/

/-- Over at least `slow` closes the line subtracts the slow scan from the fast
one, shifted by the distance between the two seeds. -/
theorem line_eq_zipWith {p : Periods} {xs : List α} (hf : 1 ≤ p.fast) (hfs : p.fast ≤ p.slow)
    (hn : p.slow ≤ xs.length) :
    line p xs = List.zipWith (· - ·) ((Ema.matured xs p.fast.toNat).drop (p.slow - p.fast).toNat)
      (Ema.matured xs p.slow.toNat) := by
  have hfast : Ema.fits p.fast xs.length = true := (Ema.fits_iff _ _).mpr ⟨hf, by omega⟩
  have hslow : Ema.fits p.slow xs.length = true := (Ema.fits_iff _ _).mpr ⟨by omega, hn⟩
  simp only [line, Ema.isDefined_compute hslow, if_true, Ema.defined_compute hfast,
    Ema.defined_compute hslow]

theorem line_of_lt {p : Periods} {xs : List α} (hn : (xs.length : Int) < p.slow) : line p xs = [] := by
  have hslow : Ema.fits p.slow xs.length = false := by
    simp only [Ema.fits, Bool.and_eq_false_iff, decide_eq_false_iff_not]
    omega
  simp only [line, Ema.isDefined_compute_of_not_fits hslow, Bool.false_eq_true, if_false]

/-- The `j`-th value of the line is the fast average minus the slow one at
index `slow - 1 + j`, both defined there. -/
theorem getElem?_line {p : Periods} {xs : List α} (hf : 1 ≤ p.fast) (hfs : p.fast ≤ p.slow)
    (hn : p.slow ≤ xs.length) {j : Nat} (hj : j < (line p xs).length) :
    ∃ a b, (Ema.compute xs p.fast).values[(p.slow - 1).toNat + j]? = some (some a) ∧
      (Ema.compute xs p.slow).values[(p.slow - 1).toNat + j]? = some (some b) ∧
      (line p xs)[j]? = some (a - b) := by
  have hfast : Ema.fits p.fast xs.length = true := (Ema.fits_iff _ _).mpr ⟨hf, by omega⟩
  have hslow : Ema.fits p.slow xs.length = true := (Ema.fits_iff _ _).mpr ⟨by omega, hn⟩
  rw [line_eq_zipWith hf hfs hn] at hj ⊢
  simp only [List.length_zipWith, List.length_drop, Ema.length_matured] at hj
  -- the fast scan starts `slow - fast` indices before the slow one
  have hja : (p.slow - p.fast).toNat + j < (Ema.matured xs p.fast.toNat).length := by
    rw [Ema.length_matured]
    omega
  have hjb : j < (Ema.matured xs p.slow.toNat).length := by
    rw [Ema.length_matured]
    omega
  refine ⟨(Ema.matured xs p.fast.toNat)[(p.slow - p.fast).toNat + j],
    (Ema.matured xs p.slow.toNat)[j], ?_, ?_, ?_⟩
  · have hidx : (p.slow - 1).toNat + j = p.fast.toNat - 1 + ((p.slow - p.fast).toNat + j) := by omega
    rw [hidx, Ema.getElem?_values_compute hfast, List.getElem?_eq_getElem hja]
    rfl
  · have hidx : (p.slow - 1).toNat + j = p.slow.toNat - 1 + j := by omega
    rw [hidx, Ema.getElem?_values_compute hslow, List.getElem?_eq_getElem hjb]
    rfl
  · rw [List.getElem?_zipWith, List.getElem?_drop, List.getElem?_eq_getElem hja,
      List.getElem?_eq_getElem hjb]

/-- `m` lays out the MACD line of `xs`: one value for each index from the slow
seed on, each the fast average minus the slow one at that index, where both
are defined. -/
structure LineLayout (p : Periods) (xs m : List α) : Prop where
  length_eq : (m.length : Int) = xs.length - p.slow + 1
  entry : ∀ j < m.length, ∃ a b,
    (Ema.compute xs p.fast).values[(p.slow - 1).toNat + j]? = some (some a) ∧
      (Ema.compute xs p.slow).values[(p.slow - 1).toNat + j]? = some (some b) ∧ m[j]? = some (a - b)

theorem lineLayout {p : Periods} {xs : List α} (hf : 1 ≤ p.fast) (hfs : p.fast ≤ p.slow)
    (hn : p.slow ≤ xs.length) : LineLayout p xs (line p xs) :=
  ⟨length_line hf hfs hn, fun _ hj => getElem?_line hf hfs hn hj⟩

/-! ## Full readings -/

/-- The reading of a line whose last two values and last two signal values
are known: the crossovers are between the two pairs, the percents are of the
reference close unless it is zero. -/
theorem readingOf_eq {p : Periods} {xs : List α} {lastClose : Option α} {m : List α}
    {ml mp sl sp : α} {mrest : List α} {srest : List (Option α)}
    (hm : m.reverse = ml :: mp :: mrest)
    (hs : (Ema.compute m p.signal).values.reverse = some sl :: some sp :: srest) :
    readingOf p xs lastClose m =
      { macdLast := ml, macdPrev := mp, signalLast := sl, signalPrev := sp,
        macdPercent :=
          if isZero (reference xs lastClose) then zero else ml / reference xs lastClose * ofNat 100,
        signalPercent :=
          if isZero (reference xs lastClose) then zero else sl / reference xs lastClose * ofNat 100,
        percentValid := !isZero (reference xs lastClose),
        bullish := (crossovers mp sp ml sl).1, bearish := (crossovers mp sp ml sl).2,
        valid := true } := by
  unfold readingOf
  rw [hm, hs]
  dsimp only
  unfold percentOf
  by_cases hz : isZero (reference xs lastClose) = true
  · simp only [hz, if_true, Bool.not_true]
  · simp only [hz, Bool.false_eq_true, if_false, Bool.not_false]

theorem lastTwo_of_short {p : Periods} {xs : List α} (hn : (xs.length : Int) < p.slow + p.signal + 1)
    (lastClose : Option α) : lastTwo p xs lastClose = .insufficient := by
  simp [lastTwo, hn]

/-- Over `slow + signal + 1` closes both length tests pass: the reading is read
off the line. -/
theorem lastTwo_of_long {p : Periods} {xs : List α} (hf : 1 ≤ p.fast) (hfs : p.fast ≤ p.slow)
    (hg : 1 ≤ p.signal) (hn : p.slow + p.signal + 1 ≤ xs.length) (lastClose : Option α) :
    lastTwo p xs lastClose = readingOf p xs lastClose (line p xs) := by
  have hline : ((line p xs).length : Int) = xs.length - p.slow + 1 := length_line hf hfs (by omega)
  have hshort : ¬(xs.length : Int) < p.slow + p.signal + 1 := by omega
  have hlong : ¬((line p xs).length : Int) < p.signal + 1 := by omega
  simp only [lastTwo, hshort, hlong, if_false]

/-- Over `slow + signal + 1` closes, the line and its signal average both end
with two defined values. -/
theorem line_pairs {p : Periods} {xs : List α} (hf : 1 ≤ p.fast) (hfs : p.fast ≤ p.slow)
    (hg : 1 ≤ p.signal) (hn : p.slow + p.signal + 1 ≤ xs.length) :
    (∃ ml mp mrest, (line p xs).reverse = ml :: mp :: mrest) ∧
      ∃ sl sp srest,
        (Ema.compute (line p xs) p.signal).values.reverse = some sl :: some sp :: srest := by
  have hline : ((line p xs).length : Int) = xs.length - p.slow + 1 := length_line hf hfs (by omega)
  exact ⟨reverse_eq_cons_cons (by omega), Ema.reverse_values_compute hg (by omega)⟩

/-- A reading of the MACD line `m`: its MACD values are the last two of the
line, its signal values the last two of the line's signal average, all of
them defined. -/
structure Reading.OfLine (p : Periods) (m : List α) (r : Reading α) : Prop where
  macd : ∃ rest, m.reverse = r.macdLast :: r.macdPrev :: rest
  signal : ∃ rest,
    (Ema.compute m p.signal).values.reverse = some r.signalLast :: some r.signalPrev :: rest

theorem ofLine_lastTwo {p : Periods} {xs : List α} (hf : 1 ≤ p.fast) (hfs : p.fast ≤ p.slow)
    (hg : 1 ≤ p.signal) (hn : p.slow + p.signal + 1 ≤ xs.length) (lastClose : Option α) :
    (lastTwo p xs lastClose).OfLine p (line p xs) := by
  obtain ⟨⟨ml, mp, mrest, hm⟩, ⟨sl, sp, srest, hs⟩⟩ := line_pairs hf hfs hg hn
  rw [lastTwo_of_long hf hfs hg hn, readingOf_eq hm hs]
  exact ⟨⟨mrest, hm⟩, ⟨srest, hs⟩⟩

/-! ## Percent readings -/

theorem percents_of_short {p : Periods} {xs : List α} (hn : (xs.length : Int) < p.slow + p.signal)
    (lastClose : Option α) : percents p xs lastClose = .insufficient := by
  simp [percents, hn]

/-- Over `slow + signal` closes both length tests of a percent reading pass. -/
theorem percents_of_long {p : Periods} {xs : List α} (hf : 1 ≤ p.fast) (hfs : p.fast ≤ p.slow)
    (hg : 1 ≤ p.signal) (hn : p.slow + p.signal ≤ xs.length) (lastClose : Option α) :
    percents p xs lastClose =
      let sl := ((Ema.compute (line p xs) p.signal).last).getD zero
      let ref := reference xs lastClose
      if isZero ref then ⟨zero, zero, false, true⟩
      else ⟨(line p xs).getLast?.getD zero / ref * ofNat 100, sl / ref * ofNat 100, true, true⟩ := by
  have hline : ((line p xs).length : Int) = xs.length - p.slow + 1 := length_line hf hfs (by omega)
  have hshort : ¬(xs.length : Int) < p.slow + p.signal := by omega
  have hlong : ¬((line p xs).length : Int) < p.signal := by omega
  simp only [percents, hshort, hlong, if_false]

/-- A percent reading is valid exactly over `slow + signal` closes: one fewer
than a full reading needs. -/
theorem valid_percents_iff {p : Periods} (hf : 1 ≤ p.fast) (hfs : p.fast ≤ p.slow) (hg : 1 ≤ p.signal)
    (xs : List α) (lastClose : Option α) :
    (percents p xs lastClose).valid = true ↔ p.slow + p.signal ≤ xs.length := by
  by_cases hn : p.slow + p.signal ≤ (xs.length : Int)
  · rw [percents_of_long hf hfs hg hn]
    dsimp only
    split <;> simp [hn]
  · rw [percents_of_short (by omega)]
    simp [Percents.insufficient, hn]

/-! ## Indicators of whole periods -/

namespace Config

variable {f s g : Int}

/-- Whole periods of at least one, fast below slow, build an indicator that
keeps them. -/
theorem make_int (hf : 1 ≤ f) (hfs : f < s) (hg : 1 ≤ g) :
    Config.make (.int f) (.int s) (.int g) = .ok ⟨.int f, .int s, .int g⟩ := by
  have hs : ¬s < 1 := by omega
  have hsf : ¬s ≤ f := by omega
  simp [Config.make, Value.test_int_lt, Value.test_int_ge, hs, hsf, Int.not_lt.mpr hf,
    Int.not_lt.mpr hg, bind, Except.bind, pure, Except.pure]

theorem percents_of_periods {c : Config} {p : Periods} (hp : c.periods? = some p) (xs : List α)
    (lastClose : Option α) : c.percents xs lastClose = .ok (Macd.percents p xs lastClose) := by
  simp [Config.percents, hp]

end Config

/-- **What a reading reads.** With whole periods `1 ≤ fast < slow` and
`1 ≤ signal`: the MACD line is empty over fewer than `slow` closes and
otherwise laid out from the slow seed on, both averages defined wherever they
are subtracted; the indicator is built and neither reading fails; a full
reading is valid exactly over `slow + signal + 1` closes, and then its second
length test passes and it takes the last two values of the line and of the
signal average, else it is the reading of too few closes; a percent reading is
valid exactly over `slow + signal` closes. -/
theorem readings_read_line_ends {p : Periods} (hf : 1 ≤ p.fast) (hfs : p.fast < p.slow)
    (hg : 1 ≤ p.signal) (xs : List α) (lastClose : Option α) :
    ((xs.length : Int) < p.slow → line p xs = []) ∧
    (p.slow ≤ xs.length → LineLayout p xs (line p xs)) ∧
    (∃ c, Config.make (.int p.fast) (.int p.slow) (.int p.signal) = .ok c ∧
      c.lastTwo xs lastClose = .ok (lastTwo p xs lastClose) ∧
      c.percents xs lastClose = .ok (percents p xs lastClose)) ∧
    ((lastTwo p xs lastClose).valid = true ↔ p.slow + p.signal + 1 ≤ xs.length) ∧
    (p.slow + p.signal + 1 ≤ xs.length →
      p.signal + 1 ≤ ((line p xs).length : Int) ∧ (lastTwo p xs lastClose).OfLine p (line p xs)) ∧
    ((xs.length : Int) < p.slow + p.signal + 1 → lastTwo p xs lastClose = .insufficient) ∧
    ((percents p xs lastClose).valid = true ↔ p.slow + p.signal ≤ xs.length) := by
  have hfs' : p.fast ≤ p.slow := Int.le_of_lt hfs
  have hperiods : (Config.mk (.int p.fast) (.int p.slow) (.int p.signal)).periods? = some p := rfl
  have hunreached : p.slow + p.signal + 1 ≤ xs.length → p.signal + 1 ≤ ((line p xs).length : Int) := by
    intro hn
    have hline : ((line p xs).length : Int) = xs.length - p.slow + 1 := length_line hf hfs' (by omega)
    omega
  refine ⟨line_of_lt, lineLayout hf hfs',
    ⟨_, Config.make_int hf hfs hg, Config.lastTwo_of_periods hperiods xs lastClose,
      Config.percents_of_periods hperiods xs lastClose⟩,
    valid_lastTwo_iff hf hfs' hg xs lastClose,
    fun hn => ⟨hunreached hn, ofLine_lastTwo hf hfs' hg hn lastClose⟩,
    fun hn => lastTwo_of_short hn lastClose, valid_percents_iff hf hfs' hg xs lastClose⟩

/-- The standard periods 12, 26 and 9 over forty closes. -/
theorem standard_readings_read_line_ends :
    let p : Periods := ⟨12, 26, 9⟩
    let xs : List Float := (List.range 40).map Float.ofNat
    ((xs.length : Int) < p.slow → line p xs = []) ∧
    (p.slow ≤ xs.length → LineLayout p xs (line p xs)) ∧
    (∃ c, Config.make (.int p.fast) (.int p.slow) (.int p.signal) = .ok c ∧
      c.lastTwo xs none = .ok (lastTwo p xs none) ∧ c.percents xs none = .ok (percents p xs none)) ∧
    ((lastTwo p xs none).valid = true ↔ p.slow + p.signal + 1 ≤ xs.length) ∧
    (p.slow + p.signal + 1 ≤ xs.length →
      p.signal + 1 ≤ ((line p xs).length : Int) ∧ (lastTwo p xs none).OfLine p (line p xs)) ∧
    ((xs.length : Int) < p.slow + p.signal + 1 → lastTwo p xs none = .insufficient) ∧
    ((percents p xs none).valid = true ↔ p.slow + p.signal ≤ xs.length) :=
  readings_read_line_ends (p := ⟨12, 26, 9⟩) (by decide) (by decide) (by decide) _ none

/-- **Percents agree.** Over `slow + signal + 1` closes, with periods
`1 ≤ fast < slow` and `1 ≤ signal`, the percent reading is valid and has the
percents and the percent flag of the full reading, whatever the last close;
both flag the percents as meaningless, and report them as zero, exactly when
the reference close compares equal to zero. -/
theorem percents_agree_with_lastTwo {p : Periods} (hf : 1 ≤ p.fast) (hfs : p.fast < p.slow)
    (hg : 1 ≤ p.signal) {xs : List α} (hn : p.slow + p.signal + 1 ≤ xs.length) (lastClose : Option α) :
    (percents p xs lastClose).valid = true ∧
    (percents p xs lastClose).macdPercent = (lastTwo p xs lastClose).macdPercent ∧
    (percents p xs lastClose).signalPercent = (lastTwo p xs lastClose).signalPercent ∧
    (percents p xs lastClose).percentValid = (lastTwo p xs lastClose).percentValid ∧
    ((lastTwo p xs lastClose).percentValid = false ↔ isZero (reference xs lastClose) = true) ∧
    (isZero (reference xs lastClose) = true →
      (lastTwo p xs lastClose).macdPercent = zero ∧ (lastTwo p xs lastClose).signalPercent = zero) := by
  have hfs' : p.fast ≤ p.slow := Int.le_of_lt hfs
  obtain ⟨⟨ml, mp, mrest, hm⟩, ⟨sl, sp, srest, hs⟩⟩ := line_pairs hf hfs' hg hn
  -- the percent reading reads the same two values through `getLast?` and `last`
  have hml : (line p xs).getLast? = some ml := getLast?_of_reverse hm
  have hsl : (Ema.compute (line p xs) p.signal).last = some sl := by
    rw [Ema.Series.last, getLast?_of_reverse hs]
    rfl
  rw [lastTwo_of_long hf hfs' hg hn, readingOf_eq hm hs, percents_of_long hf hfs' hg (by omega)]
  simp only [hml, hsl, Option.getD_some]
  by_cases hz : isZero (reference xs lastClose) = true
  · simp [hz]
  · simp [hz]

/-- The standard periods over forty closes whose last close is zero. -/
theorem standard_percents_agree :
    let p : Periods := ⟨12, 26, 9⟩
    let xs : List Float := (List.range 40).reverse.map Float.ofNat
    (percents p xs none).valid = true ∧
    (percents p xs none).macdPercent = (lastTwo p xs none).macdPercent ∧
    (percents p xs none).signalPercent = (lastTwo p xs none).signalPercent ∧
    (percents p xs none).percentValid = (lastTwo p xs none).percentValid ∧
    ((lastTwo p xs none).percentValid = false ↔ Numeric.isZero (reference xs none) = true) ∧
    (Numeric.isZero (reference xs none) = true →
      (lastTwo p xs none).macdPercent = Numeric.zero ∧
        (lastTwo p xs none).signalPercent = Numeric.zero) :=
  percents_agree_with_lastTwo (p := ⟨12, 26, 9⟩) (by decide) (by decide) (by decide) (by simp) none

end Macd

end QuoteMomentum
