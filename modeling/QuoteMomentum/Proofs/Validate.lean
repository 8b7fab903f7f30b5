import Mathlib.Algebra.Group.Int.Defs
import Mathlib.Algebra.Group.Nat.Defs
import QuoteMomentum.Monitor.Poll
import QuoteMomentum.Settings.Validate
import QuoteMomentum.Proofs.History

/-!
# What checked settings guarantee

`Settings.validate` runs its checks in a fixed order and stops at the first
that fails; settings it accepts passed every one. `Settings.Accepted` names
the checks, one field each, and `Settings.accepted_of_validate` reads them off
an accepted run. A check is a comparison of values, and a comparison that did
not fail was between two numbers: what the checks guarantee is stated in those
terms, so a field that passes is still only a number (a boolean, a whole
number or a double), not necessarily a whole one.

From the checks, a monitor for the settings is made without a fault when its
session bound is a whole number, its feed settings make a client and its
periods can be reported (`Monitor.make_of_accepted`); whole periods can be
reported when the slow and the signal period have at most `Text.maxDigits`
digits (`Monitor.periodsText_of_accepted`).
-/

namespace QuoteMomentum

/-! ## Reading a run of checks -/

namespace Except

variable {ε α : Type}

/-- A check of the form `if ← t then throw f` that let the run go on found its
condition false. -/
theorem ok_of_guard {t : Except ε Bool} {f : ε} {k : Unit → Except ε α} {u : α}
    (h : (t >>= fun v => if v = true then throw f >>= k else k ()) = .ok u) :
    t = .ok false ∧ k () = .ok u := by
  cases t with
  | error e => cases h
  | ok v =>
    cases v with
    | true => cases h
    | false => exact ⟨rfl, h⟩

/-- A check of the form `unless c do throw f` that let the run go on found its
condition true. -/
theorem ok_of_unless {c : Bool} {f : ε} {k : Unit → Except ε α} {u : α}
    (h : (if c = true then k () else throw f >>= k) = .ok u) : c = true ∧ k () = .ok u := by
  cases c with
  | true => exact ⟨rfl, h⟩
  | false => cases h

theorem ok_bind {β : Type} (b : β) (k : β → Except ε α) : (Except.ok b >>= k) = k b := rfl

theorem ok_of_bind {β : Type} {x : Except ε β} {k : β → Except ε α} {u : α} (h : (x >>= k) = .ok u) :
    ∃ b, x = .ok b ∧ k b = .ok u := by
  cases x with
  | error e => cases h
  | ok b => exact ⟨b, rfl, h⟩

/-- A computation whose value is `a` returned `a`. -/
theorem eq_ok_of_toOption {β : Type} {x : Except ε β} {a : β} (h : x.toOption = some a) : x = .ok a := by
  cases x with
  | error e => cases h
  | ok b =>
    cases h
    rfl

/-- A computation that evaluation finds returning returned. -/
theorem exists_ok_of_isOk {x : Except ε α} (h : x.isOk = true) : ∃ a, x = .ok a := by
  cases x with
  | error e => simp [Except.isOk, Except.toBool] at h
  | ok a => exact ⟨a, rfl⟩

/-- A run of checks that evaluation finds passing passed. -/
theorem eq_ok_of_isOk {x : Except ε Unit} (h : x.isOk = true) : x = .ok () := by
  obtain ⟨u, hu⟩ := exists_ok_of_isOk h
  exact hu

end Except

/-- Whether a run fails with a fault of the given family and message, as a
caller sees it. -/
def Fault.failsWith {α : Type} (x : Except Fault α) (fam : Family) (msg : String) : Bool :=
  match x with
  | .error f => f.family == fam && f.message == msg
  | .ok _ => false

theorem Fault.exists_of_failsWith {α : Type} {x : Except Fault α} {fam : Family} {msg : String}
    (h : Fault.failsWith x fam msg = true) : ∃ f, x = .error f ∧ f.family = fam ∧ f.message = msg := by
  cases x with
  | error f =>
    simp only [Fault.failsWith, Bool.and_eq_true, beq_iff_eq] at h
    exact ⟨f, rfl, h⟩
  | ok a => exact nomatch h

/-! ## Comparisons -/

namespace Value

theorem test_int_lt (a b : Int) : (Value.int a).test .lt (.int b) = .ok (decide (a < b)) := by
  simp only [test, num?, Num.cmp, Except.ok.injEq]
  cases h : compare a b with
  | lt => simpa [Rel.holds] using Int.compare_eq_lt.mp h
  | eq =>
    have hab : a = b := Int.compare_eq_eq.mp h
    simp [Rel.holds, hab]
  | gt =>
    have hab : b < a := Int.compare_eq_gt.mp h
    simp [Rel.holds]
    omega

theorem test_int_ge (a b : Int) : (Value.int a).test .ge (.int b) = .ok (decide (b ≤ a)) := by
  simp only [test, num?, Num.cmp, Except.ok.injEq]
  cases h : compare a b with
  | lt =>
    have hab : a < b := Int.compare_eq_lt.mp h
    simp [Rel.holds]
    omega
  | eq =>
    have hab : a = b := Int.compare_eq_eq.mp h
    simp [Rel.holds, hab]
  | gt =>
    have hab : b < a := Int.compare_eq_gt.mp h
    simp [Rel.holds]
    omega

theorem add_int (a b : Int) : (Value.int a).add (.int b) = .ok (.int (a + b)) := rfl

/-- A comparison that did not fail was between two numbers. -/
theorem num?_of_test {rel : Rel} {a b : Value} {r : Bool} (h : a.test rel b = .ok r) :
    (∃ x, a.num? = some x) ∧ ∃ y, b.num? = some y := by
  unfold test at h
  split at h
  · rename_i x y hx hy
    exact ⟨⟨x, hx⟩, y, hy⟩
  · cases h

/-- Two numbers always compare. -/
theorem test_of_num? {a b : Value} (ha : ∃ x, a.num? = some x) (hb : ∃ y, b.num? = some y)
    (rel : Rel) : ∃ r, a.test rel b = .ok r := by
  obtain ⟨x, hx⟩ := ha
  obtain ⟨y, hy⟩ := hb
  exact ⟨rel.holds (x.cmp y), by simp [test, hx, hy]⟩

end Value

/-! ## The checks -/

namespace Settings

/-- The checks `validate` makes, in its order, each as it passed. -/
structure Accepted (s : Settings) : Prop where
  fast_pos : s.indicators.fastPeriod.test .lt (.int 1) = .ok false
  slow_pos : s.indicators.slowPeriod.test .lt (.int 1) = .ok false
  signal_pos : s.indicators.signalPeriod.test .lt (.int 1) = .ok false
  fast_lt_slow : s.indicators.fastPeriod.test .ge s.indicators.slowPeriod = .ok false
  saturation_pos : s.indicators.crossSaturationPct.test .le (.int 0) = .ok false
  buffer_nonneg : s.indicators.sessionMaxPoints.test .lt (.int 0) = .ok false
  mode_known : oneOf historyModes s.watchlist.historyMode = true
  symbols_given : ∃ v, s.watchlist.symbolsValue = .ok v ∧ v.truthy = true
  refresh_pos : s.watchlist.refreshIntervalSeconds.test .lt (.int 1) = .ok false
  workers_pos : s.watchlist.fetchWorkers.test .lt (.int 1) = .ok false
  level_known : levelNames.contains (Text.upper s.logging.level.display) = true
  format_known : logFormats.contains (Text.lower s.logging.format.display) = true
  /-- A positive session bound leaves room for `slow + signal + 1` closes. -/
  room : ∃ least, minPoints s.indicators = .ok least ∧
    ∃ pos, (Value.int 0).test .lt s.indicators.sessionMaxPoints = .ok pos ∧
      (pos = true → s.indicators.sessionMaxPoints.test .lt least = .ok false)

/-- Settings that `validate` accepts passed each of its checks. -/
theorem accepted_of_validate {s : Settings} (hv : s.validate = .ok ()) : s.Accepted := by
  unfold validate at hv
  obtain ⟨fast_pos, hv⟩ := Except.ok_of_guard hv
  obtain ⟨slow_pos, hv⟩ := Except.ok_of_guard hv
  obtain ⟨signal_pos, hv⟩ := Except.ok_of_guard hv
  obtain ⟨fast_lt_slow, hv⟩ := Except.ok_of_guard hv
  obtain ⟨saturation_pos, hv⟩ := Except.ok_of_guard hv
  obtain ⟨buffer_nonneg, hv⟩ := Except.ok_of_guard hv
  obtain ⟨mode_known, hv⟩ := Except.ok_of_unless hv
  obtain ⟨syms, hsyms, hv⟩ := Except.ok_of_bind hv
  obtain ⟨htruthy, hv⟩ := Except.ok_of_unless hv
  obtain ⟨refresh_pos, hv⟩ := Except.ok_of_guard hv
  obtain ⟨workers_pos, hv⟩ := Except.ok_of_guard hv
  obtain ⟨level_known, hv⟩ := Except.ok_of_unless hv
  obtain ⟨format_known, hv⟩ := Except.ok_of_unless hv
  obtain ⟨least, hleast, hv⟩ := Except.ok_of_bind hv
  obtain ⟨pos, hpos, hv⟩ := Except.ok_of_bind hv
  refine ⟨fast_pos, slow_pos, signal_pos, fast_lt_slow, saturation_pos, buffer_nonneg, mode_known,
    ⟨syms, hsyms, htruthy⟩, refresh_pos, workers_pos, level_known, format_known,
    ⟨least, hleast, pos, hpos, fun hp => ?_⟩⟩
  -- the bound is positive, so the last check ran and passed
  subst hp
  exact (Except.ok_of_guard hv).1

end Settings

/-! ## A monitor for accepted settings -/

namespace Monitor

open Settings

/-- Checked periods make an indicator: the indicator checks the same four
comparisons, in the same order. -/
theorem config_of_accepted {s : Settings} (ha : s.Accepted) :
    Macd.Config.make s.indicators.fastPeriod s.indicators.slowPeriod s.indicators.signalPeriod =
      .ok ⟨s.indicators.fastPeriod, s.indicators.slowPeriod, s.indicators.signalPeriod⟩ := by
  simp [Macd.Config.make, ha.fast_pos, ha.slow_pos, ha.signal_pos, ha.fast_lt_slow, bind, Except.bind,
    pure, Except.pure]

/-- A checked whole session bound keeps that many closes, all of them for zero. -/
theorem history_of_accepted {s : Settings} {mp : Int} (ha : s.Accepted)
    (hmp : s.indicators.sessionMaxPoints = .int mp) :
    ∃ l, Limit.ofValue s.indicators.sessionMaxPoints = .ok l ∧ l.Keeps mp.toNat := by
  have hnonneg : 0 ≤ mp := by
    have h := ha.buffer_nonneg
    rw [hmp, Value.test_int_lt] at h
    simpa using h
  apply Limit.ofValue_of_whole
  rw [hmp]
  simp [Value.num?, Int.toNat_of_nonneg hnonneg]

/-- A whole number within the digits a whole number is written with has its
decimal text. -/
theorem ofWhole_of_lt {n : Int} (h : n.natAbs < 10 ^ Text.maxDigits) : Text.ofWhole n = .ok (toString n) := by
  rw [Text.ofWhole, Nat.pow_eq, if_pos h]

/-- Whole periods that pass the checks have their report when the slow and
the signal period are within the digits a whole number is written with: the
fast period is positive and below the slow one. -/
theorem periodsText_of_accepted {s : Settings} {f sl g : Int} (ha : s.Accepted)
    (hf : s.indicators.fastPeriod = .int f) (hsl : s.indicators.slowPeriod = .int sl)
    (hg : s.indicators.signalPeriod = .int g)
    (hdigits : sl.natAbs < 10 ^ Text.maxDigits ∧ g.natAbs < 10 ^ Text.maxDigits) :
    ∃ t, periodsText s.indicators = .ok t := by
  have hpos : ¬f < 1 := by
    have h := ha.fast_pos
    rw [hf, Value.test_int_lt] at h
    simpa using h
  have hlt : ¬sl ≤ f := by
    have h := ha.fast_lt_slow
    rw [hf, hsl, Value.test_int_ge] at h
    simpa using h
  have hfast : f.natAbs < 10 ^ Text.maxDigits := lt_of_le_of_lt (by omega) hdigits.1
  simp [periodsText, periodText, hf, hsl, hg, ofWhole_of_lt hfast, ofWhole_of_lt hdigits.1,
    ofWhole_of_lt hdigits.2, bind, Except.bind, pure, Except.pure]

/-- A monitor is made for accepted settings with a whole session bound, a
client made of the feed settings and periods that can be reported: its
indicator has the periods, its history is empty under the bound, it has made
no request, and its client is the one made. -/
theorem make_of_accepted {s : Settings} {mp : Int} {client : Feed.Client} (ha : s.Accepted)
    (hmp : s.indicators.sessionMaxPoints = .int mp)
    (hclient : Feed.Client.make s.feed (some false) = .ok client)
    (hperiods : ∃ t, periodsText s.indicators = .ok t) :
    ∃ l, l.Keeps mp.toNat ∧ Monitor.make s =
      .ok ⟨s, ⟨s.indicators.fastPeriod, s.indicators.slowPeriod, s.indicators.signalPeriod⟩,
        ⟨l, []⟩, [], 0, client⟩ := by
  obtain ⟨l, hl, hkeeps⟩ := history_of_accepted ha hmp
  obtain ⟨v, hv, -⟩ := ha.symbols_given
  obtain ⟨t, ht⟩ := hperiods
  refine ⟨l, hkeeps, ?_⟩
  simp [Monitor.make, hclient, config_of_accepted ha, History.make, hl, hv, ht, bind, Except.bind, pure,
    Except.pure]

end Monitor

end QuoteMomentum
