import QuoteMomentum.Proofs.Poll
import QuoteMomentum.Proofs.Macd

/-!
# What accepted settings keep from failing

The checks compare values with numbers and nothing more: a period of `2.5`
or `true`, or a session bound of `40.5`, passes them, and so does any base
address, any rate and burst, and a period of any number of digits. Such
settings make the first EMA that uses the period fail, or the first cut of a
series longer than the bound, or the first address; a burst of zero or a rate
that is a text keeps the client from being made, and a period with more digits
than a whole number is written with keeps the monitor from reporting it
(`Settings.accepted_settings_can_fail`).

With the periods and the session bound whole numbers, the slow and signal
periods within `Text.maxDigits` digits, a rate and a burst that make a bucket,
a base address that is a text, a query that can be written and a saturation
that reads as a double other than zero, the checks are enough
(`Settings.accepted_settings_never_fail`):
the monitor is made; every text symbol without surrogates has an address;
every reading succeeds; a session update succeeds however long the history
has grown; the intensity of every reading is computed; and a positive session
bound, being at least `slow + signal + 1` by the last check, holds enough
closes for a valid reading.
-/

namespace QuoteMomentum

namespace Settings

variable {s : Settings}

/-- A positive whole session bound that passes the checks leaves room for the
MACD window. -/
theorem room_of_accepted {sl g mp : Int} (ha : s.Accepted) (hsl : s.indicators.slowPeriod = .int sl)
    (hg : s.indicators.signalPeriod = .int g) (hmp : s.indicators.sessionMaxPoints = .int mp)
    (hpos : 0 < mp) : sl + g + 1 ≤ mp := by
  obtain ⟨least, hleast, pos, hposTest, hroom⟩ := ha.room
  -- the window is computed in whole numbers
  have hwindow : least = .int (sl + g + 1) := by
    simp only [minPoints, hsl, hg, Value.add_int, Except.ok_bind] at hleast
    exact (Except.ok.inj hleast).symm
  rw [hmp, Value.test_int_lt] at hposTest
  obtain rfl : pos = true := by simpa [hpos] using hposTest.symm
  have hnot := hroom rfl
  rw [hmp, hwindow, Value.test_int_lt] at hnot
  simp only [Except.ok.injEq, decide_eq_false_iff_not] at hnot
  omega

/-- **Accepted settings run.** For settings the checks accept, whose periods
and session bound are whole numbers, whose slow and signal periods have at
most `Text.maxDigits` digits, whose rate and burst make a bucket, whose base
address is a text, whose query can be written and whose saturation reads as a
double other than zero:
the monitor is made, and from it every text symbol without surrogates has an
address, every reading succeeds, a session update succeeds under the bound
however long the history, every intensity is computed, and a positive bound
holds enough closes for a valid reading. -/
theorem accepted_settings_never_fail {f sl g mp : Int} (hv : s.validate = .ok ())
    (hf : s.indicators.fastPeriod = .int f) (hsl : s.indicators.slowPeriod = .int sl)
    (hg : s.indicators.signalPeriod = .int g) (hmp : s.indicators.sessionMaxPoints = .int mp)
    (hdigits : sl.natAbs < 10 ^ Text.maxDigits ∧ g.natAbs < 10 ^ Text.maxDigits)
    (hbucket : ∃ b, Bucket.ofSettings s.feed.rateLimitCallsPerMinute s.feed.burstLimit 0.0 = .ok b)
    (hbase : ∃ b, s.feed.baseUrl = .str b) (hquery : ∃ q, Feed.chartQuery s.watchlist = .ok q)
    (hsat : ∃ x, Macd.divisor s.indicators.crossSaturationPct = .ok x ∧ Numeric.isZero x = false) :
    ∃ m₀, Monitor.make s = .ok m₀ ∧
      (∀ t : String, Feed.NoSurrogate t →
        ∃ url, Feed.chartUrl s.feed s.watchlist (.str t) = .ok url) ∧
      (∀ (xs : List Float) (lastClose : Option Float), ∃ r, m₀.config.lastTwo xs lastClose = .ok r) ∧
      (∀ h : History, h.limit = m₀.history.limit → ∀ (t : String) (x : Float),
        ∃ h' r, h.update (.str t) (.float x) (fun xs => m₀.config.lastTwo xs (some x)) = (h', .ok r)) ∧
      (∀ (r : Macd.Reading Float) (lastClose : Float),
        ∃ i, Macd.intensityWith r lastClose s.indicators.crossSaturationPct = .ok i) ∧
      (0 < mp → ∀ (xs : List Float) (lastClose : Option Float), xs.length = mp.toNat →
        ∃ r, m₀.config.lastTwo xs lastClose = .ok r ∧ r.valid = true) := by
  have ha := accepted_of_validate hv
  obtain ⟨b, hb⟩ := hbucket
  obtain ⟨l, hl, hmake⟩ := Monitor.make_of_accepted ha hmp (Feed.Client.make_of_bucket hb (some false))
    (Monitor.periodsText_of_accepted ha hf hsl hg hdigits)
  have hperiods : (Macd.Config.mk s.indicators.fastPeriod s.indicators.slowPeriod
      s.indicators.signalPeriod).periods? = some ⟨f, sl, g⟩ := by
    simp [Macd.Config.periods?, hf, hsl, hg, Value.whole?]
  -- the indicator's own checks order the periods
  obtain ⟨hfast, horder, hsignal⟩ := Macd.Config.periods_of_make (Monitor.config_of_accepted ha) hperiods
  refine ⟨_, hmake, fun t ht => Feed.chartUrl_of_text hbase hquery ht,
    fun xs lastClose => ⟨_, Macd.Config.lastTwo_of_periods hperiods xs lastClose⟩, ?_,
    Monitor.intensityWith_ok hsat, ?_⟩
  · -- the bound keeps the last closes, so no cut fails, and no reading does
    intro h hlim t x
    have hkeeps : h.limit.Keeps mp.toNat := by
      rw [hlim]
      exact hl
    rw [History.update_of_keeps rfl rfl h hkeeps, Macd.Config.lastTwo_of_periods hperiods]
    exact ⟨_, _, rfl⟩
  · intro hpos xs lastClose hlen
    have hroom := room_of_accepted ha hsl hg hmp hpos
    refine ⟨_, Macd.Config.lastTwo_of_periods hperiods xs lastClose, ?_⟩
    have hwindow : (Macd.lastTwo ⟨f, sl, g⟩ xs lastClose).valid = true ↔
        sl + g + 1 ≤ (xs.length : Int) :=
      Macd.valid_lastTwo_iff hfast (Int.le_of_lt horder) hsignal xs lastClose
    exact hwindow.mpr (by omega)

/-- The default settings are such settings. -/
theorem standard_settings_never_fail :
    ∃ m₀, Monitor.make standard = .ok m₀ ∧
      (∀ t : String, Feed.NoSurrogate t →
        ∃ url, Feed.chartUrl standard.feed standard.watchlist (.str t) = .ok url) ∧
      (∀ (xs : List Float) (lastClose : Option Float), ∃ r, m₀.config.lastTwo xs lastClose = .ok r) ∧
      (∀ h : History, h.limit = m₀.history.limit → ∀ (t : String) (x : Float),
        ∃ h' r, h.update (.str t) (.float x) (fun xs => m₀.config.lastTwo xs (some x)) = (h', .ok r)) ∧
      (∀ (r : Macd.Reading Float) (lastClose : Float),
        ∃ i, Macd.intensityWith r lastClose standard.indicators.crossSaturationPct = .ok i) ∧
      ((0 : Int) < 0 → ∀ (xs : List Float) (lastClose : Option Float), xs.length = (0 : Int).toNat →
        ∃ r, m₀.config.lastTwo xs lastClose = .ok r ∧ r.valid = true) :=
  @accepted_settings_never_fail standard 12 26 9 0 rfl rfl rfl rfl rfl
    ⟨by decide +kernel, by decide +kernel⟩ ⟨_, rfl⟩ ⟨_, rfl⟩ ⟨_, rfl⟩ ⟨0.5, rfl, by decide⟩

/-- The standard settings with a signal period of `10 ^ Text.maxDigits`, one
digit more than a whole number is written with. -/
def longSignalPeriod : Settings :=
  { standard with
    indicators := { Indicators.standard with signalPeriod := .int (10 ^ Text.maxDigits) } }

/-- Each condition is needed. A fast period of `2.5` passes the checks, the
monitor is made, and the reading of forty closes fails at the fast EMA; a
burst of zero, or a rate that is a text, passes them and the client is not
made; and a signal period of `10 ^ Text.maxDigits` passes them and the monitor
cannot report it. -/
theorem accepted_settings_can_fail :
    (∃ s : Settings, s.indicators.fastPeriod = .float 2.5 ∧ s.validate = .ok () ∧
      ∃ m₀, Monitor.make s = .ok m₀ ∧
        m₀.config.lastTwo (List.replicate 40 (1.0 : Float)) none = .error (.periodNotWhole (.float 2.5))) ∧
    (∃ s : Settings, s.feed.burstLimit = .int 0 ∧ s.validate = .ok () ∧
      Monitor.make s = .error .rateNotPositive) ∧
    (∃ s : Settings, s.feed.rateLimitCallsPerMinute = .str "fast" ∧ s.validate = .ok () ∧
      Monitor.make s = .error (.unordered "<=" "str" "int")) ∧
    (longSignalPeriod.validate = .ok () ∧ ∃ f, Monitor.make longSignalPeriod = .error f ∧
      f.family = .badValue ∧
      f.message = "Exceeds the limit (4300 digits) for integer string conversion; " ++
        "use sys.set_int_max_str_digits() to increase the limit") := by
  refine ⟨?_, ⟨{ standard with feed := { Feed.standard with burstLimit := .int 0 } }, rfl, rfl, rfl⟩,
    ⟨{ standard with feed := { Feed.standard with rateLimitCallsPerMinute := .str "fast" } }, rfl, rfl, rfl⟩,
    Except.eq_ok_of_isOk (by decide +kernel), Fault.exists_of_failsWith (by decide +kernel)⟩
  -- the monitor is made with the indicator as given, whose fast EMA refuses the period
  have ha : Accepted { standard with indicators := { Indicators.standard with fastPeriod := .float 2.5 } } :=
    accepted_of_validate rfl
  obtain ⟨l, -, hmake⟩ := Monitor.make_of_accepted ha rfl (Feed.Client.make_of_bucket rfl (some false))
    (Except.exists_ok_of_isOk (by decide +kernel))
  exact ⟨_, rfl, rfl, _, hmake, rfl⟩

end Settings

end QuoteMomentum
