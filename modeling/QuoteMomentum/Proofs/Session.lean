import QuoteMomentum.Proofs.Poll
import QuoteMomentum.Proofs.Macd

/-!
# Session series over polls

In session mode a poll appends the last close of every row that went well to
the series of the row's symbol, the watchlist entry, and reads MACD on the
series right after the append. Over any run of polls that returned, from the
monitor as made, the series of each symbol is the last `n` of the closes of
its `ok` rows, in the order the rows were made; every other row appends
nothing; and each `ok` row carries the reading of the series right after its
own append, which is valid exactly when the periods are whole and that series
holds `slow + signal + 1` closes (`Monitor.session_series_follow_ok_rows`). In
chart mode no poll touches the history.

The proof is the invariant `Monitor.SessionTracks`, kept by one symbol
(`pollSymbol_tracks`), by the symbols of a poll in turn, by a poll and by a run
of polls. A symbol is only ever polled when it has an address, so it is a text
or a byte string, and the history finds it under itself alone.
-/

namespace QuoteMomentum

open Limit (keepLast)

/-- The closes the `ok` rows among `rows` give the symbol `t`, in order. -/
def okCloses (rows : List Row) (t : Value) : List Float :=
  rows.filterMap fun row =>
    if row.status = .ok ∧ row.symbol.sameKey t = true then row.summary.map (·.lastClose) else none

theorem okCloses_nil (t : Value) : okCloses [] t = [] := rfl

theorem okCloses_append (rows rows' : List Row) (t : Value) :
    okCloses (rows ++ rows') t = okCloses rows t ++ okCloses rows' t := by
  simp [okCloses, List.filterMap_append]

namespace Feed

/-- A symbol with an address is a text or a byte string. -/
theorem isPlain_of_chartUrl {feed : Settings.Feed} {w : Settings.Watchlist} {symbol : Value}
    {url : String} (h : chartUrl feed w symbol = .ok url) : symbol.IsPlain := by
  unfold chartUrl at h
  obtain ⟨q, -, h⟩ := Except.ok_of_bind h
  cases symbol with
  | str t => exact Value.isPlain_str t
  | bytes bs => exact .inr ⟨bs, rfl⟩
  | _ => cases h

end Feed

namespace Monitor

variable {m m' : Monitor}

/-- The mode is read off the settings alone. -/
theorem sessionMode_of_settings {m₁ : Monitor} (h : m₁.settings = m.settings) :
    m₁.sessionMode = m.sessionMode := by
  rw [sessionMode, sessionMode, h]

/-! ## The invariant -/

/-- Each `ok` row among `rows` carries the reading, by the indicator `c`, of
the series right after its append: the last `n` of the closes of the `ok`
rows before it with its symbol, and its own. -/
def OkReads (c : Macd.Config) (n : Nat) (rows : List Row) : Prop :=
  ∀ i row, rows[i]? = some row → row.status = .ok →
    ∃ su r, row.summary = some su ∧ row.macd = some r ∧
      c.lastTwo (keepLast n (okCloses (rows.take i) row.symbol ++ [su.lastClose])) (some su.lastClose) = .ok r

theorem OkReads.append_row {c : Macd.Config} {n : Nat} {rows : List Row} {row : Row}
    (h : OkReads c n rows)
    (hrow : row.status = .ok → ∃ su r, row.summary = some su ∧ row.macd = some r ∧
      c.lastTwo (keepLast n (okCloses rows row.symbol ++ [su.lastClose])) (some su.lastClose) = .ok r) :
    OkReads c n (rows ++ [row]) := by
  intro i row' hi hok
  by_cases hlt : i < rows.length
  · -- an earlier row: the rows before it are as they were
    rw [List.getElem?_append_left hlt] at hi
    have htake : (rows ++ [row]).take i = rows.take i := List.take_append_of_le_length hlt.le
    rw [htake]
    exact h i row' hi hok
  · -- the new row, with every earlier row before it
    have hi' : i = rows.length := by
      have hlen := (List.getElem?_eq_some_iff.mp hi).1
      rw [List.length_append, List.length_singleton] at hlen
      omega
    subst hi'
    rw [List.getElem?_append_right (le_refl _), Nat.sub_self] at hi
    cases hi
    rw [List.take_left]
    exact hrow hok

/-- A monitor in session mode with the indicator `c`, whose bound keeps the
last `n` closes, whose series are the cut closes of the `ok` rows `rows`, and
whose `ok` rows each carry the reading of the series right after their append. -/
structure SessionTracks (c : Macd.Config) (n : Nat) (rows : List Row) (m : Monitor) : Prop where
  config_eq : m.config = c
  session : m.sessionMode = true
  keeps : m.history.limit.Keeps n
  series : ∀ t, m.history.closesOf t = keepLast n (okCloses rows t)
  reads : OkReads c n rows

variable {c : Macd.Config} {n : Nat} {rows : List Row}

/-- The invariant is about the indicator, the mode, the history and the rows
alone. -/
theorem SessionTracks.of_history {m₁ : Monitor} (ht : SessionTracks c n rows m)
    (hconf : m₁.config = m.config) (hset : m₁.settings = m.settings) (hhist : m₁.history = m.history) :
    SessionTracks c n rows m₁ := by
  refine ⟨hconf.trans ht.config_eq, ?_, hhist ▸ ht.keeps, hhist ▸ ht.series, ht.reads⟩
  rw [sessionMode_of_settings hset]
  exact ht.session

/-- **One symbol.** A symbol polled in session mode keeps the invariant, with
its row added. -/
theorem pollSymbol_tracks {src : Feed.Source} {symbol : Value} {row : Row}
    (ht : SessionTracks c n rows m) (h : m.pollSymbol src symbol = .ok (m', row)) :
    SessionTracks c n (rows ++ [row]) m' := by
  obtain ⟨url, client, sent, result, hurl, -, hsettle⟩ := pollSymbol_cases h
  have hplain := Feed.isPlain_of_chartUrl hurl
  obtain ⟨hsym, hcase⟩ := settle_cases hsettle
  -- the client's turn and the request's log change nothing the invariant reads
  have hlogged : SessionTracks c n rows (m.logged client sent url) := ht.of_history rfl rfl rfl
  generalize m.logged client sent url = m₁ at hlogged hcase
  rcases hcase with ⟨hne, rfl⟩ | ⟨hok, su, r, hsu, hr, hread⟩
  · -- a failed row appends nothing
    have hnone : ∀ t, okCloses [row] t = [] := fun t => by simp [okCloses, hne]
    refine ⟨hlogged.config_eq, hlogged.session, hlogged.keeps, fun t => ?_,
      hlogged.reads.append_row (fun h => absurd h hne)⟩
    rw [okCloses_append, hnone, List.append_nil]
    exact hlogged.series t
  · -- an `ok` row appends its close under the bound, then reads the series
    obtain ⟨h', hupdate, rfl⟩ := (readingFor_cases hread).1 hlogged.session
    have hcut := History.update_of_keeps (p := .float su.lastClose) hplain.unhashableType? rfl
      m₁.history hlogged.keeps (fun xs => m₁.config.lastTwo xs (some su.lastClose))
    rw [hupdate, hlogged.series symbol, Limit.keepLast_append_keepLast] at hcut
    obtain ⟨rfl, hreading⟩ := Prod.mk.inj hcut
    have hown : okCloses [row] symbol = [su.lastClose] := by
      simp [okCloses, hok, hsym, (hplain.sameKey_iff symbol).mpr rfl, hsu]
    refine ⟨hlogged.config_eq, hlogged.session, by simpa using hlogged.keeps, fun t => ?_,
      hlogged.reads.append_row ?_⟩
    · rw [History.closesOf_put hplain, okCloses_append]
      by_cases hkey : symbol.sameKey t = true
      · obtain rfl : t = symbol := (hplain.sameKey_iff t).mp hkey
        rw [if_pos hkey, hown]
      · have hother : okCloses [row] t = [] := by simp [okCloses, hsym, hkey]
        rw [if_neg hkey, History.closesOf_enroll, hother, List.append_nil]
        exact hlogged.series t
    · intro _
      refine ⟨su, r, hsu, hr, ?_⟩
      rw [hsym, ← hlogged.config_eq]
      exact hreading.symm

/-! ## Every symbol, every poll, every run -/

/-- **One poll.** A poll that returns in session mode keeps the invariant,
with its rows added. -/
theorem pollOnce_tracks {src : Feed.Source} {rows' : List Row} (ht : SessionTracks c n rows m)
    (h : m.pollOnce src = .ok (m', rows')) : SessionTracks c n (rows ++ rows') m' := by
  have hstart : SessionTracks c n (rows ++ []) m := by
    rw [List.append_nil]
    exact ht
  refine pollOnce_induct (fun m₁ rows₁ => SessionTracks c n (rows ++ rows₁) m₁) ?_ ?_ hstart h
  · intro m₁ rows₁ symbol m₂ row ht₁ hpoll
    rw [← List.append_assoc]
    exact pollSymbol_tracks ht₁ hpoll
  · intro m₁ rows₁ ht₁
    exact ht₁.of_history rfl rfl rfl

/-- A run of polls that returned keeps the invariant, with its rows added in
the order they were made. -/
theorem Polled.tracks {rows' : List Row} (hr : Polled m rows' m') :
    SessionTracks c n rows m → SessionTracks c n (rows ++ rows') m' := by
  induction hr generalizing rows with
  | nil =>
    intro ht
    rw [List.append_nil]
    exact ht
  | poll src hpoll _ ih =>
    intro ht
    rw [← List.append_assoc]
    exact ih (pollOnce_tracks ht hpoll)

/-- In chart mode a symbol polled leaves the history as it is. -/
theorem pollSymbol_history_of_chart {src : Feed.Source} {symbol : Value} {row : Row}
    (hs : m.sessionMode = false) (h : m.pollSymbol src symbol = .ok (m', row)) :
    m'.history = m.history := by
  obtain ⟨url, client, sent, result, -, -, hsettle⟩ := pollSymbol_cases h
  have hlogged : (m.logged client sent url).sessionMode = false := hs
  rcases (settle_cases hsettle).2 with ⟨-, rfl⟩ | ⟨-, su, r, -, -, hread⟩
  · rfl
  · obtain ⟨-, rfl⟩ := (readingFor_cases hread).2 hlogged
    rfl

/-- In chart mode a poll that returns leaves the settings and the history as
they are. -/
theorem pollOnce_history_of_chart {src : Feed.Source} {rows' : List Row} (hs : m.sessionMode = false)
    (h : m.pollOnce src = .ok (m', rows')) : m'.settings = m.settings ∧ m'.history = m.history := by
  refine pollOnce_induct (fun m₁ _ => m₁.settings = m.settings ∧ m₁.history = m.history) ?_
    (fun _ _ hkept => hkept) ⟨rfl, rfl⟩ h
  intro m₁ rows₁ symbol m₂ row ⟨hset, hhist⟩ hpoll
  have hs₁ : m₁.sessionMode = false := by
    rw [sessionMode_of_settings hset]
    exact hs
  exact ⟨(pollSymbol_frame hpoll).1.trans hset, (pollSymbol_history_of_chart hs₁ hpoll).trans hhist⟩

/-- In chart mode a run of polls that returned leaves the history as it is. -/
theorem Polled.history_of_chart {rows' : List Row} (hr : Polled m rows' m') :
    m.sessionMode = false → m'.history = m.history := by
  induction hr with
  | nil => exact fun _ => rfl
  | poll src hpoll _ ih =>
    intro hs
    obtain ⟨hset, hhist⟩ := pollOnce_history_of_chart hs hpoll
    have hs₁ := sessionMode_of_settings hset
    rw [ih (hs₁.trans hs), hhist]

/-! ## From the monitor as made -/

/-- A monitor made from settings has them, their indicator, and an empty
history under their bound. -/
theorem make_cases {s : Settings} {m₀ : Monitor} (h : Monitor.make s = .ok m₀) :
    m₀.settings = s ∧
      Macd.Config.make s.indicators.fastPeriod s.indicators.slowPeriod s.indicators.signalPeriod =
        .ok m₀.config ∧
      Limit.ofValue s.indicators.sessionMaxPoints = .ok m₀.history.limit ∧ m₀.history.entries = [] := by
  unfold Monitor.make at h
  obtain ⟨client, -, h⟩ := Except.ok_of_bind h
  dsimp only at h
  obtain ⟨c, hc, h⟩ := Except.ok_of_bind h
  obtain ⟨hist, hhist, h⟩ := Except.ok_of_bind h
  obtain ⟨-, -, h⟩ := Except.ok_of_bind h
  obtain ⟨-, -, h⟩ := Except.ok_of_bind h
  cases h
  unfold History.make at hhist
  obtain ⟨l, hl, hhist⟩ := Except.ok_of_bind hhist
  cases hhist
  exact ⟨rfl, hc, hl, rfl⟩

/-- A monitor made in session mode under a whole bound `n` satisfies the
invariant with no rows yet. -/
theorem make_tracks {s : Settings} {m₀ : Monitor} (hmake : Monitor.make s = .ok m₀)
    (hmp : s.indicators.sessionMaxPoints.num? = some (.whole n)) (hs : m₀.sessionMode = true) :
    SessionTracks m₀.config n [] m₀ := by
  obtain ⟨-, -, hlimit, hentries⟩ := make_cases hmake
  obtain ⟨l, hl, hkeeps⟩ := Limit.ofValue_of_whole hmp
  obtain rfl : m₀.history.limit = l := Except.ok.inj (hlimit.symm.trans hl)
  refine ⟨rfl, hs, hkeeps, fun t => ?_, fun i row hi => ?_⟩
  · rw [okCloses_nil, Limit.keepLast_nil, History.closesOf, hentries]
    rfl
  · simp at hi

/-! ## Over every run -/

/-- **Session series follow the `ok` rows.** From the monitor made for
settings whose session bound is a whole number `n`, after any run of polls
that returned: in session mode the series of every symbol is the last `n` of
the closes of the `ok` rows naming it, in the order the rows were made, and
each `ok` row carries the reading of the series right after its own append,
with its flag set exactly when the periods are whole and that series holds
`slow + signal + 1` closes; in chart mode the history is as it was made. -/
theorem session_series_follow_ok_rows {s : Settings} {n : Nat} {m₀ m : Monitor} {rows : List Row}
    (hmake : Monitor.make s = .ok m₀) (hmp : s.indicators.sessionMaxPoints.num? = some (.whole n))
    (hrun : Polled m₀ rows m) :
    (m₀.sessionMode = true →
      (∀ t, m.history.closesOf t = keepLast n (okCloses rows t)) ∧
      ∀ i row, rows[i]? = some row → row.status = .ok →
        ∃ su r, row.summary = some su ∧ row.macd = some r ∧
          m₀.config.lastTwo (keepLast n (okCloses (rows.take i) row.symbol ++ [su.lastClose]))
            (some su.lastClose) = .ok r ∧
          (row.hasMacd = true ↔ ∃ p, m₀.config.periods? = some p ∧
            p.slow + p.signal + 1 ≤
              (keepLast n (okCloses (rows.take i) row.symbol ++ [su.lastClose])).length)) ∧
    (m₀.sessionMode = false → m.history = m₀.history) := by
  obtain ⟨-, hconfig, -, -⟩ := make_cases hmake
  refine ⟨fun hs => ?_, hrun.history_of_chart⟩
  -- the invariant holds of the monitor as made, with no rows, and every poll keeps it
  have ht : SessionTracks m₀.config n rows m := by
    have hrun' := hrun.tracks (make_tracks hmake hmp hs)
    rw [List.nil_append] at hrun'
    exact hrun'
  refine ⟨ht.series, fun i row hi hok => ?_⟩
  obtain ⟨su, r, hsu, hr, hread⟩ := ht.reads i row hi hok
  refine ⟨su, r, hsu, hr, hread, ?_⟩
  have hflag : row.hasMacd = r.valid := by simp [Row.hasMacd, hr]
  rw [hflag]
  exact Macd.Config.valid_iff_of_make hconfig hread

/-- Session mode with the shortest periods: 1, 2 and 1, so that four closes
give a reading. -/
def quickSession : Settings :=
  { Settings.standard with
    watchlist := { Settings.Watchlist.standard with historyMode := .str "session" }
    indicators := { Settings.Indicators.standard with
      fastPeriod := .int 1, slowPeriod := .int 2, signalPeriod := .int 1 } }

/-- A feed that answers every request with the closes 2 and 3. -/
def steadyFeed : Feed.Source := fun _ _ =>
  Feed.Answer.ofBody 200
    "\x7b\"chart\":\x7b\"result\":[\x7b\"meta\":\x7b\x7d,\"indicators\":\x7b\"quote\":[\x7b\"close\":[2.0,3.0]\x7d]\x7d\x7d]\x7d\x7d".toUTF8

/-- `quickSession` watching the one symbol `A`. -/
def oneQuote : Settings :=
  { quickSession with watchlist := { quickSession.watchlist with symbols := some (.list [.str "A"]) } }

/-- Two polls of `oneQuote` on the steady feed, both rows `ok`: the theorem
applies to the run. -/
theorem session_series_after_two_ok_polls :
    ∃ (m₀ m : Monitor) (rows : List Row), Monitor.make oneQuote = .ok m₀ ∧
      oneQuote.indicators.sessionMaxPoints.num? = some (.whole 0) ∧ Polled m₀ rows m ∧
      rows.map Row.status = [.ok, .ok] ∧
      (m₀.sessionMode = true →
        (∀ t, m.history.closesOf t = keepLast 0 (okCloses rows t)) ∧
        ∀ i row, rows[i]? = some row → row.status = .ok →
          ∃ su r, row.summary = some su ∧ row.macd = some r ∧
            m₀.config.lastTwo (keepLast 0 (okCloses (rows.take i) row.symbol ++ [su.lastClose]))
              (some su.lastClose) = .ok r ∧
            (row.hasMacd = true ↔ ∃ p, m₀.config.periods? = some p ∧
              p.slow + p.signal + 1 ≤
                (keepLast 0 (okCloses (rows.take i) row.symbol ++ [su.lastClose])).length)) ∧
      (m₀.sessionMode = false → m.history = m₀.history) := by
  -- the monitor is made and polled twice, evaluated
  have hrun : ((Monitor.make oneQuote).toOption.bind fun m₀ =>
      (m₀.pollOnce steadyFeed).toOption.bind fun p₁ =>
        (p₁.1.pollOnce steadyFeed).toOption.map fun p₂ => (p₁.2 ++ p₂.2).map Row.status) =
      some [.ok, .ok] := by
    decide +kernel
  obtain ⟨m₀, hmake, hrun⟩ := Option.bind_eq_some_iff.mp hrun
  obtain ⟨⟨m₁, rows₁⟩, hpoll₁, hrun⟩ := Option.bind_eq_some_iff.mp hrun
  obtain ⟨⟨m₂, rows₂⟩, hpoll₂, hstatus⟩ := Option.map_eq_some_iff.mp hrun
  replace hmake := Except.eq_ok_of_toOption hmake
  have hpolled : Polled m₀ (rows₁ ++ rows₂) m₂ := by
    have h := Polled.poll steadyFeed (Except.eq_ok_of_toOption hpoll₁)
      (.poll steadyFeed (Except.eq_ok_of_toOption hpoll₂) (.nil m₂))
    rwa [List.append_nil] at h
  exact ⟨m₀, m₂, rows₁ ++ rows₂, hmake, rfl, hpolled, hstatus,
    session_series_follow_ok_rows hmake rfl hpolled⟩

end Monitor

end QuoteMomentum
