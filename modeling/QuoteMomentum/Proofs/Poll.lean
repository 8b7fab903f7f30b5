import QuoteMomentum.Proofs.Answer
import QuoteMomentum.Proofs.Macd

/-!
# A poll gives one row per symbol, as the answers say

For settings the checks accept, with whole periods and a whole session bound,
periods that can be reported, a rate and a burst that make a bucket, texts for
symbols, a text for the base address, a query that can be written and a
saturation that reads as a double other than zero, every poll of the monitor,
after any polls before it, returns when its client grants each request its
turn (`Feed.Client.Grants`), with one row per symbol of the watchlist, in
order, each showing the verdict on the answer to its request
(`Monitor.pollOnce_rows_follow_answers`). The answers are only asked to be
readable (`Feed.Answer.Readable`). A turn is not granted when the stop event is
set, and then the row is a failed one (`Monitor.pollSymbol_of_stopped`); it
fails when the wait cannot be timed, as at a tiny rate
(`Monitor.poll_fails_without_conditions`).

The proof carries a small invariant through every poll, `Monitor.Sound`: the
monitor keeps its settings, its periods are whole, and its history's bound
keeps the last closes. Whole periods make every MACD reading succeed, and a
bound that keeps the last closes never refuses a series; a successful poll,
with any answers, changes none of the three (`Monitor.pollOnce_sound`).
-/

namespace QuoteMomentum

/-! ## Addresses -/

namespace Feed

/-- The answers to requests for `urls` in order, after the requests `past`. -/
def answersTo (src : Source) (past : List String) : List String → List Answer
  | [] => []
  | url :: urls => src past url :: answersTo src (past ++ [url]) urls

/-- A text holds no lone surrogate exactly when the search for one finds
none. -/
theorem findIdx?_surrogate_eq_none_iff {t : String} :
    (Text.points t.toList).findIdx? Text.isSurrogate = none ↔ NoSurrogate t := by
  rw [List.findIdx?_eq_none_iff, NoSurrogate, Text.hasSurrogate, List.any_eq_false]
  simp only [Bool.not_eq_true]

theorem encodable_of_text {t : String} (ht : NoSurrogate t) : encodable t = .ok () := by
  simp [encodable, findIdx?_surrogate_eq_none_iff.2 ht]

/-- A text without surrogates has an address, for a text base address and a
query that can be written. -/
theorem chartUrl_of_text {feed : Settings.Feed} {w : Settings.Watchlist}
    (hbase : ∃ b, feed.baseUrl = .str b) (hquery : ∃ q, chartQuery w = .ok q) {t : String}
    (ht : NoSurrogate t) : ∃ url, chartUrl feed w (.str t) = .ok url := by
  obtain ⟨b, hb⟩ := hbase
  obtain ⟨q, hq⟩ := hquery
  refine ⟨dropTrailing b '/' ++ "/" ++ String.join ((Text.plain t).toList.map quoteChar) ++ "?" ++ q, ?_⟩
  simp [chartUrl, hq, quoteSegment, encodable_of_text ht, hb, bind, Except.bind, pure, Except.pure]

theorem chartUrls_of_texts {feed : Settings.Feed} {w : Settings.Watchlist}
    (hbase : ∃ b, feed.baseUrl = .str b) (hquery : ∃ q, chartQuery w = .ok q) {syms : List String}
    (htext : ∀ t ∈ syms, NoSurrogate t) :
    ∃ urls, syms.mapM (fun t => chartUrl feed w (.str t)) = .ok urls := by
  induction syms with
  | nil => exact ⟨[], rfl⟩
  | cons t syms ih =>
    obtain ⟨url, hurl⟩ := chartUrl_of_text hbase hquery (htext t List.mem_cons_self)
    obtain ⟨urls, hurls⟩ := ih fun t' ht' => htext t' (List.mem_cons_of_mem t ht')
    exact ⟨url :: urls, by simp [List.mapM_cons, hurl, hurls, bind, Except.bind, pure, Except.pure]⟩

end Feed

/-! ## The client's turns -/

namespace Feed.Client

/-- The client lets the next `n` requests go, each on a turn without a fault. -/
def Grants (c : Client) : Nat → Prop
  | 0 => True
  | n + 1 => ∃ c', c.acquire = .ok (c', true) ∧ c'.Grants n

/-- A fetch is its request's turn, then the answer's result when the request
went. -/
theorem fetch_of_acquire {c c' : Client} {sent : Bool} (h : c.acquire = .ok (c', sent)) (answer : Answer) :
    c.fetch answer = .ok (c', sent, if sent then resultOf answer else .error (.feed .cancelled)) := by
  simp [fetch, h, bind, Except.bind, pure, Except.pure]

/-- A turn leaves the stop event as it is, and lets the request go exactly
when the event is not set. -/
theorem stop_of_acquire {c c' : Client} {sent : Bool} (h : c.acquire = .ok (c', sent)) :
    c'.stop = c.stop ∧ (sent = true ↔ c.stop ≠ some true) := by
  unfold acquire at h
  split at h
  · rename_i hstop
    cases h
    exact ⟨rfl, by simp [hstop]⟩
  · -- every turn that returns moves the bucket and the clock alone, and sends
    rename_i hstop
    repeat' split at h
    all_goals first
      | (cases h; exact ⟨rfl, by simp [hstop]⟩)
      | cases h

/-- Two turns in a row let their requests go alike. -/
theorem sent_of_acquire_acquire {c c₁ c₂ : Client} {s₁ s₂ : Bool} (h₁ : c.acquire = .ok (c₁, s₁))
    (h₂ : c₁.acquire = .ok (c₂, s₂)) : s₂ = s₁ := by
  obtain ⟨hstop, hs₁⟩ := stop_of_acquire h₁
  obtain ⟨-, hs₂⟩ := stop_of_acquire h₂
  rw [hstop] at hs₂
  exact Bool.eq_iff_iff.mpr (hs₂.trans hs₁.symm)

/-- A client made of a bucket the settings give, at clock zero. -/
theorem make_of_bucket {feed : Settings.Feed} {b : Bucket Float}
    (h : Bucket.ofSettings feed.rateLimitCallsPerMinute feed.burstLimit 0.0 = .ok b) (stop : Option Bool) :
    make feed stop = .ok ⟨b, 0.0, stop⟩ := by
  simp [make, h, bind, Except.bind, pure, Except.pure]

end Feed.Client

/-- The row for a symbol of the watchlist and the answer to its request: it
names the symbol and shows the verdict on the answer. -/
def Row.Answers (intraday : Bool) (row : Row) (entry : String × Feed.Answer) : Prop :=
  row.symbol = .str entry.1 ∧ row.Shows (entry.2.verdict intraday)

namespace Monitor

/-! ## The invariant -/

/-- A monitor polling with the settings `s`: it keeps them, its periods are
whole, and its history's bound keeps the last `n` closes for some `n`. -/
structure Sound (s : Settings) (m : Monitor) : Prop where
  settings_eq : m.settings = s
  whole : ∃ p, m.config.periods? = some p
  keeps : ∃ n, m.history.limit.Keeps n

variable {s : Settings} {m m' : Monitor}

/-- What a step of a poll may change: the client, the requests, the history's
series and the count of polls, never the settings, the indicator or the
bound. -/
def Frame (m m' : Monitor) : Prop :=
  m'.settings = m.settings ∧ m'.config = m.config ∧ m'.history.limit = m.history.limit

theorem Frame.refl (m : Monitor) : Frame m m := ⟨rfl, rfl, rfl⟩

theorem Frame.trans {m₁ m₂ m₃ : Monitor} (h₁ : Frame m₁ m₂) (h₂ : Frame m₂ m₃) : Frame m₁ m₃ :=
  ⟨h₂.1.trans h₁.1, h₂.2.1.trans h₁.2.1, h₂.2.2.trans h₁.2.2⟩

/-- The invariant depends on the settings, the indicator and the bound alone. -/
theorem Sound.of_frame (hm : m.Sound s) (hf : Frame m m') : m'.Sound s :=
  ⟨hf.1.trans hm.settings_eq, hf.2.1 ▸ hm.whole, hf.2.2 ▸ hm.keeps⟩

/-! ## One symbol -/

/-- What a reading does: in session mode it appends the close under the bound
and reads the series after, in chart mode it reads the summary's closes and
leaves the monitor as it is. -/
theorem readingFor_cases {symbol : Value} {su : Quote.Summary} {r : Macd.Reading Float}
    (h : m.readingFor symbol su = .ok (m', r)) :
    (m.sessionMode = true → ∃ h', m.history.update symbol (.float su.lastClose)
        (fun xs => m.config.lastTwo xs (some su.lastClose)) = (h', .ok r) ∧
      m' = { m with history := h' }) ∧
    (m.sessionMode = false → m.config.lastTwo su.closes (some su.lastClose) = .ok r ∧ m' = m) := by
  unfold readingFor at h
  constructor
  · intro hs
    rw [if_pos hs] at h
    generalize hu : m.history.update symbol (.float su.lastClose)
      (fun xs => m.config.lastTwo xs (some su.lastClose)) = u at h
    obtain ⟨h', r'⟩ := u
    cases r' with
    | error e => cases h
    | ok x =>
      cases h
      exact ⟨h', rfl, rfl⟩
  · intro hs
    rw [if_neg (by simp [hs])] at h
    cases hl : m.config.lastTwo su.closes (some su.lastClose) with
    | error e =>
      rw [hl] at h
      cases h
    | ok x =>
      rw [hl] at h
      cases h
      exact ⟨rfl, rfl⟩

/-- A reading changes the history alone, and never its bound. -/
theorem readingFor_moves {symbol : Value} {su : Quote.Summary} {r : Macd.Reading Float}
    (h : m.readingFor symbol su = .ok (m', r)) :
    ∃ h', m' = { m with history := h' } ∧ h'.limit = m.history.limit := by
  cases hs : m.sessionMode with
  | true =>
    -- the update keeps the bound
    obtain ⟨h', hupdate, rfl⟩ := (readingFor_cases h).1 hs
    refine ⟨h', rfl, ?_⟩
    rw [← History.limit_update m.history symbol (.float su.lastClose), hupdate]
  | false =>
    obtain ⟨-, hsame⟩ := (readingFor_cases h).2 hs
    exact ⟨m.history, hsame, rfl⟩

theorem readingFor_frame {symbol : Value} {su : Quote.Summary} {r : Macd.Reading Float}
    (h : m.readingFor symbol su = .ok (m', r)) : Frame m m' := by
  obtain ⟨h', rfl, hlim⟩ := readingFor_moves h
  exact ⟨rfl, rfl, hlim⟩

/-- Under whole periods and a bound that keeps the last closes, a reading never
fails, in either mode. -/
theorem readingFor_ok (hm : m.Sound s) {symbol : Value} (hplain : symbol.IsPlain) (su : Quote.Summary) :
    ∃ m' r, m.readingFor symbol su = .ok (m', r) := by
  obtain ⟨p, hp⟩ := hm.whole
  obtain ⟨n, hn⟩ := hm.keeps
  unfold readingFor
  split
  · rw [History.update_of_keeps hplain.unhashableType? rfl m.history hn, Macd.Config.lastTwo_of_periods hp]
    exact ⟨_, _, rfl⟩
  · rw [Macd.Config.lastTwo_of_periods hp]
    exact ⟨_, _, rfl⟩

theorem intensityWith_ok {sat : Value}
    (hsat : ∃ x, Macd.divisor sat = .ok x ∧ Numeric.isZero x = false) (r : Macd.Reading Float)
    (lastClose : Float) : ∃ i, Macd.intensityWith r lastClose sat = .ok i := by
  obtain ⟨x, hx, hz⟩ := hsat
  unfold Macd.intensityWith
  split
  · simp only [hx, bind, Except.bind, Macd.shadeOf, hz, Bool.false_eq_true, if_false]
    exact ⟨_, rfl⟩
  · exact ⟨_, rfl⟩

/-- A failed row is not `ok`, and names its symbol. -/
theorem failedRow_not_ok {symbol : Value} {e : Fault} {row : Row} (h : failedRow symbol e = some row) :
    row.status ≠ .ok ∧ row.symbol = symbol := by
  unfold failedRow at h
  split at h <;> cases h <;> exact ⟨nofun, rfl⟩

/-- What settling a result does: the row names the symbol; a failure becomes a
row that is not `ok` and leaves the monitor as it is, a summary is read into an
`ok` row. -/
theorem settle_cases {symbol : Value} {result : Except Fault Value} {row : Row}
    (h : m.settle symbol result = .ok (m', row)) :
    row.symbol = symbol ∧ ((row.status ≠ .ok ∧ m' = m) ∨
      (row.status = .ok ∧ ∃ su r, row.summary = some su ∧ row.macd = some r ∧
        m.readingFor symbol su = .ok (m', r))) := by
  unfold settle at h
  split at h
  · split at h
    · rename_i hrow
      cases h
      obtain ⟨hne, hsym⟩ := failedRow_not_ok hrow
      exact ⟨hsym, .inl ⟨hne, rfl⟩⟩
    · cases h
  · rename_i su _
    obtain ⟨⟨m₂, reading⟩, hread, h⟩ := Except.ok_of_bind h
    obtain ⟨i, -, h⟩ := Except.ok_of_bind h
    cases h
    exact ⟨rfl, .inr ⟨rfl, su, reading, rfl, rfl, hread⟩⟩

theorem settle_frame {symbol : Value} {result : Except Fault Value} {row : Row}
    (h : m.settle symbol result = .ok (m', row)) : Frame m m' := by
  rcases (settle_cases h).2 with ⟨-, rfl⟩ | ⟨-, su, r, -, -, hread⟩
  · exact Frame.refl _
  · exact readingFor_frame hread

section Logged

variable (m : Monitor) (c : Feed.Client) (sent : Bool) (url : String)

@[simp] theorem settings_logged : (m.logged c sent url).settings = m.settings := rfl

@[simp] theorem config_logged : (m.logged c sent url).config = m.config := rfl

@[simp] theorem history_logged : (m.logged c sent url).history = m.history := rfl

@[simp] theorem client_logged : (m.logged c sent url).client = c := rfl

/-- The client's turn and the request's log change nothing a poll reads. -/
theorem Frame.logged : Frame m (m.logged c sent url) := ⟨rfl, rfl, rfl⟩

end Logged

/-- A symbol polled: it had an address, the client took its turn, and the
monitor after the turn settled the result. -/
theorem pollSymbol_cases {src : Feed.Source} {symbol : Value} {row : Row}
    (h : m.pollSymbol src symbol = .ok (m', row)) :
    ∃ url c sent result, Feed.chartUrl m.settings.feed m.settings.watchlist symbol = .ok url ∧
      m.client.fetch (src m.requests url) = .ok (c, sent, result) ∧
      (m.logged c sent url).settle symbol result = .ok (m', row) := by
  unfold pollSymbol at h
  obtain ⟨url, hurl, h⟩ := Except.ok_of_bind h
  obtain ⟨⟨c, sent, result⟩, hfetch, h⟩ := Except.ok_of_bind h
  exact ⟨url, c, sent, result, hurl, hfetch, h⟩

/-- A symbol polled with any answer changes only the client, the requests and
the series. -/
theorem pollSymbol_frame {src : Feed.Source} {symbol : Value} {row : Row}
    (h : m.pollSymbol src symbol = .ok (m', row)) : Frame m m' := by
  obtain ⟨url, c, sent, result, -, -, hsettle⟩ := pollSymbol_cases h
  exact (Frame.logged m c sent url).trans (settle_frame hsettle)

/-- Settling a result that agrees with a verdict, on a sound monitor, returns a
row that names the symbol and shows the verdict, and touches neither the
requests nor the client. -/
theorem settle_shows (hm : m.Sound s)
    (hsat : ∃ x, Macd.divisor s.indicators.crossSaturationPct = .ok x ∧ Numeric.isZero x = false)
    {symbol : Value} (hplain : symbol.IsPlain) {result : Except Fault Value} {v : Feed.Verdict}
    (hag : Feed.Agrees symbol (result >>= fun r => Quote.summarize r s.watchlist.intraday) v) :
    ∃ m' row, m.settle symbol result = .ok (m', row) ∧ m'.requests = m.requests ∧
      m'.client = m.client ∧ row.symbol = symbol ∧ row.Shows v := by
  unfold settle
  rw [hm.settings_eq]
  cases ho : (result >>= fun r => Quote.summarize r s.watchlist.intraday) with
  | error e =>
    rw [ho] at hag
    obtain ⟨row, hrow, hsym, hshow⟩ := hag
    exact ⟨m, row, by simp only [hrow], rfl, rfl, hsym, hshow⟩
  | ok su =>
    rw [ho] at hag
    obtain ⟨m₂, reading, hread⟩ := readingFor_ok hm hplain su
    obtain ⟨h₂, rfl, -⟩ := readingFor_moves hread
    obtain ⟨i, hi⟩ := intensityWith_ok hsat reading su.lastClose
    refine ⟨{ m with history := h₂ },
      { symbol, status := .ok, summary := some su, macd := some reading, intensity := i }, ?_, rfl, rfl,
      rfl, ?_⟩
    · simp only [bind, Except.bind, hread, hm.settings_eq, hi]
      rfl
    · rw [hag]
      exact ⟨rfl, rfl, rfl⟩

/-- **One symbol.** For a sound monitor, a plain symbol with an address, a turn
of the client that lets the request go, and a readable answer, polling the
symbol returns: it logs the request, moves the client on by the turn, and its
row names the symbol and shows the verdict on the answer. -/
theorem pollSymbol_shows (hm : m.Sound s)
    (hsat : ∃ x, Macd.divisor s.indicators.crossSaturationPct = .ok x ∧ Numeric.isZero x = false)
    {symbol : Value} (hplain : symbol.IsPlain) {url : String}
    (hurl : Feed.chartUrl s.feed s.watchlist symbol = .ok url) (src : Feed.Source)
    (hr : (src m.requests url).Readable) {c : Feed.Client} (hturn : m.client.acquire = .ok (c, true)) :
    ∃ m' row, m.pollSymbol src symbol = .ok (m', row) ∧ m'.requests = m.requests ++ [url] ∧
      m'.client = c ∧ row.symbol = symbol ∧ row.Shows ((src m.requests url).verdict s.watchlist.intraday) := by
  have hlogged : Sound s (m.logged c true url) := hm.of_frame (Frame.logged m c true url)
  obtain ⟨m', row, hsettle, hreq, hclient, hsym, hshow⟩ :=
    settle_shows hlogged hsat hplain (Feed.outcome_agrees hr symbol s.watchlist.intraday)
  refine ⟨m', row, ?_, hreq, hclient, hsym, hshow⟩
  unfold pollSymbol
  rw [hm.settings_eq, hurl, Except.ok_bind, Feed.Client.fetch_of_acquire hturn, Except.ok_bind]
  exact hsettle

/-- A symbol polled once the stop event is set: its request is not sent, its
row is a failed one, and the monitor is as it was. -/
theorem pollSymbol_of_stopped (hstop : m.client.stop = some true) {src : Feed.Source} {symbol : Value}
    {url : String} (hurl : Feed.chartUrl m.settings.feed m.settings.watchlist symbol = .ok url) :
    ∃ row, m.pollSymbol src symbol = .ok (m, row) ∧ row.symbol = symbol ∧ row.Shows .failed := by
  have hturn : m.client.acquire = .ok (m.client, false) := by
    simp [Feed.Client.acquire, hstop]
  refine ⟨{ symbol, status := .fetchFailed, error := .str "Failed to fetch data" }, ?_, rfl, rfl, rfl⟩
  unfold pollSymbol
  rw [hurl, Except.ok_bind, Feed.Client.fetch_of_acquire hturn, Except.ok_bind]
  rfl

/-! ## Every symbol -/

/-- What each symbol's poll keeps of the monitor and the rows so far, the
symbols polled in turn keep. -/
theorem foldlM_pollStep_induct {src : Feed.Source} (P : Monitor × List Row → Prop)
    (hstep : ∀ acc symbol m' row, P acc → acc.1.pollSymbol src symbol = .ok (m', row) →
      P (m', acc.2 ++ [row]))
    (symbols : List Value) {acc acc' : Monitor × List Row} (hP : P acc)
    (h : symbols.foldlM (pollStep src) acc = .ok acc') : P acc' := by
  induction symbols generalizing acc with
  | nil =>
    cases h
    exact hP
  | cons symbol symbols ih =>
    rw [List.foldlM_cons] at h
    obtain ⟨acc₁, h₁, h⟩ := Except.ok_of_bind h
    unfold pollStep at h₁
    obtain ⟨⟨m₁, row⟩, hpoll, h₁⟩ := Except.ok_of_bind h₁
    cases h₁
    exact ih (hstep acc symbol m₁ row hP hpoll) h

/-- What each symbol's poll keeps, and counting the poll, a poll that returns
keeps: its rows are those of its symbols, from none. -/
theorem pollOnce_induct {src : Feed.Source} (P : Monitor → List Row → Prop)
    (hstep : ∀ m₁ rows₁ symbol m₂ row, P m₁ rows₁ → m₁.pollSymbol src symbol = .ok (m₂, row) →
      P m₂ (rows₁ ++ [row]))
    (hcount : ∀ m₁ rows₁, P m₁ rows₁ → P { m₁ with polls := m₁.polls + 1 } rows₁)
    {rows : List Row} (hP : P m []) (h : m.pollOnce src = .ok (m', rows)) : P m' rows := by
  unfold pollOnce at h
  obtain ⟨given, -, h⟩ := Except.ok_of_bind h
  dsimp only at h
  split at h
  · obtain ⟨symbols, -, h⟩ := Except.ok_of_bind h
    obtain ⟨fewer, -, h⟩ := Except.ok_of_bind h
    obtain ⟨pool, -, h⟩ := Except.ok_of_bind h
    obtain ⟨⟨m₁, rows₁⟩, hfold, h⟩ := Except.ok_of_bind h
    cases h
    have hfolded : P m₁ rows₁ :=
      foldlM_pollStep_induct (fun acc => P acc.1 acc.2)
        (fun acc symbol m₂ row hacc hpoll => hstep acc.1 acc.2 symbol m₂ row hacc hpoll) symbols hP hfold
    exact hcount m₁ rows₁ hfolded
  · cases h

/-- A poll that returns, whatever the answers, changes only the requests, the
series and the count of polls. -/
theorem pollOnce_frame {src : Feed.Source} {rows : List Row} (h : m.pollOnce src = .ok (m', rows)) :
    Frame m m' :=
  pollOnce_induct (fun m₁ _ => Frame m m₁)
    (fun _ _ _ _ _ hframe hpoll => hframe.trans (pollSymbol_frame hpoll))
    (fun _ _ hframe => hframe) (Frame.refl m) h

theorem pollOnce_sound {src : Feed.Source} {rows : List Row} (hm : m.Sound s)
    (h : m.pollOnce src = .ok (m', rows)) : m'.Sound s :=
  hm.of_frame (pollOnce_frame h)

/-- Polling the symbols one after another: from a sound monitor whose client
grants a turn to each, and readable answers, each symbol gives its row, in
order, showing the verdict on the answer to its request. -/
theorem foldlM_pollStep_shows
    (hsat : ∃ x, Macd.divisor s.indicators.crossSaturationPct = .ok x ∧ Numeric.isZero x = false)
    {src : Feed.Source} (hsrc : ∀ past url, (src past url).Readable) (syms : List String)
    {urls : List String} (hurls : syms.mapM (fun t => Feed.chartUrl s.feed s.watchlist (.str t)) = .ok urls)
    (hm : m.Sound s) (hgrants : m.client.Grants syms.length) (rows₀ : List Row) :
    ∃ m' rows, (syms.map .str).foldlM (pollStep src) (m, rows₀) = .ok (m', rows₀ ++ rows) ∧
      List.Forall₂ (Row.Answers s.watchlist.intraday) rows (syms.zip (Feed.answersTo src m.requests urls)) := by
  induction syms generalizing urls m rows₀ with
  | nil =>
    cases hurls
    exact ⟨m, [], by rw [List.map_nil, List.foldlM_nil, List.append_nil]; rfl, .nil⟩
  | cons t syms ih =>
    rw [List.mapM_cons] at hurls
    obtain ⟨url, hurl, hurls⟩ := Except.ok_of_bind hurls
    obtain ⟨urls', hurls', hcons⟩ := Except.ok_of_bind hurls
    cases hcons
    -- the symbol takes the first of the turns granted
    obtain ⟨c, hturn, hrest⟩ := hgrants
    obtain ⟨m₁, row, hpoll, hreq, hclient, hsym, hshow⟩ :=
      pollSymbol_shows hm hsat (Value.isPlain_str t) hurl src (hsrc _ _) hturn
    have hstep : pollStep src (m, rows₀) (.str t) = .ok (m₁, rows₀ ++ [row]) := by
      rw [pollStep, hpoll]
      rfl
    obtain ⟨m', rows, hfold, hrows⟩ :=
      ih hurls' (hm.of_frame (pollSymbol_frame hpoll)) (hclient ▸ hrest) (rows₀ ++ [row])
    refine ⟨m', row :: rows, ?_, ?_⟩
    · rw [List.map_cons, List.foldlM_cons, hstep, Except.ok_bind, hfold, List.append_assoc]
      rfl
    · rw [hreq] at hrows
      exact .cons ⟨hsym, hshow⟩ hrows

/-- **A poll.** A sound monitor for accepted settings whose watchlist is the
texts `syms`, and whose client grants a turn to each, polls every symbol once,
with readable answers, and returns the rows: one per symbol, in order, each
showing the verdict on the answer to its request. -/
theorem pollOnce_shows (hm : m.Sound s) (ha : s.Accepted) {syms : List String}
    (hsyms : s.watchlist.symbols = some (.list (syms.map .str)))
    (hsat : ∃ x, Macd.divisor s.indicators.crossSaturationPct = .ok x ∧ Numeric.isZero x = false)
    {urls : List String} (hurls : syms.mapM (fun t => Feed.chartUrl s.feed s.watchlist (.str t)) = .ok urls)
    (hgrants : m.client.Grants syms.length) {src : Feed.Source} (hsrc : ∀ past url, (src past url).Readable) :
    ∃ m' rows, m.pollOnce src = .ok (m', rows) ∧
      List.Forall₂ (Row.Answers s.watchlist.intraday) rows (syms.zip (Feed.answersTo src m.requests urls)) := by
  obtain ⟨m', rows, hfold, hrows⟩ := foldlM_pollStep_shows hsat hsrc syms hurls hm hgrants []
  -- the size of the pool compares the number of symbols with the configured workers, a number
  obtain ⟨⟨w, hw⟩, -⟩ := Value.num?_of_test ha.workers_pos
  have hcount : ∃ fewer, (Value.int (syms.map Value.str).length).test .lt s.watchlist.fetchWorkers =
      .ok fewer := Value.test_of_num? ⟨_, rfl⟩ ⟨w, hw⟩ .lt
  obtain ⟨fewer, hfewer⟩ := hcount
  have hpool : ∃ r, (if fewer = true then Value.int (syms.map Value.str).length
      else s.watchlist.fetchWorkers).test .le (.int 1) = .ok r := by
    cases fewer
    · exact Value.test_of_num? ⟨w, hw⟩ ⟨_, rfl⟩ .le
    · exact Value.test_of_num? ⟨_, rfl⟩ ⟨_, rfl⟩ .le
  obtain ⟨r, hr⟩ := hpool
  refine ⟨{ m' with polls := m'.polls + 1 }, rows, ?_, hrows⟩
  rw [List.nil_append] at hfold
  unfold pollOnce
  dsimp only
  rw [hm.settings_eq, Settings.Watchlist.symbolsValue, hsyms]
  simp only [Except.ok_bind, Value.elements?, pure_bind]
  rw [hfewer, Except.ok_bind, hr, Except.ok_bind, hfold, Except.ok_bind]
  rfl

/-! ## Every poll -/

/-- A run of polls that returned, each with its own feed: from `m` to `m'`,
with the rows of the polls in the order they were made. -/
inductive Polled : Monitor → List Row → Monitor → Prop
  | nil (m : Monitor) : Polled m [] m
  | poll {m m₁ m₂ : Monitor} {rows rest : List Row} (src : Feed.Source) :
      m.pollOnce src = .ok (m₁, rows) → Polled m₁ rest m₂ → Polled m (rows ++ rest) m₂

/-- The monitors that polls which returned lead to. -/
def Reaches (m m' : Monitor) : Prop := ∃ rows, Polled m rows m'

/-- Every monitor a run of polls leads to from a sound one is sound. -/
theorem Polled.sound {rows : List Row} (hr : Polled m rows m') : m.Sound s → m'.Sound s := by
  induction hr with
  | nil => exact id
  | poll src hpoll _ ih => exact fun hm => ih (pollOnce_sound hm hpoll)

/-- **Polls follow the answers.** For settings the checks accept, whose periods
and session bound are whole numbers, whose slow and signal periods have at
most `Text.maxDigits` digits, whose rate and burst make a bucket, whose
watchlist is the texts `syms` without surrogates, whose base address is a
text, whose query can be written and whose saturation reads as a double other
than zero: the monitor is made, and every poll of it, after any polls that
returned, returns too when its client grants a turn to each symbol and the
answers are readable, with one row per symbol of the watchlist in order, each
naming its symbol and showing the verdict on the answer to its request. -/
theorem pollOnce_rows_follow_answers {s : Settings} {syms : List String} {f sl g mp : Int}
    (hv : s.validate = .ok ()) (hf : s.indicators.fastPeriod = .int f)
    (hsl : s.indicators.slowPeriod = .int sl) (hg : s.indicators.signalPeriod = .int g)
    (hmp : s.indicators.sessionMaxPoints = .int mp)
    (hdigits : sl.natAbs < 10 ^ Text.maxDigits ∧ g.natAbs < 10 ^ Text.maxDigits)
    (hbucket : ∃ b, Bucket.ofSettings s.feed.rateLimitCallsPerMinute s.feed.burstLimit 0.0 = .ok b)
    (hsyms : s.watchlist.symbols = some (.list (syms.map .str)))
    (htext : ∀ t ∈ syms, Feed.NoSurrogate t)
    (hbase : ∃ b, s.feed.baseUrl = .str b) (hquery : ∃ q, Feed.chartQuery s.watchlist = .ok q)
    (hsat : ∃ x, Macd.divisor s.indicators.crossSaturationPct = .ok x ∧ Numeric.isZero x = false) :
    ∃ m₀, Monitor.make s = .ok m₀ ∧
      ∀ m, m₀.Reaches m → m.client.Grants syms.length →
        ∀ src : Feed.Source, (∀ past url, (src past url).Readable) →
          ∃ urls m' rows, syms.mapM (fun t => Feed.chartUrl s.feed s.watchlist (.str t)) = .ok urls ∧
            m.pollOnce src = .ok (m', rows) ∧
            List.Forall₂ (Row.Answers s.watchlist.intraday) rows
              (syms.zip (Feed.answersTo src m.requests urls)) := by
  have ha := Settings.accepted_of_validate hv
  obtain ⟨b, hb⟩ := hbucket
  obtain ⟨l, hl, hmake⟩ := make_of_accepted ha hmp (Feed.Client.make_of_bucket hb (some false))
    (periodsText_of_accepted ha hf hsl hg hdigits)
  refine ⟨_, hmake, fun m hreach hgrants src hsrc => ?_⟩
  -- the monitor as made is sound, and so is every monitor it reaches
  have h₀ : Sound s ⟨s, ⟨s.indicators.fastPeriod, s.indicators.slowPeriod, s.indicators.signalPeriod⟩,
      ⟨l, []⟩, [], 0, ⟨b, 0.0, some false⟩⟩ := by
    refine ⟨rfl, ⟨⟨f, sl, g⟩, ?_⟩, ⟨_, hl⟩⟩
    simp [Macd.Config.periods?, hf, hsl, hg, Value.whole?]
  obtain ⟨urls, hurls⟩ := Feed.chartUrls_of_texts hbase hquery htext
  obtain ⟨earlier, hrun⟩ := hreach
  obtain ⟨m', rows, hpoll, hrows⟩ := pollOnce_shows (hrun.sound h₀) ha hsyms hsat hurls hgrants hsrc
  exact ⟨urls, m', rows, hurls, hpoll, hrows⟩

/-- The default settings poll that way. -/
theorem standard_polls_follow_answers :
    ∃ m₀, Monitor.make Settings.standard = .ok m₀ ∧
      ∀ m, m₀.Reaches m → m.client.Grants 7 →
        ∀ src : Feed.Source, (∀ past url, (src past url).Readable) →
          ∃ urls m' rows,
            ["AAPL", "GOOGL", "TSLA", "MSFT", "NVDA", "BTC-USD", "ETH-USD"].mapM
              (fun t => Feed.chartUrl Settings.standard.feed Settings.standard.watchlist (.str t)) = .ok urls ∧
            m.pollOnce src = .ok (m', rows) ∧
            List.Forall₂ (Row.Answers Settings.standard.watchlist.intraday) rows
              (["AAPL", "GOOGL", "TSLA", "MSFT", "NVDA", "BTC-USD", "ETH-USD"].zip
                (Feed.answersTo src m.requests urls)) :=
  @pollOnce_rows_follow_answers Settings.standard
    ["AAPL", "GOOGL", "TSLA", "MSFT", "NVDA", "BTC-USD", "ETH-USD"] 12 26 9 0 rfl rfl rfl rfl rfl
    ⟨by decide +kernel, by decide +kernel⟩ ⟨_, rfl⟩ rfl (by decide)
    ⟨_, rfl⟩ ⟨_, rfl⟩ ⟨0.5, rfl, by decide⟩

/-- A monitor made and polled once, found by evaluation to fail with a fault
of the family and message given. -/
theorem poll_fault_of_check {s : Settings} {src : Feed.Source} {fam : Family} {msg : String}
    (h : (Monitor.make s).toOption.map (fun m₀ => Fault.failsWith (m₀.pollOnce src) fam msg) =
      some true) :
    ∃ m₀, Monitor.make s = .ok m₀ ∧
      ∃ f, m₀.pollOnce src = .error f ∧ f.family = fam ∧ f.message = msg := by
  cases hmake : Monitor.make s with
  | error e =>
    rw [hmake] at h
    exact nomatch h
  | ok m₀ =>
    rw [hmake] at h
    exact ⟨m₀, rfl, Fault.exists_of_failsWith (Option.some.inj h)⟩

/-- Two symbols, a bucket of one token and a rate of `1e-12` a minute: the
second request of a poll would wait two million years. -/
def tinyRate : Settings :=
  { Settings.standard with
    watchlist := { Settings.Watchlist.standard with symbols := some (.list [.str "A", .str "B"]) }
    feed := { Settings.Feed.standard with rateLimitCallsPerMinute := .float 1e-12, burstLimit := .int 1 } }

/-- The standard settings with a slow period of `10 ^ Text.maxDigits`, one
digit more than a whole number is written with. -/
def longSlowPeriod : Settings :=
  { Settings.standard with
    indicators := { Settings.Indicators.standard with slowPeriod := .int (10 ^ Text.maxDigits) } }

/-- Each condition is needed. The checks leave the feed alone: a base address
that is a number passes them and the first poll fails on it, whatever the feed
answers; a burst of zero passes them and the monitor is not made; and at a
tiny rate the monitor is made but the second request's wait is too long to
time. Nor do they bound the digits of a period: a slow period of
`10 ^ Text.maxDigits` passes them, and the monitor cannot report it. -/
theorem poll_fails_without_conditions :
    (∃ s : Settings, s.feed.baseUrl = .int 5 ∧ s.validate = .ok () ∧ ∃ m₀, Monitor.make s = .ok m₀ ∧
      ∃ f, m₀.pollOnce (fun _ _ => .raised "down") = .error f ∧ f.family = .noAttribute ∧
        f.message = "'int' object has no attribute 'rstrip'") ∧
    (∃ s : Settings, s.feed.burstLimit = .int 0 ∧ s.validate = .ok () ∧
      Monitor.make s = .error .rateNotPositive) ∧
    (tinyRate.validate = .ok () ∧ ∃ m₀, Monitor.make tinyRate = .ok m₀ ∧
      ∃ f, m₀.pollOnce (fun _ _ => .raised "down") = .error f ∧ f.family = .overflow ∧
        f.message = "timestamp too large to convert to C _PyTime_t") ∧
    (longSlowPeriod.validate = .ok () ∧ ∃ f, Monitor.make longSlowPeriod = .error f ∧
      f.family = .badValue ∧
      f.message = "Exceeds the limit (4300 digits) for integer string conversion; " ++
        "use sys.set_int_max_str_digits() to increase the limit") :=
  ⟨⟨{ Settings.standard with feed := { Settings.Feed.standard with baseUrl := .int 5 } }, rfl, rfl,
      poll_fault_of_check (by decide +kernel)⟩,
    ⟨{ Settings.standard with feed := { Settings.Feed.standard with burstLimit := .int 0 } }, rfl, rfl, rfl⟩,
    ⟨rfl, poll_fault_of_check (by decide +kernel)⟩,
    ⟨Except.eq_ok_of_isOk (by decide +kernel), Fault.exists_of_failsWith (by decide +kernel)⟩⟩

end Monitor

end QuoteMomentum
