import Mathlib.Logic.Function.Basic
import QuoteMomentum.Proofs.Session

/-!
# Polling the watchlist in any order

A pool of workers may run the symbols' polls of one poll in any order, each
symbol's request and session update as one step (`Monitor.pollJobs`). When the
symbols of the watchlist are distinct and the feed answers each address the
same whatever was asked before, the order does not matter: every order fails
when one does, and otherwise each position of the watchlist gets the same row
and every symbol the same series as when the symbols are polled one after
another; only the order in which the history registered the symbols, and the
order of the requests, may differ (`Monitor.Matches`,
`Monitor.polls_in_any_order_agree`). A symbol listed twice breaks this in
session mode: both polls append to one series, and which of the two rows sees
the longer series depends on the order
(`Monitor.duplicate_symbol_rows_depend_on_order`).

The argument has three steps:

* a symbol's poll is the client's turn, which reads nothing of the symbol
  (`Monitor.pollSymbol_of_acquire`), then a poll with that turn's outcome,
  which reads of the history only that symbol's series and the bound, and
  either leaves the history as it is or registers the symbol and replaces its
  series (`Monitor.pollTurn_local`);
* two such moves on different symbols commute, up to the order of
  registration (`History.after_comm`); the two turns come in the same order
  either way and let both requests go or neither
  (`Feed.Client.sent_of_acquire_acquire`), so two polls of different symbols
  commute (`Monitor.pollJobs_swap`);
* a permutation is a chain of swaps (`Monitor.pollJobs_perm`), and the order
  of the watchlist is the polls one after another (`Monitor.pollJobs_zipIdx`).
-/

namespace QuoteMomentum

namespace History

/-! ## What a poll does to the history -/

/-- The history after a symbol's poll: as it was, or with the symbol
registered and its series replaced by `xs`. -/
def after (h : History) (sym : Value) : Option (List Float) → History
  | none => h
  | some xs => (h.enroll sym).put sym xs

/-- Two histories alike up to the order of registration: the same bound, the
same series for every symbol, and the same symbols registered. -/
structure Similar (h h' : History) : Prop where
  limit_eq : h'.limit = h.limit
  closes_eq : ∀ t, h'.closesOf t = h.closesOf t
  symbols_perm : h'.symbols.Perm h.symbols

theorem Similar.refl (h : History) : Similar h h := ⟨rfl, fun _ => rfl, List.Perm.refl _⟩

theorem Similar.trans {h₁ h₂ h₃ : History} (h₁₂ : Similar h₁ h₂) (h₂₃ : Similar h₂ h₃) :
    Similar h₁ h₃ :=
  ⟨h₂₃.limit_eq.trans h₁₂.limit_eq, fun t => (h₂₃.closes_eq t).trans (h₁₂.closes_eq t),
    h₂₃.symbols_perm.trans h₁₂.symbols_perm⟩

variable {sym : Value}

@[simp] theorem limit_after (h : History) (sym : Value) (xs : Option (List Float)) :
    (h.after sym xs).limit = h.limit := by
  cases xs <;> simp [after]

open Classical in
theorem closesOf_after (hs : sym.IsPlain) (h : History) (xs : List Float) (t : Value) :
    (h.after sym (some xs)).closesOf t = if t = sym then xs else h.closesOf t := by
  simp only [after, closesOf_put hs, closesOf_enroll]
  by_cases ht : t = sym
  · simp [ht, (hs.sameKey_iff sym).mpr rfl]
  · have hk : sym.sameKey t = false := Bool.eq_false_iff.mpr fun hk => ht ((hs.sameKey_iff t).mp hk)
    simp [ht, hk]

open Classical in
/-- A poll that writes a series registers its symbol last, unless it is
there. -/
theorem symbols_after (hs : sym.IsPlain) (h : History) (xs : List Float) :
    (h.after sym (some xs)).symbols = if sym ∈ h.symbols then h.symbols else h.symbols ++ [sym] := by
  simp only [after, symbols_put_enroll hs, symbols_enroll]
  have hmem : (lookup h.entries sym).isSome = true ↔ sym ∈ h.symbols := isSome_lookup_iff hs h.entries
  by_cases hin : sym ∈ h.symbols
  · simp [hmem.mpr hin, hin]
  · have hnone : (lookup h.entries sym).isSome = false := Bool.eq_false_iff.mpr fun hl => hin (hmem.mp hl)
    simp [hnone, hin]

theorem mem_symbols_after (hs : sym.IsPlain) (h : History) (xs : List Float) (t : Value) :
    t ∈ (h.after sym (some xs)).symbols ↔ t ∈ h.symbols ∨ t = sym := by
  rw [symbols_after hs]
  split
  · rename_i hin
    exact ⟨.inl, fun ht => ht.elim id (fun e => e ▸ hin)⟩
  · simp

/-- Histories alike stay alike after the same move. -/
theorem Similar.after {h h' : History} (hsim : Similar h h') (hs : sym.IsPlain)
    (xs : Option (List Float)) : Similar (h.after sym xs) (h'.after sym xs) := by
  cases xs with
  | none => exact hsim
  | some xs =>
    refine ⟨by simp [hsim.limit_eq], fun t => ?_, ?_⟩
    · rw [closesOf_after hs, closesOf_after hs, hsim.closes_eq]
    · -- the symbol is registered in one exactly when in the other
      have hmem : sym ∈ h'.symbols ↔ sym ∈ h.symbols := hsim.symbols_perm.mem_iff
      rw [symbols_after hs, symbols_after hs]
      by_cases hin : sym ∈ h.symbols
      · simpa [hin, hmem.mpr hin] using hsim.symbols_perm
      · have hin' : sym ∉ h'.symbols := fun h' => hin (hmem.mp h')
        simpa [hin, hin'] using hsim.symbols_perm.append_right [sym]

open Classical in
/-- Moves on different symbols commute, up to the order in which the two
symbols are registered. -/
theorem after_comm {a b : Value} (ha : a.IsPlain) (hb : b.IsPlain) (hab : a ≠ b) (h : History)
    (xa xb : Option (List Float)) :
    Similar ((h.after a xa).after b xb) ((h.after b xb).after a xa) := by
  cases xa with
  | none => exact Similar.refl _
  | some xa =>
    cases xb with
    | none => exact Similar.refl _
    | some xb =>
      refine ⟨by simp, fun t => ?_, ?_⟩
      · simp only [closesOf_after ha, closesOf_after hb]
        by_cases hta : t = a
        · subst hta
          simp [hab]
        · simp [hta]
      · -- each symbol goes last unless it is there already; the two go in
        -- either order
        have hma : a ∈ (h.after b (some xb)).symbols ↔ a ∈ h.symbols := by
          rw [mem_symbols_after hb]
          exact or_iff_left hab
        have hmb : b ∈ (h.after a (some xa)).symbols ↔ b ∈ h.symbols := by
          rw [mem_symbols_after ha]
          exact or_iff_left hab.symm
        rw [symbols_after ha (h.after b (some xb)), symbols_after hb (h.after a (some xa)),
          if_congr hma rfl rfl, if_congr hmb rfl rfl, symbols_after ha h, symbols_after hb h]
        by_cases hina : a ∈ h.symbols <;> by_cases hinb : b ∈ h.symbols
        · simp [hina, hinb]
        · simp [hina, hinb]
        · simp [hina, hinb]
        · simp only [hina, hinb, if_false, List.append_assoc, List.singleton_append]
          exact (List.Perm.swap a b []).append_left h.symbols

/-- An update of a plain symbol, whatever its price and bound: it registers
the symbol, reads the price, appends it to the symbol's series and cuts the
series to the bound, and computes on the series after. -/
theorem update_eq {β : Type} (hs : sym.IsPlain) (h : History) (p : Value)
    (f : List Float → Except Fault β) :
    h.update sym p f =
      match p.toDouble with
      | .error e => (h.enroll sym, .error e)
      | .ok x =>
        match h.limit.cut (h.closesOf sym ++ [x]) with
        | .error e => ((h.enroll sym).put sym (h.closesOf sym ++ [x]), .error e)
        | .ok ys => ((h.enroll sym).put sym ys, f ys) := by
  simp only [update, append, register_eq hs.unhashableType?, limit_enroll]
  cases p.toDouble with
  | error e => rfl
  | ok x =>
    dsimp only
    cases h.limit.cut (h.closesOf sym ++ [x]) with
    | error e => rfl
    | ok ys => rfl

/-- An update reads of the history only the bound and the symbol's own
series: on two histories that agree on those it gives the same, and when it
succeeds it writes the same series into both. -/
theorem update_local {β : Type} (hs : sym.IsPlain) {h h' : History} (hlim : h'.limit = h.limit)
    (hcl : h'.closesOf sym = h.closesOf sym) (p : Value) (f : List Float → Except Fault β) :
    (h'.update sym p f).2 = (h.update sym p f).2 ∧
      ∀ y, (h.update sym p f).2 = .ok y →
        ∃ xs, (h.update sym p f).1 = h.after sym (some xs) ∧
          (h'.update sym p f).1 = h'.after sym (some xs) := by
  rw [update_eq hs h, update_eq hs h', hlim, hcl]
  cases p.toDouble with
  | error e => exact ⟨rfl, fun _ hy => nomatch hy⟩
  | ok x =>
    dsimp only
    cases h.limit.cut (h.closesOf sym ++ [x]) with
    | error e => exact ⟨rfl, fun _ hy => nomatch hy⟩
    | ok ys => exact ⟨rfl, fun _ _ => ⟨ys, rfl, rfl⟩⟩

end History

namespace Monitor

variable {m m' : Monitor} {sym : Value}

/-- Two monitors that agree on what a symbol's poll reads: the settings, the
indicator, the bound of the history and the symbol's series. -/
structure SameFor (sym : Value) (m m' : Monitor) : Prop where
  settings_eq : m'.settings = m.settings
  config_eq : m'.config = m.config
  limit_eq : m'.history.limit = m.history.limit
  closes_eq : m'.history.closesOf sym = m.history.closesOf sym

theorem SameFor.refl (sym : Value) (m : Monitor) : SameFor sym m m := ⟨rfl, rfl, rfl, rfl⟩

theorem SameFor.symm (hm : SameFor sym m m') : SameFor sym m' m :=
  ⟨hm.settings_eq.symm, hm.config_eq.symm, hm.limit_eq.symm, hm.closes_eq.symm⟩

theorem SameFor.trans {m₁ m₂ m₃ : Monitor} (h₁₂ : SameFor sym m₁ m₂) (h₂₃ : SameFor sym m₂ m₃) :
    SameFor sym m₁ m₃ :=
  ⟨h₂₃.settings_eq.trans h₁₂.settings_eq, h₂₃.config_eq.trans h₁₂.config_eq,
    h₂₃.limit_eq.trans h₁₂.limit_eq, h₂₃.closes_eq.trans h₁₂.closes_eq⟩

/-- A poll that returns was made for a text or a byte string. -/
theorem isPlain_of_pollSymbol {src : Feed.Source} {p : Monitor × Row}
    (h : m.pollSymbol src sym = .ok p) : sym.IsPlain := by
  unfold pollSymbol at h
  obtain ⟨url, hurl, -⟩ := Except.ok_of_bind h
  exact Feed.isPlain_of_chartUrl hurl

/-- A reading reads of the monitor only what `SameFor` keeps: on two monitors
that agree on it, both readings fail alike, or both give the same reading and
leave each history as the same move leaves it. -/
theorem readingFor_local (hs : sym.IsPlain) (hm : SameFor sym m m') (su : Quote.Summary) :
    (∃ e, m.readingFor sym su = .error e ∧ m'.readingFor sym su = .error e) ∨
      ∃ r xs, m.readingFor sym su = .ok ({ m with history := m.history.after sym xs }, r) ∧
        m'.readingFor sym su = .ok ({ m' with history := m'.history.after sym xs }, r) := by
  obtain ⟨s, c, h, req, n, cl⟩ := m
  obtain ⟨s', c', h', req', n', cl'⟩ := m'
  obtain ⟨hs', hc', hlim, hcl⟩ := hm
  dsimp only at hs' hc' hlim hcl
  subst hs' hc'
  -- the mode is read off the settings, which the two share
  have hmode : Monitor.sessionMode ⟨s', c', h', req', n', cl'⟩ =
      Monitor.sessionMode ⟨s', c', h, req, n, cl⟩ :=
    rfl
  unfold readingFor
  rw [hmode]
  split
  · -- session mode: the update of the symbol's series
    obtain ⟨hsame, hwrite⟩ := History.update_local hs hlim hcl
      (.float su.lastClose) fun xs => c'.lastTwo xs (some su.lastClose)
    generalize h.update sym (.float su.lastClose) (fun xs => c'.lastTwo xs (some su.lastClose)) = u
      at hsame hwrite ⊢
    generalize h'.update sym (.float su.lastClose) (fun xs => c'.lastTwo xs (some su.lastClose)) = u'
      at hsame hwrite ⊢
    obtain ⟨h₁, r⟩ := u
    obtain ⟨h₁', r'⟩ := u'
    dsimp only at hsame hwrite ⊢
    subst hsame
    cases r' with
    | error e => exact .inl ⟨e, rfl, rfl⟩
    | ok y =>
      obtain ⟨xs, rfl, rfl⟩ := hwrite y rfl
      exact .inr ⟨y, some xs, rfl, rfl⟩
  · -- chart mode: the summary's own closes, and the history as it is
    cases c'.lastTwo su.closes (some su.lastClose) with
    | error e => exact .inl ⟨e, rfl, rfl⟩
    | ok y => exact .inr ⟨y, none, rfl, rfl⟩

/-! ## The client's turn, then the poll -/

/-- A symbol's poll once the client's turn is known: the client after the turn
is `c`, and `sent` says whether the request went. -/
def pollTurn (m : Monitor) (src : Feed.Source) (c : Feed.Client) (sent : Bool) (sym : Value) :
    Except Fault (Monitor × Row) := do
  let url ← Feed.chartUrl m.settings.feed m.settings.watchlist sym
  (m.logged c sent url).settle sym
    (if sent then Feed.resultOf (src m.requests url) else .error (.feed .cancelled))

variable {src : Feed.Source}

/-- A poll is the client's turn, which reads nothing of the symbol, and then the
poll with the turn's outcome. -/
theorem pollSymbol_of_acquire {c : Feed.Client} {sent : Bool} (h : m.client.acquire = .ok (c, sent))
    (src : Feed.Source) (sym : Value) : m.pollSymbol src sym = m.pollTurn src c sent sym := by
  unfold pollSymbol pollTurn
  cases Feed.chartUrl m.settings.feed m.settings.watchlist sym with
  | error e => rfl
  | ok url => rw [Except.ok_bind, Except.ok_bind, Feed.Client.fetch_of_acquire h, Except.ok_bind]

/-- A turn that fails fails the poll, whatever the symbol. -/
theorem pollSymbol_of_acquire_error {e : Fault} (h : m.client.acquire = .error e) (src : Feed.Source)
    (sym : Value) : ∃ e', m.pollSymbol src sym = .error e' := by
  unfold pollSymbol
  cases Feed.chartUrl m.settings.feed m.settings.watchlist sym with
  | error e' => exact ⟨e', rfl⟩
  | ok url => exact ⟨e, by simp [Feed.Client.fetch, h, bind, Except.bind]⟩

/-- A poll with a turn's outcome reads of the monitor only what `SameFor`
keeps, and of the feed only the answer to its address: on two monitors that
agree, with a feed that answers an address the same whatever was asked before,
and turns that both let the request go or both do not, both polls fail alike,
or both give the same row, log the same address and move each history alike;
each monitor takes its own client after the turn. -/
theorem pollTurn_local (hsrc : ∀ past past' url, src past url = src past' url) (hm : SameFor sym m m')
    (c c' : Feed.Client) (sent : Bool) :
    (∃ e, m.pollTurn src c sent sym = .error e ∧ m'.pollTurn src c' sent sym = .error e) ∨
      ∃ url row xs,
        m.pollTurn src c sent sym =
          .ok ({ m.logged c sent url with history := m.history.after sym xs }, row) ∧
        m'.pollTurn src c' sent sym =
          .ok ({ m'.logged c' sent url with history := m'.history.after sym xs }, row) := by
  obtain ⟨s, cfg, h, req, n, cl⟩ := m
  obtain ⟨s', cfg', h', req', n', cl'⟩ := m'
  obtain ⟨hs', hc', hlim, hcl⟩ := hm
  dsimp only at hs' hc' hlim hcl
  subst hs' hc'
  unfold pollTurn settle
  simp only [settings_logged]
  cases hurl : Feed.chartUrl s'.feed s'.watchlist sym with
  | error e => exact .inl ⟨e, rfl, rfl⟩
  | ok url =>
    have hs : sym.IsPlain := Feed.isPlain_of_chartUrl hurl
    simp only [Except.ok_bind]
    -- the feed gives both the same answer
    rw [hsrc req' req url]
    cases ho : ((if sent then Feed.resultOf (src req url) else .error (.feed .cancelled)) >>=
        fun r => Quote.summarize r s'.watchlist.intraday) with
    | error e =>
      dsimp only
      cases failedRow sym e with
      | none => exact .inl ⟨e, rfl, rfl⟩
      | some row => exact .inr ⟨url, row, none, rfl, rfl⟩
    | ok su =>
      dsimp only
      have hlogged : SameFor sym (Monitor.logged ⟨s', cfg', h, req, n, cl⟩ c sent url)
          (Monitor.logged ⟨s', cfg', h', req', n', cl'⟩ c' sent url) :=
        ⟨rfl, rfl, hlim, hcl⟩
      rcases readingFor_local hs hlogged su with ⟨e, he, he'⟩ | ⟨r, xs, hr, hr'⟩
      · exact .inl ⟨e, by rw [he]; rfl, by rw [he']; rfl⟩
      · simp only [hr, hr', Except.ok_bind, settings_logged]
        cases Macd.intensityWith r su.lastClose s'.indicators.crossSaturationPct with
        | error e => exact .inl ⟨e, rfl, rfl⟩
        | ok i => exact .inr ⟨url, _, xs, rfl, rfl⟩

/-- What a poll with a turn's outcome from one monitor comes to, a poll from a
monitor that agrees with it comes to as well, with its own client after the
turn. -/
theorem pollTurn_transfer (hsrc : ∀ past past' url, src past url = src past' url) (hm : SameFor sym m m')
    (c c' : Feed.Client) (sent : Bool) :
    (∀ e, m.pollTurn src c sent sym = .error e → m'.pollTurn src c' sent sym = .error e) ∧
      ∀ m₁ row, m.pollTurn src c sent sym = .ok (m₁, row) →
        ∃ url xs, m₁ = { m.logged c sent url with history := m.history.after sym xs } ∧
          m'.pollTurn src c' sent sym =
            .ok ({ m'.logged c' sent url with history := m'.history.after sym xs }, row) := by
  rcases pollTurn_local hsrc hm c c' sent with ⟨e, he, he'⟩ | ⟨url, row, xs, hr, hr'⟩
  · refine ⟨fun e₁ h₁ => ?_, fun m₁ row h₁ => (nomatch he.symm.trans h₁)⟩
    obtain rfl : e = e₁ := Except.error.inj (he.symm.trans h₁)
    exact he'
  · refine ⟨fun e₁ h₁ => (nomatch hr.symm.trans h₁), fun m₁ row₁ h₁ => ?_⟩
    obtain ⟨rfl, rfl⟩ := Prod.mk.inj (Except.ok.inj (hr.symm.trans h₁))
    exact ⟨url, xs, rfl, hr'⟩

/-- A poll with a turn's outcome leaves the monitor with the client after the
turn, whatever it reads. -/
theorem client_of_pollTurn (hsrc : ∀ past past' url, src past url = src past' url) {c : Feed.Client}
    {sent : Bool} {m₁ : Monitor} {row : Row} (h : m.pollTurn src c sent sym = .ok (m₁, row)) :
    m₁.client = c := by
  obtain ⟨url, xs, rfl, -⟩ := (pollTurn_transfer hsrc (SameFor.refl sym m) c c sent).2 m₁ row h
  rfl

/-- A poll with a turn's outcome is made for a text or a byte string. -/
theorem isPlain_of_pollTurn {c : Feed.Client} {sent : Bool} {p : Monitor × Row}
    (h : m.pollTurn src c sent sym = .ok p) : sym.IsPlain := by
  unfold pollTurn at h
  obtain ⟨url, hurl, -⟩ := Except.ok_of_bind h
  exact Feed.isPlain_of_chartUrl hurl

/-- Two monitors alike up to the order of their requests and of the history's
registrations. -/
structure Similar (m m' : Monitor) : Prop where
  settings_eq : m'.settings = m.settings
  config_eq : m'.config = m.config
  polls_eq : m'.polls = m.polls
  client_eq : m'.client = m.client
  history : m.history.Similar m'.history

theorem Similar.refl (m : Monitor) : Similar m m := ⟨rfl, rfl, rfl, rfl, History.Similar.refl _⟩

theorem Similar.trans {m₁ m₂ m₃ : Monitor} (h₁₂ : Similar m₁ m₂) (h₂₃ : Similar m₂ m₃) :
    Similar m₁ m₃ :=
  ⟨h₂₃.settings_eq.trans h₁₂.settings_eq, h₂₃.config_eq.trans h₁₂.config_eq,
    h₂₃.polls_eq.trans h₁₂.polls_eq, h₂₃.client_eq.trans h₁₂.client_eq, h₁₂.history.trans h₂₃.history⟩

/-- Monitors alike agree on what any symbol's poll reads. -/
theorem Similar.sameFor (hm : Similar m m') (sym : Value) : SameFor sym m m' :=
  ⟨hm.settings_eq, hm.config_eq, hm.history.limit_eq, hm.history.closes_eq sym⟩

/-- Monitors alike stay alike after the same poll with the same turn, whatever
requests each logs. -/
theorem Similar.poll (hm : Similar m m') (hs : sym.IsPlain) (c : Feed.Client) (sent : Bool)
    (url url' : String) (xs : Option (List Float)) :
    Similar { m.logged c sent url with history := m.history.after sym xs }
      { m'.logged c sent url' with history := m'.history.after sym xs } :=
  ⟨hm.settings_eq, hm.config_eq, hm.polls_eq, rfl, hm.history.after hs xs⟩

/-- A poll of one symbol leaves what a poll of another reads as it was. -/
theorem sameFor_poll {a b : Value} (ha : a.IsPlain) (hab : a ≠ b) (m : Monitor) (c : Feed.Client)
    (sent : Bool) (url : String) (xs : Option (List Float)) :
    SameFor b m { m.logged c sent url with history := m.history.after a xs } := by
  refine ⟨rfl, rfl, by simp, ?_⟩
  cases xs with
  | none => rfl
  | some xs =>
    dsimp only
    rw [History.closesOf_after ha, if_neg (Ne.symm hab)]

/-! ## Polls in a given order -/

/-- Polls the jobs in the order given, each a symbol with its position in the
watchlist, as a pool of workers may run them one after another: the monitor
after the last poll, and the row of each position polled. -/
def pollJobs (m : Monitor) (source : Feed.Source) :
    List (Value × Nat) → Except Fault (Monitor × (Nat → Option Row))
  | [] => .ok (m, fun _ => none)
  | (symbol, i) :: jobs => do
    let (m, row) ← m.pollSymbol source symbol
    Prod.map id (Function.update · i (some row)) <$> m.pollJobs source jobs

theorem pollJobs_cons_of_error {e : Fault} (h : m.pollSymbol src sym = .error e) (i : Nat)
    (jobs : List (Value × Nat)) : m.pollJobs src ((sym, i) :: jobs) = .error e := by
  rw [pollJobs, h]
  rfl

theorem pollJobs_cons_of_ok {m₁ : Monitor} {row : Row} (h : m.pollSymbol src sym = .ok (m₁, row))
    (i : Nat) (jobs : List (Value × Nat)) :
    m.pollJobs src ((sym, i) :: jobs) =
      Prod.map id (Function.update · i (some row)) <$> m₁.pollJobs src jobs := by
  rw [pollJobs, h]
  rfl

/-- Two outcomes of polls alike: both fail, or both give the same rows from
monitors alike. -/
def Agree : Except Fault (Monitor × (Nat → Option Row)) →
    Except Fault (Monitor × (Nat → Option Row)) → Prop
  | .ok (m, rows), .ok (m', rows') => Similar m m' ∧ rows = rows'
  | .error _, .error _ => True
  | _, _ => False

section Agree

variable {o₁ o₂ o₃ : Except Fault (Monitor × (Nat → Option Row))}

theorem Agree.trans (h₁₂ : Agree o₁ o₂) (h₂₃ : Agree o₂ o₃) : Agree o₁ o₃ := by
  rcases o₁ with _ | ⟨m₁, r₁⟩ <;> rcases o₂ with _ | ⟨m₂, r₂⟩ <;> rcases o₃ with _ | ⟨m₃, r₃⟩ <;>
    simp only [Agree] at h₁₂ h₂₃ ⊢
  exact ⟨h₁₂.1.trans h₂₃.1, h₁₂.2.trans h₂₃.2⟩

/-- Recording a row alike keeps outcomes alike. -/
theorem Agree.map (h : Agree o₁ o₂) (f : (Nat → Option Row) → Nat → Option Row) :
    Agree (Prod.map id f <$> o₁) (Prod.map id f <$> o₂) := by
  rcases o₁ with _ | ⟨m₁, r₁⟩ <;> rcases o₂ with _ | ⟨m₂, r₂⟩ <;> simp only [Agree] at h
  · trivial
  · exact ⟨h.1, congrArg f h.2⟩

/-- Two failures are alike. -/
theorem Agree.of_error (h₁ : ∃ e, o₁ = .error e) (h₂ : ∃ e, o₂ = .error e) : Agree o₁ o₂ := by
  obtain ⟨e₁, rfl⟩ := h₁
  obtain ⟨e₂, rfl⟩ := h₂
  trivial

/-- Recording two rows in either order keeps outcomes alike, when the two
records commute. -/
theorem Agree.map_comm (h : Agree o₁ o₂) {f g : (Nat → Option Row) → Nat → Option Row}
    (hfg : ∀ rows, f (g rows) = g (f rows)) :
    Agree (Prod.map id f <$> (Prod.map id g <$> o₁)) (Prod.map id g <$> (Prod.map id f <$> o₂)) := by
  rcases o₁ with _ | ⟨m₁, r₁⟩ <;> rcases o₂ with _ | ⟨m₂, r₂⟩ <;> simp only [Agree] at h
  · trivial
  · obtain ⟨hm, rfl⟩ := h
    exact ⟨hm, hfg r₁⟩

end Agree

/-- A poll whose first turn fails fails, whatever the jobs. -/
theorem pollJobs_of_acquire_error {e : Fault} (h : m.client.acquire = .error e) (sym : Value) (i : Nat)
    (jobs : List (Value × Nat)) : ∃ e', m.pollJobs src ((sym, i) :: jobs) = .error e' := by
  obtain ⟨e', he'⟩ := pollSymbol_of_acquire_error h src sym
  exact ⟨e', pollJobs_cons_of_error he' i jobs⟩

/-- Two polls whose second turn fails fail, whatever the jobs: the first poll
leaves the client as its turn left it. -/
theorem pollJobs_of_second_acquire_error (hsrc : ∀ past past' url, src past url = src past' url)
    {c : Feed.Client} {sent : Bool} {e : Fault} (h₁ : m.client.acquire = .ok (c, sent))
    (h₂ : c.acquire = .error e) (a b : Value) (i j : Nat) (jobs : List (Value × Nat)) :
    ∃ e', m.pollJobs src ((a, i) :: (b, j) :: jobs) = .error e' := by
  cases ha : m.pollTurn src c sent a with
  | error e' => exact ⟨e', pollJobs_cons_of_error ((pollSymbol_of_acquire h₁ src a).trans ha) i _⟩
  | ok p =>
    obtain ⟨m₁, row⟩ := p
    have hclient : m₁.client = c := client_of_pollTurn hsrc ha
    obtain ⟨e', he'⟩ := pollJobs_of_acquire_error (hclient ▸ h₂ : m₁.client.acquire = .error e) b j jobs
    rw [pollJobs_cons_of_ok ((pollSymbol_of_acquire h₁ src a).trans ha), he']
    exact ⟨e', rfl⟩

/-- From monitors alike, a poll of the same symbol first keeps outcomes alike
when the rest of the jobs do from any monitors alike. -/
theorem Agree.cons (hsrc : ∀ past past' url, src past url = src past' url) (hm : Similar m m')
    {jobs jobs' : List (Value × Nat)}
    (htail : ∀ m₁ m₁' : Monitor, Similar m₁ m₁' → Agree (m₁.pollJobs src jobs) (m₁'.pollJobs src jobs'))
    (sym : Value) (i : Nat) :
    Agree (m.pollJobs src ((sym, i) :: jobs)) (m'.pollJobs src ((sym, i) :: jobs')) := by
  -- both clients are one, so both take the same turn
  have hturn : m'.client.acquire = m.client.acquire := by rw [hm.client_eq]
  cases ht : m.client.acquire with
  | error e =>
    exact Agree.of_error (pollJobs_of_acquire_error ht sym i jobs)
      (pollJobs_of_acquire_error (hturn.trans ht) sym i jobs')
  | ok p =>
    obtain ⟨c, sent⟩ := p
    have hpoll := pollSymbol_of_acquire ht src sym
    have hpoll' := pollSymbol_of_acquire (hturn.trans ht) src sym
    obtain ⟨herr, hok⟩ := pollTurn_transfer hsrc (hm.sameFor sym) c c sent
    cases h : m.pollTurn src c sent sym with
    | error e =>
      rw [pollJobs_cons_of_error (hpoll.trans h), pollJobs_cons_of_error (hpoll'.trans (herr e h))]
      trivial
    | ok p =>
      obtain ⟨m₁, row⟩ := p
      obtain ⟨url, xs, rfl, h'⟩ := hok _ row h
      rw [pollJobs_cons_of_ok (hpoll.trans h), pollJobs_cons_of_ok (hpoll'.trans h')]
      exact Agree.map (htail _ _ (hm.poll (isPlain_of_pollTurn h) c sent url url xs)) _

/-- Monitors alike poll alike. -/
theorem pollJobs_similar (hsrc : ∀ past past' url, src past url = src past' url)
    (jobs : List (Value × Nat)) (hm : Similar m m') : Agree (m.pollJobs src jobs) (m'.pollJobs src jobs) := by
  induction jobs generalizing m m' with
  | nil => exact ⟨hm, rfl⟩
  | cons job jobs ih => exact Agree.cons hsrc hm (fun _ _ h => ih h) job.1 job.2

/-- Two polls of different symbols with the turns given commute: from monitors
alike, polling `a` on the first turn and `b` on the second agrees with polling
`b` on the first and `a` on the second, the rest of the jobs alike. -/
theorem pollTurn_swap (hsrc : ∀ past past' url, src past url = src past' url) {a b : Value}
    (hab : a ≠ b) {i j : Nat} (hij : i ≠ j) (jobs : List (Value × Nat)) (hm : Similar m m')
    {c₁ c₂ : Feed.Client} {sent : Bool} (h₁ : m.client.acquire = .ok (c₁, sent))
    (h₂ : c₁.acquire = .ok (c₂, sent)) :
    Agree (m.pollJobs src ((a, i) :: (b, j) :: jobs)) (m'.pollJobs src ((b, j) :: (a, i) :: jobs)) := by
  have h₁' : m'.client.acquire = .ok (c₁, sent) := by rw [hm.client_eq, h₁]
  -- a poll that went first leaves the second turn to whatever polls next
  have hnext : ∀ {m₀ : Monitor} {x : Value} {m₁ : Monitor} {row : Row},
      m₀.pollTurn src c₁ sent x = .ok (m₁, row) → ∀ y, m₁.pollSymbol src y = m₁.pollTurn src c₂ sent y :=
    fun h y => pollSymbol_of_acquire ((client_of_pollTurn hsrc h).symm ▸ h₂) src y
  cases ha : m.pollTurn src c₁ sent a with
  | error e =>
    -- `a` fails on the first turn from `m`, so on the second from wherever `b` leaves `m'`
    rw [pollJobs_cons_of_error ((pollSymbol_of_acquire h₁ src a).trans ha)]
    cases hb : m'.pollTurn src c₁ sent b with
    | error e' =>
      rw [pollJobs_cons_of_error ((pollSymbol_of_acquire h₁' src b).trans hb)]
      trivial
    | ok p =>
      obtain ⟨m₁', rb⟩ := p
      obtain ⟨url, xs, rfl, -⟩ := (pollTurn_transfer hsrc (SameFor.refl b m') c₁ c₁ sent).2 _ rb hb
      have hsame : SameFor a m _ :=
        (hm.sameFor a).trans (sameFor_poll (isPlain_of_pollTurn hb) (Ne.symm hab) m' c₁ sent url xs)
      rw [pollJobs_cons_of_ok ((pollSymbol_of_acquire h₁' src b).trans hb),
        pollJobs_cons_of_error ((hnext hb a).trans ((pollTurn_transfer hsrc hsame c₁ c₂ sent).1 e ha))]
      trivial
  | ok p =>
    obtain ⟨ma, ra⟩ := p
    obtain ⟨url, xa, hma, -⟩ := (pollTurn_transfer hsrc (SameFor.refl a m) c₁ c₁ sent).2 _ ra ha
    -- the poll of `a` leaves what `b` reads as it was
    have hsameb : SameFor b ma m' := by
      rw [hma]
      exact (sameFor_poll (isPlain_of_pollTurn ha) hab m c₁ sent url xa).symm.trans (hm.sameFor b)
    rw [pollJobs_cons_of_ok ((pollSymbol_of_acquire h₁ src a).trans ha)]
    cases hb : ma.pollTurn src c₂ sent b with
    | error e =>
      rw [pollJobs_cons_of_error ((hnext ha b).trans hb), pollJobs_cons_of_error
        ((pollSymbol_of_acquire h₁' src b).trans ((pollTurn_transfer hsrc hsameb c₂ c₁ sent).1 e hb))]
      trivial
    | ok p =>
      obtain ⟨mab, rb⟩ := p
      obtain ⟨urlb, xb, rfl, hb'⟩ := (pollTurn_transfer hsrc hsameb c₂ c₁ sent).2 _ rb hb
      -- and the poll of `b` leaves what `a` reads as it was
      have hsamea : SameFor a m _ :=
        (hm.sameFor a).trans (sameFor_poll (isPlain_of_pollTurn hb) (Ne.symm hab) m' c₁ sent urlb xb)
      obtain ⟨urla, xa', hma', ha'⟩ := (pollTurn_transfer hsrc hsamea c₁ c₂ sent).2 _ ra ha
      rw [pollJobs_cons_of_ok ((hnext ha b).trans hb),
        pollJobs_cons_of_ok ((pollSymbol_of_acquire h₁' src b).trans hb'),
        pollJobs_cons_of_ok ((hnext hb' a).trans ha')]
      refine Agree.map_comm (pollJobs_similar hsrc jobs ?_)
        fun rows => (Function.update_comm hij (some ra) (some rb) rows).symm
      -- the two histories differ only in the order of registration
      have hpa := isPlain_of_pollTurn ha
      have hpb := isPlain_of_pollTurn hb
      rw [hma']
      exact ⟨hm.settings_eq, hm.config_eq, hm.polls_eq, rfl,
        (History.after_comm hpa hpb hab _ _ _).trans ((hm.history.after hpb xb).after hpa xa')⟩

/-- Two polls of different symbols commute: from monitors alike, polling `a`
then `b` agrees with polling `b` then `a`, the rest of the jobs alike. -/
theorem pollJobs_swap (hsrc : ∀ past past' url, src past url = src past' url) {a b : Value}
    (hab : a ≠ b) {i j : Nat} (hij : i ≠ j) (jobs : List (Value × Nat)) (hm : Similar m m') :
    Agree (m.pollJobs src ((a, i) :: (b, j) :: jobs)) (m'.pollJobs src ((b, j) :: (a, i) :: jobs)) := by
  have hturn : m'.client.acquire = m.client.acquire := by rw [hm.client_eq]
  cases h₁ : m.client.acquire with
  | error e =>
    exact Agree.of_error (pollJobs_of_acquire_error h₁ a i _) (pollJobs_of_acquire_error (hturn.trans h₁) b j _)
  | ok p₁ =>
    obtain ⟨c₁, sent⟩ := p₁
    cases h₂ : c₁.acquire with
    | error e =>
      exact Agree.of_error (pollJobs_of_second_acquire_error hsrc h₁ h₂ a b i j jobs)
        (pollJobs_of_second_acquire_error hsrc (hturn.trans h₁) h₂ b a j i jobs)
    | ok p₂ =>
      obtain ⟨c₂, sent₂⟩ := p₂
      -- the second turn lets its request go exactly when the first did
      obtain rfl : sent₂ = sent := Feed.Client.sent_of_acquire_acquire h₁ h₂
      exact pollTurn_swap hsrc hab hij jobs hm h₁ h₂

/-- Any two orders of the same jobs, of distinct symbols at distinct positions,
poll alike: a permutation is a chain of swaps of neighbours. -/
theorem pollJobs_perm (hsrc : ∀ past past' url, src past url = src past' url)
    {jobs jobs' : List (Value × Nat)} (hp : jobs.Perm jobs') (hsym : (jobs.map Prod.fst).Nodup)
    (hpos : (jobs.map Prod.snd).Nodup) (hm : Similar m m') :
    Agree (m.pollJobs src jobs) (m'.pollJobs src jobs') := by
  induction hp generalizing m m' with
  | nil => exact ⟨hm, rfl⟩
  | cons job _ ih =>
    exact Agree.cons hsrc hm (fun _ _ h => ih (List.nodup_cons.1 hsym).2 (List.nodup_cons.1 hpos).2 h)
      job.1 job.2
  | swap x y jobs =>
    have hab : y.1 ≠ x.1 := fun h => (List.nodup_cons.1 hsym).1 (h ▸ List.mem_cons_self)
    have hij : y.2 ≠ x.2 := fun h => (List.nodup_cons.1 hpos).1 (h ▸ List.mem_cons_self)
    exact pollJobs_swap hsrc hab hij jobs hm
  | trans hp₁ _ ih₁ ih₂ =>
    exact (ih₁ hsym hpos hm).trans
      (ih₂ ((hp₁.map _).nodup_iff.1 hsym) ((hp₁.map _).nodup_iff.1 hpos) (Similar.refl _))

/-! ## The order of the watchlist -/

/-- The rows of a list by position, the first at `k`. -/
def rowsFrom (k : Nat) (rows : List Row) (i : Nat) : Option Row :=
  if k ≤ i then rows[i - k]? else none

theorem rowsFrom_nil (k : Nat) : rowsFrom k [] = fun _ => none := by
  funext i
  simp [rowsFrom]

theorem rowsFrom_cons (k : Nat) (row : Row) (rows : List Row) :
    rowsFrom k (row :: rows) = Function.update (rowsFrom (k + 1) rows) k (some row) := by
  funext i
  rcases lt_trichotomy i k with hlt | rfl | hgt
  · simp [rowsFrom, hlt.ne, Nat.not_le.2 hlt, Nat.not_le.2 (Nat.lt_succ_of_lt hlt)]
  · simp [rowsFrom]
  · have hi : i - k = i - (k + 1) + 1 := by omega
    simp [rowsFrom, hgt.ne', hgt.le, Nat.succ_le_of_lt hgt, hi]

/-- Polls one after another from rows already made give those rows, then the
rows they would give from none. -/
theorem foldlM_pollStep_append (syms : List Value) (m : Monitor) (rows : List Row) :
    syms.foldlM (pollStep src) (m, rows) =
      Prod.map id (rows ++ ·) <$> syms.foldlM (pollStep src) (m, []) := by
  induction syms generalizing m rows with
  | nil => simp
  | cons sym syms ih =>
    simp only [List.foldlM_cons, pollStep]
    cases h : m.pollSymbol src sym with
    | error e => rfl
    | ok p =>
      obtain ⟨m₁, row⟩ := p
      simp only [Except.ok_bind, pure_bind]
      rw [ih m₁ (rows ++ [row]), ih m₁ ([] ++ [row]), Functor.map_map]
      congr 1
      funext q
      obtain ⟨m₂, out⟩ := q
      simp

/-- Scheduled in the order of the watchlist, the polls are the polls one after
another, each row at its position. -/
theorem pollJobs_zipIdx (syms : List Value) (m : Monitor) (k : Nat) :
    m.pollJobs src (syms.zipIdx k) =
      Prod.map id (rowsFrom k) <$> syms.foldlM (pollStep src) (m, []) := by
  induction syms generalizing m k with
  | nil =>
    rw [List.zipIdx_nil, List.foldlM_nil, map_pure, Prod.map_apply, rowsFrom_nil]
    rfl
  | cons sym syms ih =>
    rw [List.zipIdx_cons, List.foldlM_cons]
    cases h : m.pollSymbol src sym with
    | error e =>
      rw [pollJobs_cons_of_error h]
      simp only [pollStep, h]
      rfl
    | ok p =>
      obtain ⟨m₁, row⟩ := p
      rw [pollJobs_cons_of_ok h, ih]
      simp only [pollStep, h, Except.ok_bind, pure_bind]
      rw [foldlM_pollStep_append syms m₁ ([] ++ [row])]
      simp only [Functor.map_map]
      congr 1
      funext q
      obtain ⟨m₂, out⟩ := q
      simp [rowsFrom_cons]

/-! ## Any order agrees with the order of the watchlist -/

/-- Polls in some order give what the polls in the order of the watchlist give:
both fail, or each position gets the row it gets in order, every symbol the
same series, and the history the same symbols, perhaps registered in another
order. -/
def Matches : Except Fault (Monitor × List Row) → Except Fault (Monitor × (Nat → Option Row)) → Prop
  | .ok (m, rows), .ok (m', byPos) =>
    (∀ i, byPos i = rows[i]?) ∧ (∀ t, m'.history.closesOf t = m.history.closesOf t) ∧
      m'.history.symbols.Perm m.history.symbols
  | .error _, .error _ => True
  | _, _ => False

section Matches

variable {o : Except Fault (Monitor × List Row)} {o' : Except Fault (Monitor × (Nat → Option Row))}

/-- An outcome in order that, placed by position, agrees with another matches it. -/
theorem matches_of_agree (h : Agree (Prod.map id (rowsFrom 0) <$> o) o') : Matches o o' := by
  rcases o with _ | ⟨m₁, rows⟩ <;> rcases o' with _ | ⟨m₂, byPos⟩ <;> simp only [Agree] at h
  · trivial
  · exact h.elim
  · exact h.elim
  · obtain ⟨hm, rfl⟩ := h
    exact ⟨fun i => by simp [rowsFrom], hm.history.closes_eq, hm.history.symbols_perm⟩

/-- Outcomes that match give each position the same row, whatever is read of it. -/
theorem Matches.row {β : Type} (h : Matches o o') (i : Nat) (f : Option Row → β) :
    (o.toOption.map fun p => f p.2[i]?) = o'.toOption.map fun p => f (p.2 i) := by
  rcases o with _ | ⟨m₁, rows⟩ <;> rcases o' with _ | ⟨m₂, byPos⟩ <;> simp only [Matches] at h
  · rfl
  · simp [Except.toOption, h.1 i]

end Matches

/-- With a feed that answers each address the same whatever was asked before,
polling distinct symbols in any order matches polling them in the order of the
watchlist. -/
theorem matches_in_any_order (hsrc : ∀ past past' url, src past url = src past' url) (m : Monitor)
    {syms : List Value} (hsyms : syms.Nodup) {jobs : List (Value × Nat)} (hjobs : jobs.Perm syms.zipIdx) :
    Matches (syms.foldlM (pollStep src) (m, [])) (m.pollJobs src jobs) := by
  have hsym : (syms.zipIdx.map Prod.fst).Nodup := by
    rw [List.zipIdx_map_fst]
    exact hsyms
  have hpos : (syms.zipIdx.map Prod.snd).Nodup := by
    rw [List.zipIdx_map_snd]
    exact List.nodup_range' ..
  have hagree := pollJobs_perm hsrc hjobs.symm hsym hpos (Similar.refl m)
  rw [pollJobs_zipIdx] at hagree
  exact matches_of_agree hagree

/-! ## A symbol listed twice -/

/-- A monitor in session mode that has collected the closes 1 and 2 of `A`. -/
def seeded : Monitor :=
  ⟨quickSession, ⟨.int 1, .int 2, .int 1⟩, ⟨.unbounded, [(.str "A", [1.0, 2.0])]⟩, [], 0,
    ⟨Bucket.full 10.0 2.0 0.0, 0.0, some false⟩⟩

/-- In session mode a symbol listed twice breaks the law: both polls append to
its one series, and the row at the first position has a reading when polled
second, but not when polled first. -/
theorem duplicate_symbol_rows_depend_on_order :
    ∃ (src : Feed.Source) (m : Monitor) (sym : Value),
      (∀ past past' url, src past url = src past' url) ∧ m.sessionMode = true ∧
        ¬ Matches ([sym, sym].foldlM (pollStep src) (m, [])) (m.pollJobs src [(sym, 1), (sym, 0)]) := by
  refine ⟨steadyFeed, seeded, .str "A", fun _ _ _ => rfl, rfl, fun h => ?_⟩
  have hrow := h.row 0 (Option.map Row.hasMacd)
  -- in order, the first poll sees three closes; scheduled second, it sees four
  have hseq : (([Value.str "A", .str "A"].foldlM (pollStep steadyFeed) (seeded, [])).toOption.map
      fun p => p.2[0]?.map Row.hasMacd) = some (some false) := by
    decide +kernel
  have hsched : ((seeded.pollJobs steadyFeed [(.str "A", 1), (.str "A", 0)]).toOption.map
      fun p => (p.2 0).map Row.hasMacd) = some (some true) := by
    decide +kernel
  rw [hseq, hsched] at hrow
  exact absurd hrow (by decide)

/-- **Polls in any order agree.** With a feed that answers each address the
same whatever was asked before, polling the distinct symbols of a watchlist in
any order, in either history mode, matches polling them in the order of the
watchlist: both fail, or each position gets the same row and each symbol the
same series, the history registering the same symbols, perhaps in another
order. A symbol listed twice breaks this in session mode. -/
theorem polls_in_any_order_agree :
    (∀ src : Feed.Source, (∀ past past' url, src past url = src past' url) →
      ∀ (m : Monitor) (syms : List Value), syms.Nodup →
        ∀ jobs : List (Value × Nat), jobs.Perm syms.zipIdx →
          Matches (syms.foldlM (pollStep src) (m, [])) (m.pollJobs src jobs)) ∧
    ∃ (src : Feed.Source) (m : Monitor) (sym : Value),
      (∀ past past' url, src past url = src past' url) ∧ m.sessionMode = true ∧
        ¬ Matches ([sym, sym].foldlM (pollStep src) (m, [])) (m.pollJobs src [(sym, 1), (sym, 0)]) :=
  ⟨fun _ hsrc m _ hsyms _ hjobs => matches_in_any_order hsrc m hsyms hjobs,
    duplicate_symbol_rows_depend_on_order⟩

/-- Two distinct symbols polled in reverse order match the order of the
watchlist. -/
theorem steady_feed_polls_in_reverse_agree :
    Matches ([Value.str "A", .str "B"].foldlM (pollStep steadyFeed) (seeded, []))
      (seeded.pollJobs steadyFeed [(.str "B", 1), (.str "A", 0)]) :=
  polls_in_any_order_agree.1 steadyFeed (fun _ _ _ => rfl) seeded [.str "A", .str "B"] (by simp) _
    (List.Perm.swap _ _ [])

end Monitor

end QuoteMomentum
