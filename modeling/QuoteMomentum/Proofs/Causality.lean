import Mathlib.Data.List.Infix
import QuoteMomentum.Proofs.Reading
import QuoteMomentum.Proofs.Schedule

/-!
# Appending a close

An average is causal: its seed reads the first `p` values only, and each step
after it reads one more value, so over a longer series it starts with the
average over the shorter one, index for index (`Ema.prefix_values_append`). The MACD
line, a difference of two such averages, continues in the same way
(`Macd.prefix_line_append`), and so does the signal average over it.

One more close therefore adds exactly one value to the line and one to the
signal. Over `slow + signal + 1` closes or more, the reading after the new
close has as its previous pair the latest pair of the reading before it, to
the bit (`Macd.lastTwo_append_shifts`). In session mode with no bound on the
series, every `ok` poll appends one close to its symbol's series, so each
`ok` row's crossover test compares the pair that the previous `ok` row of its
symbol reported as latest (`Monitor.session_pairs_shift`). A bound that drops
the oldest close moves the seeds, and the law is not promised then.
-/

namespace QuoteMomentum

/-- Lists cut as prefixes of longer ones zip into a prefix of what those zip
into. -/
theorem prefix_zipWith {β γ δ : Type} {a a' : List β} {b b' : List γ} (f : β → γ → δ)
    (ha : a <+: a') (hb : b <+: b') : List.zipWith f a b <+: List.zipWith f a' b' := by
  induction a generalizing a' b b' with
  | nil => exact List.nil_prefix
  | cons x xs ih =>
    obtain ⟨u, rfl⟩ := ha
    cases b with
    | nil => exact List.nil_prefix
    | cons y ys =>
      obtain ⟨v, rfl⟩ := hb
      simp only [List.cons_append, List.zipWith_cons_cons]
      exact List.cons_prefix_cons.mpr ⟨rfl, ih (List.prefix_append _ _) (List.prefix_append _ _)⟩

/-- A prefix one entry shorter is all but the last entry. -/
theorem eq_append_singleton_of_length_succ {β : Type} {l l' : List β} (h : l <+: l')
    (hlen : l'.length = l.length + 1) : ∃ a, l' = l ++ [a] := by
  obtain ⟨t, rfl⟩ := h
  rw [List.length_append] at hlen
  obtain ⟨a, rfl⟩ := List.length_eq_one_iff.mp (by omega : t.length = 1)
  exact ⟨a, rfl⟩

/-- The second entry from the end of a list with one more entry is the last
entry of the list. -/
theorem reverse_append_singleton_second {β : Type} {l : List β} {z a b a' b' : β}
    {rest rest' : List β} (h : (l ++ [z]).reverse = a' :: b' :: rest')
    (hl : l.reverse = a :: b :: rest) : b' = a := by
  rw [List.reverse_append, hl] at h
  simp only [List.reverse_cons, List.reverse_nil, List.nil_append, List.cons_append,
    List.cons.injEq] at h
  exact h.2.1.symm

namespace Ema

open Numeric

variable {α : Type} [Numeric α]

/-- The seed reads only the first `p` values. -/
theorem seed_append {xs : List α} {p : Nat} (hn : p ≤ xs.length) (ys : List α) :
    seed (xs ++ ys) p = seed xs p := by
  rw [seed, seed, List.take_append_of_le_length hn]

/-- The matured scan over more values continues the scan over fewer. -/
theorem prefix_matured_append {xs : List α} {p : Nat} (hn : p ≤ xs.length) (ys : List α) :
    matured xs p <+: matured (xs ++ ys) p := by
  rw [matured, matured, seed_append hn, List.drop_append_of_le_length hn, List.scanl_append]
  exact List.prefix_append _ _

/-- **Causality.** An average over more values starts with the average over
fewer, index for index. -/
theorem prefix_values_append {xs : List α} {p : Int} (hp : 1 ≤ p) (hn : p ≤ xs.length) (ys : List α) :
    (compute xs p).values <+: (compute (xs ++ ys) p).values := by
  have hfits : fits p xs.length = true := (fits_iff p xs.length).mpr ⟨hp, hn⟩
  have hfits' : fits p (xs ++ ys).length = true := by
    rw [fits_iff, List.length_append]
    omega
  rw [values_compute hfits, values_compute hfits', List.prefix_append_right_inj]
  exact (prefix_matured_append (by omega) ys).map some

/-- One more value adds one entry to an average that already fits. -/
theorem values_append_singleton {xs : List α} {p : Int} (hp : 1 ≤ p) (hn : p ≤ xs.length) (y : α) :
    ∃ v, (compute (xs ++ [y]) p).values = (compute xs p).values ++ [v] := by
  refine eq_append_singleton_of_length_succ (prefix_values_append hp hn [y]) ?_
  simp [length_compute]

end Ema

namespace Macd

open Numeric

variable {α : Type} [Numeric α]

/-- The MACD line over more closes continues the line over fewer. -/
theorem prefix_line_append {p : Periods} {xs : List α} (hf : 1 ≤ p.fast) (hfs : p.fast ≤ p.slow)
    (hn : p.slow ≤ xs.length) (ys : List α) : line p xs <+: line p (xs ++ ys) := by
  have hn' : p.slow ≤ (xs ++ ys).length := by
    rw [List.length_append]
    omega
  rw [line_eq_zipWith hf hfs hn, line_eq_zipWith hf hfs hn']
  exact prefix_zipWith _ ((Ema.prefix_matured_append (by omega) ys).drop _)
    (Ema.prefix_matured_append (by omega) ys)

/-- One more close adds one value to the line. -/
theorem line_append_singleton {p : Periods} {xs : List α} (hf : 1 ≤ p.fast) (hfs : p.fast ≤ p.slow)
    (hn : p.slow ≤ xs.length) (y : α) : ∃ z, line p (xs ++ [y]) = line p xs ++ [z] := by
  have hlen : ((line p xs).length : Int) = xs.length - p.slow + 1 := length_line hf hfs hn
  have hlen' : ((line p (xs ++ [y])).length : Int) = (xs ++ [y]).length - p.slow + 1 :=
    length_line hf hfs (by simp; omega)
  refine eq_append_singleton_of_length_succ (prefix_line_append hf hfs hn [y]) ?_
  simp only [List.length_append, List.length_singleton] at hlen'
  omega

/-- **The pairs shift.** Over `slow + signal + 1` closes or more, the reading
after one more close has as its previous MACD and signal values the latest
ones of the reading before it, whatever the last closes the percents use. -/
theorem lastTwo_append_shifts {p : Periods} (hf : 1 ≤ p.fast) (hfs : p.fast ≤ p.slow)
    (hg : 1 ≤ p.signal) {xs : List α} (hn : p.slow + p.signal + 1 ≤ xs.length) (y : α)
    (lastClose lastClose' : Option α) :
    (lastTwo p (xs ++ [y]) lastClose').macdPrev = (lastTwo p xs lastClose).macdLast ∧
      (lastTwo p (xs ++ [y]) lastClose').signalPrev = (lastTwo p xs lastClose).signalLast := by
  have hn' : p.slow + p.signal + 1 ≤ (xs ++ [y]).length := by
    rw [List.length_append]
    omega
  have hline : ((line p xs).length : Int) = xs.length - p.slow + 1 := length_line hf hfs (by omega)
  -- both readings read the ends of their lines, and the longer line is the
  -- shorter one with one more value, its signal likewise
  obtain ⟨z, hz⟩ := line_append_singleton hf hfs (by omega : p.slow ≤ (xs.length : Int)) y
  obtain ⟨v, hv⟩ := Ema.values_append_singleton hg (by omega : p.signal ≤ ((line p xs).length : Int)) z
  obtain ⟨⟨rest, hm⟩, ⟨srest, hs⟩⟩ := ofLine_lastTwo hf hfs hg hn lastClose
  obtain ⟨⟨rest', hm'⟩, ⟨srest', hs'⟩⟩ := ofLine_lastTwo hf hfs hg hn' lastClose'
  rw [hz] at hm' hs'
  rw [hv] at hs'
  exact ⟨reverse_append_singleton_second hm' hm,
    Option.some.inj (reverse_append_singleton_second hs' hs)⟩

end Macd

namespace Monitor

variable {m m' : Monitor}

/-- Every row of a poll names a text or a byte string: a symbol is only polled
once it has an address. -/
theorem pollOnce_plain {src : Feed.Source} {rows : List Row} (h : m.pollOnce src = .ok (m', rows)) :
    ∀ row ∈ rows, row.symbol.IsPlain := by
  refine pollOnce_induct (fun _ rows₁ => ∀ row ∈ rows₁, row.symbol.IsPlain) ?_ (fun _ _ h => h)
    (fun _ h => nomatch h) h
  intro m₁ rows₁ symbol m₂ row hplain hpoll row' hrow'
  rcases List.mem_append.mp hrow' with h | h
  · exact hplain row' h
  · obtain ⟨url, client, sent, result, hurl, -, hsettle⟩ := pollSymbol_cases hpoll
    rw [List.mem_singleton.mp h, (settle_cases hsettle).1]
    exact Feed.isPlain_of_chartUrl hurl

theorem Polled.plain {rows : List Row} (hr : Polled m rows m') : ∀ row ∈ rows, row.symbol.IsPlain := by
  induction hr with
  | nil => exact fun _ h => nomatch h
  | poll src hpoll _ ih =>
    intro row hrow
    rcases List.mem_append.mp hrow with h | h
    · exact pollOnce_plain hpoll row h
    · exact ih row h

/-- The `ok` closes of a symbol before row `j` are those before its `ok` row
`i` and that row's own, when no `ok` row of the symbol stands between them. -/
theorem okCloses_take_of_next {rows : List Row} {i j : Nat} {row : Row} {su : Quote.Summary}
    (hij : i < j) (hi : rows[i]? = some row) (hok : row.status = .ok) (hsu : row.summary = some su)
    (hplain : row.symbol.IsPlain)
    (hnone : ∀ k r, i < k → k < j → rows[k]? = some r → r.status = .ok → r.symbol ≠ row.symbol) :
    okCloses (rows.take j) row.symbol = okCloses (rows.take i) row.symbol ++ [su.lastClose] := by
  -- the rows before `j`: those before `i`, row `i`, then the rows between
  have hsplit : rows.take j = rows.take i ++ [row] ++ (rows.take j).drop (i + 1) := by
    have hone : rows.take (i + 1) = rows.take i ++ [row] := by
      rw [List.take_add_one, hi]
      rfl
    have htake : (rows.take j).take (i + 1) = rows.take (i + 1) := by
      rw [List.take_take, Nat.min_eq_left (by omega)]
    rw [← hone, ← htake, List.take_append_drop]
  have hown : okCloses [row] row.symbol = [su.lastClose] := by
    simp [okCloses, hok, (hplain.sameKey_iff _).mpr rfl, hsu]
  have hbetween : okCloses ((rows.take j).drop (i + 1)) row.symbol = [] := by
    unfold okCloses
    rw [List.filterMap_eq_nil_iff]
    intro r hr
    obtain ⟨k, hk⟩ := List.mem_iff_getElem?.mp hr
    rw [List.getElem?_drop, List.getElem?_take] at hk
    split at hk
    · rename_i hlt
      have hne := hnone (i + 1 + k) r (by omega) hlt hk
      by_cases hrok : r.status = .ok
      · -- an `ok` row between names another symbol
        have hkey : r.symbol.sameKey row.symbol = false := by
          cases hs : r.symbol.sameKey row.symbol with
          | false => rfl
          | true => exact absurd ((hplain.sameKey_iff' r.symbol).mp hs) (hne hrok)
        simp [hkey]
      · simp [hrok]
    · cases hk
  rw [hsplit, okCloses_append, okCloses_append, hown, hbetween, List.append_nil]

/-- In session mode with no bound, an `ok` row with a valid reading hands its
latest MACD/signal pair to the next `ok` row of its symbol, as that row's
previous pair. -/
theorem session_pairs_shift {s : Settings} {m₀ : Monitor} {rows : List Row}
    (hmake : Monitor.make s = .ok m₀) (hmp : s.indicators.sessionMaxPoints.num? = some (.whole 0))
    (hs : m₀.sessionMode = true) (hrun : Polled m₀ rows m)
    {i j : Nat} {row row' : Row} (hij : i < j) (hi : rows[i]? = some row) (hj : rows[j]? = some row')
    (hok : row.status = .ok) (hok' : row'.status = .ok) (hsym : row'.symbol = row.symbol)
    (hnone : ∀ k r, i < k → k < j → rows[k]? = some r → r.status = .ok → r.symbol ≠ row.symbol)
    (hvalid : row.hasMacd = true) :
    ∃ r r', row.macd = some r ∧ row'.macd = some r' ∧
      r'.macdPrev = r.macdLast ∧ r'.signalPrev = r.signalLast := by
  obtain ⟨-, hconfig, -, -⟩ := make_cases hmake
  have ht : SessionTracks m₀.config 0 rows m := by
    have hrun' := hrun.tracks (make_tracks hmake hmp hs)
    rw [List.nil_append] at hrun'
    exact hrun'
  obtain ⟨su, r, hsu, hr, hread⟩ := ht.reads i row hi hok
  obtain ⟨su', r', -, hr', hread'⟩ := ht.reads j row' hj hok'
  have hplain : row.symbol.IsPlain := hrun.plain row (List.mem_of_getElem? hi)
  -- with no bound, the series read at row `j` is the one read at row `i` and one more close
  rw [Limit.keepLast_zero] at hread hread'
  rw [hsym, okCloses_take_of_next hij hi hok hsu hplain hnone] at hread'
  have hflag : r.valid = true := by simpa [Row.hasMacd, hr] using hvalid
  obtain ⟨p, hp, hlen⟩ := (Macd.Config.valid_iff_of_make hconfig hread).mp hflag
  obtain ⟨hf, hfs, hg⟩ := Macd.Config.periods_of_make hconfig hp
  rw [Macd.Config.lastTwo_of_periods hp, Except.ok.injEq] at hread hread'
  subst hread hread'
  exact ⟨_, _, hr, hr', Macd.lastTwo_append_shifts hf (Int.le_of_lt hfs) hg hlen _ _ _⟩

end Monitor

/-- **Readings shift with each close.** With periods `1 ≤ fast < slow` and
`1 ≤ signal`, over `slow + signal + 1` closes or more, one more close makes the
latest MACD/signal pair the previous one. Hence in session mode with no bound
on the series, each `ok` row whose symbol's previous `ok` row had a valid
reading has as its previous pair the latest pair of that row. -/
theorem appended_close_shifts_pairs {α : Type} [Numeric α] :
    (∀ (p : Macd.Periods) (xs : List α) (y : α) (lastClose lastClose' : Option α),
      1 ≤ p.fast → p.fast < p.slow → 1 ≤ p.signal → p.slow + p.signal + 1 ≤ xs.length →
      (Macd.lastTwo p (xs ++ [y]) lastClose').macdPrev = (Macd.lastTwo p xs lastClose).macdLast ∧
      (Macd.lastTwo p (xs ++ [y]) lastClose').signalPrev = (Macd.lastTwo p xs lastClose).signalLast) ∧
    (∀ (s : Settings) (m₀ m : Monitor) (rows : List Row), Monitor.make s = .ok m₀ →
      s.indicators.sessionMaxPoints.num? = some (.whole 0) → m₀.sessionMode = true →
      Monitor.Polled m₀ rows m →
      ∀ (i j : Nat) (row row' : Row), i < j → rows[i]? = some row → rows[j]? = some row' →
        row.status = .ok → row'.status = .ok → row'.symbol = row.symbol →
        (∀ k r, i < k → k < j → rows[k]? = some r → r.status = .ok → r.symbol ≠ row.symbol) →
        row.hasMacd = true →
        ∃ r r', row.macd = some r ∧ row'.macd = some r' ∧
          r'.macdPrev = r.macdLast ∧ r'.signalPrev = r.signalLast) :=
  ⟨fun _ _ y lastClose lastClose' hf hfs hg hn =>
      Macd.lastTwo_append_shifts hf (Int.le_of_lt hfs) hg hn y lastClose lastClose',
    fun _ _ _ _ hmake hmp hs hrun _ _ _ _ hij hi hj hok hok' hsym hnone hvalid =>
      Monitor.session_pairs_shift hmake hmp hs hrun hij hi hj hok hok' hsym hnone hvalid⟩

namespace Monitor

/-- Session mode with the shortest periods and the symbol `A` listed five
times: one poll appends five closes to its series. -/
def fiveQuotes : Settings :=
  { quickSession with
    watchlist := { quickSession.watchlist with symbols := some (.list (List.replicate 5 (.str "A"))) } }

/-- The standard periods over forty closes and one more; and one poll of
`fiveQuotes`, whose fourth row is the first with a reading. -/
theorem five_quotes_shift_pairs :
    let xs : List Float := (List.range 40).map Float.ofNat
    ((Macd.lastTwo ⟨12, 26, 9⟩ (xs ++ [2.5]) none).macdPrev =
        (Macd.lastTwo ⟨12, 26, 9⟩ xs none).macdLast ∧
      (Macd.lastTwo ⟨12, 26, 9⟩ (xs ++ [2.5]) none).signalPrev =
        (Macd.lastTwo ⟨12, 26, 9⟩ xs none).signalLast) ∧
    ∃ (m₀ m : Monitor) (rows : List Row) (row row' : Row), Monitor.make fiveQuotes = .ok m₀ ∧
      Polled m₀ rows m ∧
      rows[3]? = some row ∧ rows[4]? = some row' ∧ row.status = .ok ∧ row'.status = .ok ∧
      row'.symbol = row.symbol ∧ row.hasMacd = true ∧
      ∃ r r', row.macd = some r ∧ row'.macd = some r' ∧
        r'.macdPrev = r.macdLast ∧ r'.signalPrev = r.signalLast := by
  intro xs
  refine ⟨appended_close_shifts_pairs.1 ⟨12, 26, 9⟩ xs 2.5 none none (by decide) (by decide) (by decide)
    (by simp [xs]), ?_⟩
  -- the poll, evaluated: rows 3 and 4 are `ok` rows of `A`, row 3 with a reading
  have hrows : ((Monitor.make fiveQuotes).toOption.bind fun m₀ =>
      (m₀.pollOnce steadyFeed).toOption.map fun p => (p.2[3]?.map fun r => (r.status, r.symbol.sameKey (.str "A"), r.hasMacd),
        p.2[4]?.map fun r => (r.status, r.symbol.sameKey (.str "A"), r.hasMacd))) =
      some (some (.ok, true, true), some (.ok, true, true)) := by
    decide +kernel
  obtain ⟨m₀, hmake, hrows⟩ := Option.bind_eq_some_iff.mp hrows
  obtain ⟨⟨m, rows⟩, hpoll, hrows⟩ := Option.map_eq_some_iff.mp hrows
  replace hmake := Except.eq_ok_of_toOption hmake
  replace hpoll := Except.eq_ok_of_toOption hpoll
  simp only [Prod.mk.injEq] at hrows
  obtain ⟨h3, h4⟩ := hrows
  obtain ⟨row, hi, hrow⟩ := Option.map_eq_some_iff.mp h3
  obtain ⟨row', hj, hrow'⟩ := Option.map_eq_some_iff.mp h4
  simp only [Prod.mk.injEq] at hrow hrow'
  obtain ⟨hok, hA, hvalid⟩ := hrow
  obtain ⟨hok', hA', -⟩ := hrow'
  have hsym : row'.symbol = row.symbol := by
    rw [(Value.str_sameKey_iff _ _).mp hA, (Value.str_sameKey_iff _ _).mp hA']
  have hrun : Polled m₀ rows m := by
    have hrun := Polled.poll steadyFeed hpoll (.nil m)
    rwa [List.append_nil] at hrun
  have hs : m₀.sessionMode = true := by
    rw [sessionMode, (make_cases hmake).1]
    rfl
  exact ⟨m₀, m, rows, row, row', hmake, hrun, hi, hj, hok, hok', hsym, hvalid,
    (@appended_close_shifts_pairs Float _).2 fiveQuotes m₀ m rows hmake rfl hs hrun 3 4 row row'
      (by omega) hi hj hok hok' hsym (fun _ _ h₁ h₂ => absurd h₂ (by omega)) hvalid⟩

end Monitor

end QuoteMomentum
