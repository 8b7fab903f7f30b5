import QuoteMomentum.Monitor.Poll

/-!
# What a poll makes of an answer

The row a poll makes for a symbol depends on the feed's answer alone.
`Feed.Answer.verdict` says which row, in the terms of the answer itself:

* `failed`: the transport raised; or a status of 400 or more and no error
  object of the feed's own under `chart.error` of what the reply's own JSON
  reading makes of the body; or a body of a lower status that is no JSON
  document;
* `refused d`: the feed's error object, with its description `d` (the generic
  one when it gives no text), on a status of 400 or more, or on a document
  whose `chart.result` has no object first;
* `thin f`: a first result whose closes or previous close cannot be found,
  for the reason `f`;
* `quote s`: the summary `s` of the first result.

This holds of an answer the reader can take in (`Feed.Answer.Readable`): on
a status of 400 or more, the reply's JSON reading gives a document or refuses
the body, and raises nothing else; on a lower status the body is no document,
or a document with every whole number in the range of a double, never one
nested past the reader's limit. Past that limit the reader stops with a fault
of its own, and a whole number out of range stops the test of a close.

`Feed.outcome_agrees` is the statement: reading the answer and summarizing its
first result gives the verdict's summary, or a fault that `Monitor.failedRow`
makes a row of, and that row shows the verdict.
-/

namespace QuoteMomentum

/-! ## Readable answers -/

/-- A JSON document whose every whole number converts to a double. -/
inductive Value.IntsFit : Value → Prop
  | null : IntsFit .null
  | bool (b : Bool) : IntsFit (.bool b)
  | int {n : Int} {x : Float} : Num.wholeToDouble n = .ok x → IntsFit (.int n)
  | float (x : Float) : IntsFit (.float x)
  | str (s : String) : IntsFit (.str s)
  | list {xs : List Value} : (∀ x ∈ xs, IntsFit x) → IntsFit (.list xs)
  | dict {es : List (Value × Value)} : (∀ e ∈ es, IntsFit e.2) → IntsFit (.dict es)

namespace Value.IntsFit

theorem get? {v w : Value} {k : String} (hv : v.IntsFit) (h : v.get? k = some w) : w.IntsFit := by
  cases hv with
  | dict hes =>
    simp only [Value.get?, Option.map_eq_some_iff] at h
    obtain ⟨e, he, rfl⟩ := h
    exact hes e (List.mem_of_find?_eq_some he)
  | _ => simp [Value.get?] at h

theorem getD {v : Value} (hv : v.IntsFit) (k : String) : (v.getD k).IntsFit := by
  unfold Value.getD
  cases h : v.get? k with
  | none => exact .null
  | some w => exact hv.get? h

theorem of_mem {xs : List Value} {x : Value} (hv : (Value.list xs).IntsFit) (h : x ∈ xs) :
    x.IntsFit := by
  cases hv with
  | list hxs => exact hxs x h

end Value.IntsFit

namespace Feed

/-- An answer a poll can take in. A reply of status 400 or more has a JSON
reading that does not raise; any other reply has a body that is no document,
or a document whose whole numbers all fit a double, never nested past the
reader's limit. -/
def Answer.Readable : Answer → Prop
  | .raised _ => True
  | .reply status body json =>
    (400 ≤ status → ∃ j, json = .ok j) ∧
      (¬400 ≤ status → ∃ d, bodyDocument body = .ok d ∧ ∀ v, d = .ok v → v.IntsFit)

/-! ## The verdict on an answer -/

/-- The JSON document in a body, if it decodes and reads as one. -/
def document? (body : ByteArray) : Option Value :=
  match bodyDocument body with
  | .ok (.ok v) => some v
  | _ => none

/-- Why the feed refused a request, from the error object under `error` of a
chart object: its `description` when that is a text, else the generic reason. -/
def refusal? (chart : Value) : Option String :=
  match chart.get? "error" with
  | some err@(.dict _) =>
    some (match err.get? "description" with
      | some (.str d) => d
      | _ => noData)
  | _ => none

/-- The first result of a chart document: the first entry of `chart.result`,
when the list has one and it is an object. -/
def firstResult? (payload : Value) : Option Value :=
  match (payload.getD "chart").getD "result" with
  | .list (r@(.dict _) :: _) => some r
  | _ => none

/-- What the row for an answer shows. -/
inductive Verdict where
  /-- The request or its answer failed. -/
  | failed
  /-- The feed refused the request, with this description. -/
  | refused (description : String)
  /-- The result had too little in it. -/
  | thin (fault : ShapeFault)
  /-- A quote, with this summary. -/
  | quote (summary : Quote.Summary)

/-- The verdict on an answer; `intraday` puts the meta fields first for the
previous close. -/
def Answer.verdict (intraday : Bool) : Answer → Verdict
  | .raised _ => .failed
  | .reply status body json =>
    if 400 ≤ status then
      match refusal? ((json.toOption.join.getD .null).getD "chart") with
      | some d => .refused d
      | none => .failed
    else
      match document? body with
      | none => .failed
      | some payload =>
        match firstResult? payload with
        | none => .refused ((refusal? (payload.getD "chart")).getD noData)
        | some r =>
          match Quote.summarize r intraday with
          | .ok s => .quote s
          | .error (.shape f) => .thin f
          -- no other fault comes of a readable result (`Quote.summarize_faults`)
          | .error _ => .failed

end Feed

/-- A row shows a verdict: its status, and the error text or the summary. -/
def Row.Shows (row : Row) : Feed.Verdict → Prop
  | .failed => row.status = .fetchFailed ∧ row.error = .str "Failed to fetch data"
  | .refused d => row.status = .apiError ∧ row.error = .str d
  | .thin f => row.status = .noData ∧ row.error = .str ("Insufficient data: " ++ f.reason)
  | .quote s => row.status = .ok ∧ row.summary = some s ∧ row.macd.isSome

/-! ## Summaries of readable results -/

namespace Quote

/-- A value of a readable document is a number or not, and a number reads as a
double. -/
theorem isNumber_of_fits {c : Value} (hc : c.IntsFit) :
    isNumber c = .ok false ∨ (isNumber c = .ok true ∧ ∃ x, toDouble c = .ok x) := by
  cases hc with
  | int hx => exact .inr ⟨by simp [isNumber, hx, bind, Except.bind, pure, Except.pure], _, hx⟩
  | float x =>
    cases hfin : x.isFinite
    · exact .inl (by simp [isNumber, hfin])
    · exact .inr ⟨by simp [isNumber, hfin], x, rfl⟩
  | _ => exact .inl rfl

theorem numericEntries_ok {raw : List Value} (h : ∀ c ∈ raw, c.IntsFit) :
    ∃ cs, numericEntries raw = .ok cs := by
  induction raw with
  | nil => exact ⟨[], rfl⟩
  | cons c raw ih =>
    obtain ⟨cs, hcs⟩ := ih fun c' hc' => h c' (List.mem_cons_of_mem c hc')
    unfold numericEntries at hcs ⊢
    rcases isNumber_of_fits (h c List.mem_cons_self) with hn | ⟨hn, x, hx⟩
    · exact ⟨cs, by rw [List.filterMapM_cons, hn]; exact hcs⟩
    · exact ⟨x :: cs, by rw [List.filterMapM_cons, hn, hx, hcs]; rfl⟩

/-- A computation that fails, if it does, only for want of something in the
shape of a result. -/
def ShapeOnly {α : Type} (x : Except Fault α) : Prop := ∀ e, x = .error e → ∃ f, e = .shape f

theorem closes_shapeOnly {r : Value} (hr : r.IntsFit) : ShapeOnly (closes r) := by
  intro e he
  unfold closes at he
  simp only [bind, Except.bind, throw, throwThe, MonadExceptOf.throw, pure, Except.pure] at he
  repeat' split at he
  all_goals first
    | exact ⟨_, (Except.error.inj he).symm⟩
    | cases he
  -- what is left is a refusal of the closes themselves, which readable entries never meet
  rename_i q tail hquote _ _ raw hclose _ hbad
  have hq : q.IntsFit := by
    have hquotes := (hr.getD "indicators").getD "quote"
    rw [hquote] at hquotes
    exact hquotes.of_mem List.mem_cons_self
  have hraw := hq.getD "close"
  rw [hclose] at hraw
  obtain ⟨cs, hcs⟩ := numericEntries_ok fun c hc => hraw.of_mem hc
  rw [hcs] at hbad
  cases hbad

theorem previousClose_ok {info : Value} (hi : info.IntsFit) : ∃ o, previousClose info = .ok o := by
  -- the fields are tried in order, each a number or not
  have hgo : ∀ ks, ∃ o, previousClose.go info ks = .ok o := by
    intro ks
    induction ks with
    | nil => exact ⟨none, rfl⟩
    | cons k ks ih =>
      obtain ⟨o, ho⟩ := ih
      rcases isNumber_of_fits (hi.getD k) with hn | ⟨hn, x, hx⟩
      · exact ⟨o, by simp only [previousClose.go, hn]; exact ho⟩
      · exact ⟨some x, by simp only [previousClose.go, hn, hx]; rfl⟩
  unfold previousClose
  split
  · exact ⟨none, rfl⟩
  · exact hgo _

/-- Summarizing a readable result fails only for want of closes or of a
previous close. -/
theorem summarize_shapeOnly {r : Value} (hr : r.IntsFit) (intraday : Bool) :
    ShapeOnly (summarize r intraday) := by
  intro e he
  unfold summarize at he
  cases hc : closes r with
  | error e' =>
    rw [hc] at he
    cases he
    exact closes_shapeOnly hr _ hc
  | ok cs =>
    obtain ⟨o, ho⟩ := previousClose_ok (hr.getD "meta")
    simp only [hc, ho, bind, Except.bind] at he
    split at he
    · cases he
    · exact ⟨_, (Except.error.inj he).symm⟩

end Quote

namespace Feed

/-! ## The chart envelope, read through the verdict's terms -/

theorem document?_eq {body : ByteArray} {d : Except String Value} (h : bodyDocument body = .ok d) :
    document? body = d.toOption := by
  cases d <;> simp [document?, h, Except.toOption]

theorem chartError_of_refusal {chart : Value} {d : String} (h : refusal? chart = some d)
    (status : Option Int) : ∃ code, chartError chart status = some (.rejected d code status) := by
  unfold refusal? at h
  unfold chartError
  -- both read the same entry, and describe an object under it the same way
  cases hget : chart.get? "error" with
  | none =>
    rw [hget] at h
    cases h
  | some err =>
    rw [hget] at h
    cases err with
    | dict es =>
      simp only [Option.some.injEq] at h
      subst h
      exact ⟨_, rfl⟩
    | _ => cases h

theorem chartError_of_no_refusal {chart : Value} (h : refusal? chart = none) (status : Option Int) :
    chartError chart status = none := by
  unfold refusal? at h
  unfold chartError
  cases hget : chart.get? "error" with
  | none => rfl
  | some err =>
    rw [hget] at h
    cases err with
    | dict es => cases h
    | _ => rfl

theorem chartResult_of_first {payload r : Value} (h : firstResult? payload = some r) :
    chartResult payload = .ok r := by
  unfold firstResult? at h
  unfold chartResult
  split at h
  · rename_i r' es rest hres
    cases h
    simp only [hres]
  · cases h

theorem chartResult_of_no_first {payload : Value} (h : firstResult? payload = none) :
    ∃ code, chartResult payload =
      .error (.feed (.rejected ((refusal? (payload.getD "chart")).getD noData) code none)) := by
  have herr : chartResult payload =
      .error (.feed ((chartError (payload.getD "chart")).getD (.rejected noData none none))) := by
    unfold firstResult? at h
    unfold chartResult
    split at h
    · cases h
    · rename_i hnone
      dsimp only
      split
      · rename_i hres
        exact absurd hres (hnone _ _)
      · rfl
  cases hr : refusal? (payload.getD "chart") with
  | some d =>
    obtain ⟨code, hcode⟩ := chartError_of_refusal hr none
    exact ⟨code, by rw [herr, hcode]; rfl⟩
  | none => exact ⟨none, by rw [herr, chartError_of_no_refusal hr]; rfl⟩

theorem firstResult?_fits {payload r : Value} (hp : payload.IntsFit) (h : firstResult? payload = some r) :
    r.IntsFit := by
  have hres := (hp.getD "chart").getD "result"
  unfold firstResult? at h
  split at h
  · rename_i r' es rest hlist
    cases h
    rw [hlist] at hres
    exact hres.of_mem List.mem_cons_self
  · cases h

theorem bodyOf_refused {status : Int} {body : ByteArray} {j : Option Value} {desc : String}
    (hs : 400 ≤ status) (hr : refusal? ((j.getD .null).getD "chart") = some desc) :
    ∃ code, bodyOf (.reply status body (.ok j)) = .error (.feed (.rejected desc code (some status))) := by
  obtain ⟨code, hcode⟩ := chartError_of_refusal hr (some status)
  exact ⟨code, by simp [bodyOf, hs, hcode, bind, Except.bind, throw, throwThe, MonadExceptOf.throw]⟩

theorem bodyOf_failed {status : Int} {body : ByteArray} {j : Option Value} (hs : 400 ≤ status)
    (hr : refusal? ((j.getD .null).getD "chart") = none) :
    bodyOf (.reply status body (.ok j)) = .error (.feed (.httpStatus status)) := by
  simp [bodyOf, hs, chartError_of_no_refusal hr, bind, Except.bind, throw, throwThe,
    MonadExceptOf.throw]

theorem bodyOf_low {status : Int} (hs : ¬400 ≤ status) (body : ByteArray)
    (json : Except Fault (Option Value)) : bodyOf (.reply status body json) = .ok body := by
  simp [bodyOf, hs, pure, Except.pure]

theorem resultOf_undecodable {status : Int} {body : ByteArray} {msg : String} (hs : ¬400 ≤ status)
    (hd : bodyDocument body = .ok (.error msg)) (json : Except Fault (Option Value)) :
    resultOf (.reply status body json) = .error (.feed (.undecodable msg)) := by
  rw [resultOf, bodyOf_low hs]
  simp [hd, bind, Except.bind, throw, throwThe, MonadExceptOf.throw]

theorem resultOf_document {status : Int} {body : ByteArray} {payload : Value} (hs : ¬400 ≤ status)
    (hd : bodyDocument body = .ok (.ok payload)) (json : Except Fault (Option Value)) :
    resultOf (.reply status body json) = chartResult payload := by
  rw [resultOf, bodyOf_low hs]
  simp [hd, bind, Except.bind]

/-! ## Each answer -/

/-- A poll's reading of an answer agrees with a verdict: a summary is the
verdict's quote; a fault is one `Monitor.failedRow` makes a row of, for the
symbol, and the row shows the verdict. -/
def Agrees (symbol : Value) : Except Fault Quote.Summary → Verdict → Prop
  | .ok s, v => v = .quote s
  | .error e, v => ∃ row, Monitor.failedRow symbol e = some row ∧ row.symbol = symbol ∧ row.Shows v

theorem agrees_rejected (symbol : Value) (d : String) (code : Option String) (status : Option Int) :
    Agrees symbol (.error (.feed (.rejected d code status))) (.refused d) :=
  ⟨_, rfl, rfl, rfl, rfl⟩

theorem agrees_failed (symbol : Value) {f : FeedFault}
    (hf : ∀ d code status, f ≠ .rejected d code status) : Agrees symbol (.error (.feed f)) .failed := by
  cases f with
  | rejected d code status => exact absurd rfl (hf d code status)
  | _ => exact ⟨_, rfl, rfl, rfl, rfl⟩

theorem agrees_summarize (symbol : Value) {r : Value} (hr : r.IntsFit) (intraday : Bool) :
    Agrees symbol (Quote.summarize r intraday)
      (match Quote.summarize r intraday with
        | .ok s => .quote s
        | .error (.shape f) => .thin f
        | .error _ => .failed) := by
  cases hs : Quote.summarize r intraday with
  | ok s => rfl
  | error e =>
    obtain ⟨f, rfl⟩ := Quote.summarize_shapeOnly hr intraday e hs
    exact ⟨_, rfl, rfl, rfl, rfl⟩

/-- **Each answer.** Reading a readable answer and summarizing its first result
agrees with the verdict on the answer. -/
theorem outcome_agrees {ans : Answer} (h : ans.Readable) (symbol : Value) (intraday : Bool) :
    Agrees symbol (resultOf ans >>= fun r => Quote.summarize r intraday) (ans.verdict intraday) := by
  cases ans with
  | raised m => exact agrees_failed symbol (by simp)
  | reply status body json =>
    by_cases hs : 400 ≤ status
    · -- the reply's own reading of the body can only explain the failure
      obtain ⟨j, rfl⟩ := h.1 hs
      simp only [Answer.verdict, if_pos hs]
      cases hr : refusal? ((j.getD .null).getD "chart") with
      | some desc =>
        obtain ⟨code, hb⟩ := bodyOf_refused hs hr
        simp only [Except.toOption, Option.join_some, hr]
        rw [resultOf, hb]
        exact agrees_rejected symbol desc code (some status)
      | none =>
        simp only [Except.toOption, Option.join_some, hr]
        rw [resultOf, bodyOf_failed hs hr]
        exact agrees_failed symbol (by simp)
    · obtain ⟨d, hd, hfit⟩ := h.2 hs
      simp only [Answer.verdict, if_neg hs, document?_eq hd]
      cases d with
      | error msg =>
        rw [resultOf_undecodable hs hd]
        refine agrees_failed symbol ?_
        simp
      | ok payload =>
        have hp := hfit payload rfl
        simp only [Except.toOption]
        rw [resultOf_document hs hd]
        cases hfirst : firstResult? payload with
        | none =>
          obtain ⟨code, hc⟩ := chartResult_of_no_first hfirst
          rw [hc]
          exact agrees_rejected symbol _ code none
        | some r =>
          rw [chartResult_of_first hfirst]
          exact agrees_summarize symbol (firstResult?_fits hp hfirst) intraday

end Feed

end QuoteMomentum
