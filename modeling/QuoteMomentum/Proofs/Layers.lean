import QuoteMomentum.Proofs.Configure

/-!
# Where each setting comes from

Loading stacks three layers: the defaults, the configuration file and the
environment. A setting takes the value its environment variable gives, when
that variable is set and not empty; else the value under its key in its
section of the file; else its default (`Settings.layered`). Loading then
returns exactly the layered settings when they pass the checks, and fails with
the fault of the checks, or of reading the refresh interval as a whole number,
when they do not (`Settings.load_layers`).

A key of the file that names no field changes nothing and refuses nothing, as
long as the section object has no attribute of that name that is not a field:
the watchlist's computed `intraday` cannot be written, `__dict__` replaces the
whole section and `__class__` and `__weakref__` refuse any value a document
holds. The law is stated for documents that count as false or are mappings
whose sections are missing, null, or mappings from texts other than those
names (`Settings.documentShaped`): a section that is no mapping has no entries
to read, and a key that is no text names no attribute.

The proof reads each section update as a closed form, the section with every
field replaced by the last entry written under its name (`Watchlist.written`
and its siblings), and the environment as the six overrides applied at once
(`applyEnvironment_eq`).
-/

namespace QuoteMomentum.Settings

/-! ## The layers -/

/-- Whether a key of a mapping is the text `k`. -/
def isKey (k : String) : Value → Bool
  | .str t => t == k
  | _ => false

/-- The value a list of entries gives the text key `k`: that of the last entry
under it, as reading a mapping with a repeated key keeps the last value. -/
def lastEntry (es : List (Value × Value)) (k : String) : Option Value :=
  es.foldl (fun acc e => if isKey k e.1 then some e.2 else acc) none

/-- What the file says for the field `key` of the section `name`: nothing when
the document counts as false or the section has no entry under the key. -/
def fileEntry (doc : Document.Objects) (name key : String) : Option Value :=
  if doc.value.truthy then
    match sectionOf doc name with
    | .dict es => lastEntry es key
    | _ => none
  else none

/-- A setting read from a variable that is set and not empty, else `fallback`. -/
def fromEnv (env : Environment) (name : String) (read : String → Value) (fallback : Value) :
    Value :=
  match env.given name with
  | some t => read t
  | none => fallback

/-- The settings the layers give, field by field: the variable's value when it
is given, else the file's, else the default. Only the refresh interval can
fail, when its variable spells no whole number. -/
def layered (doc : Document.Objects) (env : Environment) : Except Fault Settings := do
  let file (name key : String) (default : Value) : Value := (fileEntry doc name key).getD default
  let w := Watchlist.standard
  let i := Indicators.standard
  let f := Feed.standard
  let d := Display.standard
  let l := Logging.standard
  let refresh ← match env.given "QUOTEWATCH_REFRESH_SECONDS" with
    | some t => Value.int <$> Text.readWhole t
    | none => pure (file "watchlist" "refresh_interval_seconds" w.refreshIntervalSeconds)
  return {
    watchlist := {
      symbols := some (fromEnv env "QUOTEWATCH_SYMBOLS" symbolList
        (file "watchlist" "symbols" (w.symbols.getD .null)))
      refreshIntervalSeconds := refresh
      historyMode := fromEnv env "QUOTEWATCH_HISTORY_MODE" (fun t => .str (Text.lower (Text.strip t)))
        (file "watchlist" "history_mode" w.historyMode)
      chartRange := file "watchlist" "chart_range" w.chartRange
      chartInterval := file "watchlist" "chart_interval" w.chartInterval
      includePrePost := file "watchlist" "include_pre_post" w.includePrePost
      fetchWorkers := file "watchlist" "fetch_workers" w.fetchWorkers }
    indicators := {
      fastPeriod := file "indicators" "fast_period" i.fastPeriod
      slowPeriod := file "indicators" "slow_period" i.slowPeriod
      signalPeriod := file "indicators" "signal_period" i.signalPeriod
      crossSaturationPct := file "indicators" "cross_saturation_pct" i.crossSaturationPct
      sessionMaxPoints := file "indicators" "session_max_points" i.sessionMaxPoints }
    feed := {
      baseUrl := file "feed" "base_url" f.baseUrl
      userAgent := fromEnv env "QUOTEWATCH_USER_AGENT" .str (file "feed" "user_agent" f.userAgent)
      timeoutSeconds := file "feed" "timeout_seconds" f.timeoutSeconds
      rateLimitCallsPerMinute := file "feed" "rate_limit_calls_per_minute" f.rateLimitCallsPerMinute
      burstLimit := file "feed" "burst_limit" f.burstLimit }
    display := {
      color := file "display" "color" d.color
      clearScreen := file "display" "clear_screen" d.clearScreen }
    logging := {
      level := fromEnv env "LOG_LEVEL" (fun t => .str (Text.upper t)) (file "logging" "level" l.level)
      format := fromEnv env "LOG_FORMAT" (fun t => .str (Text.lower t)) (file "logging" "format" l.format)
      includeTimestamps := file "logging" "include_timestamps" l.includeTimestamps } }

/-! ## Documents the law covers -/

/-- The names a section object answers to that are not fields and that a
document cannot write without replacing the section or failing: the
watchlist's computed `intraday`, and `__dict__`, `__class__` and `__weakref__`
of every section. -/
def reservedNames (name : String) : List String :=
  (if name = "watchlist" then ["intraday"] else []) ++ ["__dict__", "__class__", "__weakref__"]

/-- A section as the law takes it: missing or null, or a mapping whose keys are
texts other than the reserved names. -/
def sectionShaped (reserved : List String) : Value → Bool
  | .null => true
  | .dict es => es.all fun e =>
    match e.1 with
    | .str k => !reserved.contains k
    | _ => false
  | _ => false

/-- A document as the law takes it: one that counts as false, or a mapping each
of whose sections is shaped. -/
def documentShaped (doc : Document.Objects) : Bool :=
  !doc.value.truthy ||
    ((doc.entries? doc.root).isSome &&
      sectionNames.all fun name => sectionShaped (reservedNames name) (sectionOf doc name))

/-! ## Last entries -/

@[simp] theorem lastEntry_nil (k : String) : lastEntry [] k = none := rfl

theorem lastEntry_append_singleton (es : List (Value × Value)) (key : Value) (v : Value) (k : String) :
    lastEntry (es ++ [(key, v)]) k = if isKey k key then some v else lastEntry es k := by
  simp [lastEntry, List.foldl_append]

@[simp] theorem isKey_str (k t : String) : isKey k (.str t) = (t == k) := rfl

/-! ## Writing a section -/

namespace Section

variable {σ : Type} (sec : Section σ)

/-- What writing a text key does when it is none of the reserved names: a
field the object has is set, anything else leaves the object as it is. -/
def keep (s : σ) (k : String) (v : Value) : σ :=
  if sec.lacks s k then s else (sec.set s k v).getD s

/-- An entry whose key is a text, written as `keep` says. -/
def keepEntry (s : σ) (e : Value × Value) : σ :=
  match e.1 with
  | .str k => sec.keep s k e.2
  | _ => s

theorem write_of_not_reserved {s : σ} {k : String} (v : Value)
    (hk : k ≠ "__dict__" ∧ k ≠ "__class__" ∧ k ≠ "__weakref__") (hro : k ∉ sec.readOnly) :
    sec.write s (.str k) v = .ok (sec.keep s k v) := by
  cases hlacks : sec.lacks s k with
  | true => simp [write, hk.1, hk.2.1, hk.2.2, keep, hlacks]
  | false =>
    cases hset : sec.set s k v with
    | some s' => simp [write, hk.1, hk.2.1, hk.2.2, keep, hlacks, hset]
    | none => simp [write, hk.1, hk.2.1, hk.2.2, keep, hlacks, hset, hro]

theorem foldlM_of_ok {α β ε : Type} (f : β → α → Except ε β) (g : β → α → β) (l : List α)
    (h : ∀ s, ∀ a ∈ l, f s a = .ok (g s a)) (s : β) : l.foldlM f s = .ok (l.foldl g s) := by
  induction l generalizing s with
  | nil => rfl
  | cons a l ih =>
    rw [List.foldlM_cons, h s a List.mem_cons_self]
    exact ih (fun s' a' ha' => h s' a' (List.mem_cons_of_mem _ ha')) _

/-- A shaped mapping updates a section entry by entry, each as `keep` says. -/
theorem update_dict {reserved : List String} (hres : ∀ k ∈ ["__dict__", "__class__", "__weakref__"] ++
      sec.readOnly, k ∈ reserved)
    (s : σ) {es : List (Value × Value)} (hes : sectionShaped reserved (.dict es) = true) :
    sec.update s (.dict es) = .ok (es.foldl sec.keepEntry s) := by
  refine foldlM_of_ok _ _ es (fun s e he => ?_) s
  obtain ⟨key, v⟩ := e
  have hkey := List.all_eq_true.1 hes _ he
  cases key with
  | str k =>
    have hnot : k ∉ reserved := by simpa using hkey
    have hk : k ≠ "__dict__" ∧ k ≠ "__class__" ∧ k ≠ "__weakref__" :=
      ⟨fun h => hnot (hres k (by simp [h])), fun h => hnot (hres k (by simp [h])),
        fun h => hnot (hres k (by simp [h]))⟩
    exact sec.write_of_not_reserved v hk fun h => hnot (hres k (by simp [h]))
  | _ => simp at hkey

/-- Writing entries one by one reaches the closed form `close` of all of them,
when writing one more entry moves the closed form along. -/
theorem foldl_keepEntry (close : List (Value × Value) → σ)
    (hstep : ∀ es k v, sec.keep (close es) k v = close (es ++ [(.str k, v)]))
    {es : List (Value × Value)} (hes : ∀ e ∈ es, ∃ k, e.1 = .str k) :
    es.foldl sec.keepEntry (close []) = close es := by
  induction es using List.reverseRecOn with
  | nil => rfl
  | append_singleton es e ih =>
    obtain ⟨key, v⟩ := e
    obtain ⟨k, hk⟩ := hes _ (List.mem_append_right _ (List.mem_singleton_self _))
    dsimp only at hk
    subst hk
    rw [List.foldl_append, ih (fun e he => hes e (List.mem_append_left _ he))]
    exact hstep es k v

end Section

/-! ## Sections as closed forms -/

/-- A name the object answers to without its being a field leaves it as it is,
and so does a name it does not know. -/
theorem getD_inert {σ : Type} (c : Prop) [Decidable c] (s : σ) : (if c then some s else none).getD s = s := by
  split <;> rfl

/-- The indicators with every field replaced by the last entry under its name. -/
def Indicators.written (s : Indicators) (es : List (Value × Value)) : Indicators where
  fastPeriod := (lastEntry es "fast_period").getD s.fastPeriod
  slowPeriod := (lastEntry es "slow_period").getD s.slowPeriod
  signalPeriod := (lastEntry es "signal_period").getD s.signalPeriod
  crossSaturationPct := (lastEntry es "cross_saturation_pct").getD s.crossSaturationPct
  sessionMaxPoints := (lastEntry es "session_max_points").getD s.sessionMaxPoints

theorem Indicators.keep_written (s : Indicators) (es : List (Value × Value)) (k : String) (v : Value) :
    Indicators.schema.keep (s.written es) k v = s.written (es ++ [(.str k, v)]) := by
  simp only [Section.keep, Indicators.schema, Bool.false_eq_true, if_false]
  split <;> simp_all [Indicators.written, lastEntry_append_singleton, getD_inert]

/-- The watchlist with every field replaced by the last entry under its name;
symbols it lacks stay lacking. -/
def Watchlist.written (w : Watchlist) (es : List (Value × Value)) : Watchlist where
  symbols := w.symbols.map fun d => (lastEntry es "symbols").getD d
  refreshIntervalSeconds := (lastEntry es "refresh_interval_seconds").getD w.refreshIntervalSeconds
  historyMode := (lastEntry es "history_mode").getD w.historyMode
  chartRange := (lastEntry es "chart_range").getD w.chartRange
  chartInterval := (lastEntry es "chart_interval").getD w.chartInterval
  includePrePost := (lastEntry es "include_pre_post").getD w.includePrePost
  fetchWorkers := (lastEntry es "fetch_workers").getD w.fetchWorkers

theorem Watchlist.keep_written (w : Watchlist) (es : List (Value × Value)) (k : String) (v : Value) :
    Watchlist.schema.keep (w.written es) k v = w.written (es ++ [(.str k, v)]) := by
  simp only [Section.keep, Watchlist.schema]
  cases hs : w.symbols with
  | none =>
    by_cases hk : k = "symbols"
    · subst hk
      simp [Watchlist.written, hs, lastEntry_append_singleton]
    · simp only [hs, Watchlist.written, Option.map_none, Option.isNone_none, Bool.and_true, beq_iff_eq, hk, if_false]
      split <;> simp_all [lastEntry_append_singleton, getD_inert]
  | some d =>
    simp only [Watchlist.written, hs, Option.map_some, Option.isNone_some, Bool.and_false, Bool.false_eq_true, if_false]
    split <;> simp_all [lastEntry_append_singleton, getD_inert]

/-- The feed with every field replaced by the last entry under its name. -/
def Feed.written (s : Feed) (es : List (Value × Value)) : Feed where
  baseUrl := (lastEntry es "base_url").getD s.baseUrl
  userAgent := (lastEntry es "user_agent").getD s.userAgent
  timeoutSeconds := (lastEntry es "timeout_seconds").getD s.timeoutSeconds
  rateLimitCallsPerMinute := (lastEntry es "rate_limit_calls_per_minute").getD s.rateLimitCallsPerMinute
  burstLimit := (lastEntry es "burst_limit").getD s.burstLimit

theorem Feed.keep_written (s : Feed) (es : List (Value × Value)) (k : String) (v : Value) :
    Feed.schema.keep (s.written es) k v = s.written (es ++ [(.str k, v)]) := by
  simp only [Section.keep, Feed.schema, Bool.false_eq_true, if_false]
  split <;> simp_all [Feed.written, lastEntry_append_singleton, getD_inert]

/-- The display with every field replaced by the last entry under its name. -/
def Display.written (s : Display) (es : List (Value × Value)) : Display where
  color := (lastEntry es "color").getD s.color
  clearScreen := (lastEntry es "clear_screen").getD s.clearScreen

theorem Display.keep_written (s : Display) (es : List (Value × Value)) (k : String) (v : Value) :
    Display.schema.keep (s.written es) k v = s.written (es ++ [(.str k, v)]) := by
  simp only [Section.keep, Display.schema, Bool.false_eq_true, if_false]
  split <;> simp_all [Display.written, lastEntry_append_singleton, getD_inert]

/-- Logging with every field replaced by the last entry under its name. -/
def Logging.written (s : Logging) (es : List (Value × Value)) : Logging where
  level := (lastEntry es "level").getD s.level
  format := (lastEntry es "format").getD s.format
  includeTimestamps := (lastEntry es "include_timestamps").getD s.includeTimestamps

theorem Logging.keep_written (s : Logging) (es : List (Value × Value)) (k : String) (v : Value) :
    Logging.schema.keep (s.written es) k v = s.written (es ++ [(.str k, v)]) := by
  simp only [Section.keep, Logging.schema, Bool.false_eq_true, if_false]
  split <;> simp_all [Logging.written, lastEntry_append_singleton, getD_inert]

/-! ## The environment -/

/-- The six overrides applied at once: each field a variable names takes the
variable's value when it is given, and only the refresh interval can fail. -/
theorem applyEnvironment_eq (s : Settings) (env : Environment) :
    applyEnvironment s env = (do
      let refresh ← match env.given "QUOTEWATCH_REFRESH_SECONDS" with
        | some t => Value.int <$> Text.readWhole t
        | none => pure s.watchlist.refreshIntervalSeconds
      return { s with
        watchlist := { s.watchlist with
          symbols := match env.given "QUOTEWATCH_SYMBOLS" with
            | some t => some (symbolList t)
            | none => s.watchlist.symbols
          refreshIntervalSeconds := refresh
          historyMode := fromEnv env "QUOTEWATCH_HISTORY_MODE"
            (fun t => .str (Text.lower (Text.strip t))) s.watchlist.historyMode }
        feed := { s.feed with userAgent := fromEnv env "QUOTEWATCH_USER_AGENT" .str s.feed.userAgent }
        logging := { s.logging with
          level := fromEnv env "LOG_LEVEL" (fun t => .str (Text.upper t)) s.logging.level
          format := fromEnv env "LOG_FORMAT" (fun t => .str (Text.lower t)) s.logging.format } }) := by
  simp only [applyEnvironment, overrides, List.foldlM_cons, List.foldlM_nil, Override.applyIn, fromEnv]
  -- the overrides touch different fields, so each variable is looked at once
  cases env.given "QUOTEWATCH_REFRESH_SECONDS" with
  | none =>
    cases env.given "QUOTEWATCH_SYMBOLS" <;> cases env.given "QUOTEWATCH_HISTORY_MODE" <;>
      cases env.given "QUOTEWATCH_USER_AGENT" <;> cases env.given "LOG_LEVEL" <;>
      cases env.given "LOG_FORMAT" <;> rfl
  | some t =>
    dsimp only
    cases Text.readWhole t <;> cases env.given "QUOTEWATCH_SYMBOLS" <;>
      cases env.given "QUOTEWATCH_HISTORY_MODE" <;> cases env.given "QUOTEWATCH_USER_AGENT" <;>
      cases env.given "LOG_LEVEL" <;> cases env.given "LOG_FORMAT" <;> rfl

/-! ## The file -/

/-- The entries of a section given as a mapping; none for a section given
otherwise. -/
def entriesOf : Value → List (Value × Value)
  | .dict es => es
  | _ => []

/-- The entries the file gives the section `name`: none when the document counts
as false. -/
def fileEntries (doc : Document.Objects) (name : String) : List (Value × Value) :=
  if doc.value.truthy then entriesOf (sectionOf doc name) else []

/-- The settings the file gives: the defaults with every field the file names
replaced. -/
def fileSettings (doc : Document.Objects) : Settings :=
  ⟨Watchlist.standard.written (fileEntries doc "watchlist"),
    Indicators.standard.written (fileEntries doc "indicators"),
    Feed.standard.written (fileEntries doc "feed"), Display.standard.written (fileEntries doc "display"),
    Logging.standard.written (fileEntries doc "logging")⟩

theorem fileEntry_eq (doc : Document.Objects) (name key : String) :
    fileEntry doc name key = lastEntry (fileEntries doc name) key := by
  unfold fileEntry fileEntries
  split
  · cases sectionOf doc name <;> rfl
  · rfl

/-- A shaped section, given as null or as a mapping, updates a section to the
closed form of its entries. -/
theorem Section.update_closed {σ : Type} (sec : Section σ) (close : List (Value × Value) → σ)
    (hstep : ∀ es k v, sec.keep (close es) k v = close (es ++ [(.str k, v)]))
    {reserved : List String}
    (hres : ∀ k ∈ ["__dict__", "__class__", "__weakref__"] ++ sec.readOnly, k ∈ reserved)
    {data : Value} (hdata : sectionShaped reserved data = true) :
    sec.update (close []) data = .ok (close (entriesOf data)) := by
  cases data with
  | null => rfl
  | dict es =>
    rw [sec.update_dict hres _ hdata]
    -- every key of a shaped mapping is a text
    have hes : ∀ e ∈ es, ∃ k, e.1 = .str k := by
      intro e he
      have hkey := List.all_eq_true.1 hdata e he
      cases hk : e.1 with
      | str k => exact ⟨k, rfl⟩
      | _ => simp [hk] at hkey
    exact congrArg Except.ok (sec.foldl_keepEntry close hstep hes)
  | _ => simp [sectionShaped] at hdata

/-- A shaped document gives the settings of its fields. -/
theorem fromDocument_layers {doc : Document.Objects} (hdoc : documentShaped doc = true) :
    fromDocument standard doc = .ok (fileSettings doc) := by
  unfold fromDocument
  cases htruthy : doc.value.truthy with
  | false =>
    -- a document that counts as false leaves every section at its default
    simp only [htruthy, Bool.not_false, if_true, fileSettings, fileEntries, Bool.false_eq_true, if_false]
    rfl
  | true =>
    have hshaped : (doc.entries? doc.root).isSome = true ∧
        ∀ name ∈ sectionNames, sectionShaped (reservedNames name) (sectionOf doc name) = true := by
      simpa [documentShaped, htruthy, List.all_eq_true] using hdoc
    obtain ⟨es, hes⟩ := Option.isSome_iff_exists.1 hshaped.1
    -- each section of the mapping of sections is the document's section
    have hpart (name : String) (h : name ∈ sectionNames) :
        (Value.ofPairs (sectionNames.map fun k => (k, sectionOf doc k))).getD name = sectionOf doc name :=
      getD_sections _ h
    have hw : Watchlist.schema.update standard.watchlist (sectionOf doc "watchlist") =
        .ok (Watchlist.standard.written (entriesOf (sectionOf doc "watchlist"))) :=
      Watchlist.schema.update_closed Watchlist.standard.written (Watchlist.keep_written _)
        (by simp [reservedNames, Watchlist.schema]) (hshaped.2 "watchlist" (by simp [sectionNames]))
    have hi : Indicators.schema.update standard.indicators (sectionOf doc "indicators") =
        .ok (Indicators.standard.written (entriesOf (sectionOf doc "indicators"))) :=
      Indicators.schema.update_closed Indicators.standard.written (Indicators.keep_written _)
        (by simp [reservedNames, Indicators.schema]) (hshaped.2 "indicators" (by simp [sectionNames]))
    have hf : Feed.schema.update standard.feed (sectionOf doc "feed") =
        .ok (Feed.standard.written (entriesOf (sectionOf doc "feed"))) :=
      Feed.schema.update_closed Feed.standard.written (Feed.keep_written _)
        (by simp [reservedNames, Feed.schema]) (hshaped.2 "feed" (by simp [sectionNames]))
    have hd : Display.schema.update standard.display (sectionOf doc "display") =
        .ok (Display.standard.written (entriesOf (sectionOf doc "display"))) :=
      Display.schema.update_closed Display.standard.written (Display.keep_written _)
        (by simp [reservedNames, Display.schema]) (hshaped.2 "display" (by simp [sectionNames]))
    have hl : Logging.schema.update standard.logging (sectionOf doc "logging") =
        .ok (Logging.standard.written (entriesOf (sectionOf doc "logging"))) :=
      Logging.schema.update_closed Logging.standard.written (Logging.keep_written _)
        (by simp [reservedNames, Logging.schema]) (hshaped.2 "logging" (by simp [sectionNames]))
    have hnames : ["watchlist", "indicators", "feed", "display", "logging"] = sectionNames := rfl
    simp only [htruthy, hes, Bool.not_true, Bool.false_eq_true, if_false, hnames]
    simp only [update, hpart "watchlist" (by simp [sectionNames]), hpart "indicators" (by simp [sectionNames]),
      hpart "feed" (by simp [sectionNames]), hpart "display" (by simp [sectionNames]),
      hpart "logging" (by simp [sectionNames]), hw, hi, hf, hd, hl, Except.ok_bind]
    simp only [fileSettings, fileEntries, htruthy, if_true]
    rfl

/-! ## Loading -/

/-- The layers are the environment's overrides of the file's settings. -/
theorem layered_eq (doc : Document.Objects) (env : Environment) :
    layered doc env = applyEnvironment (fileSettings doc) env := by
  rw [applyEnvironment_eq]
  simp only [layered, fileEntry_eq, fromEnv]
  cases env.given "QUOTEWATCH_REFRESH_SECONDS" <;> cases env.given "QUOTEWATCH_SYMBOLS" <;> rfl

/-- **Settings come from their layers.** For a configuration file whose document
is shaped, whatever the environment, loading returns exactly the layered
settings when they pass the checks, and otherwise fails with the fault of
reading the refresh interval or of the first check they fail. -/
theorem load_layers {raw : String} {doc : Document.Objects}
    (hload : Document.load (fileText raw) = .ok doc) (hdoc : documentShaped doc = true)
    (env : Environment) :
    load (some raw) env = (do let s ← layered doc env; validate s; return s) := by
  simp only [load, hload, Except.ok_bind]
  rw [fromDocument_layers hdoc, Except.ok_bind, layered_eq]

/-- A file that sets the range of the watchlist, read with the level of logging
given in the environment. -/
theorem range_file_level_env :
    ∃ doc, Document.load (fileText "\"watchlist\":\n  \"chart_range\": \"1d\"\n") = .ok doc ∧
      documentShaped doc = true ∧
      load (some "\"watchlist\":\n  \"chart_range\": \"1d\"\n") [("LOG_LEVEL", "debug")] =
        (do let s ← layered doc [("LOG_LEVEL", "debug")]; validate s; return s) := by
  have h : (Document.load (fileText "\"watchlist\":\n  \"chart_range\": \"1d\"\n")).toOption.map
      documentShaped = some true := by
    decide +kernel
  cases hload : Document.load (fileText "\"watchlist\":\n  \"chart_range\": \"1d\"\n") with
  | error f => simp [hload, Except.toOption] at h
  | ok doc =>
    simp only [hload, Except.toOption, Option.map_some, Option.some.injEq] at h
    exact ⟨doc, rfl, h, load_layers hload h _⟩

theorem Except.eq_ok_of_isOk {ε : Type} {e : Except ε Unit} (h : e.isOk = true) : e = .ok () := by
  cases e with
  | ok u => rfl
  | error f => simp [Except.isOk, Except.toBool] at h

theorem Except.exists_error_of_not_isOk {ε α : Type} {e : Except ε α} (h : e.isOk = false) :
    ∃ f, e = .error f := by
  cases e with
  | ok a => simp [Except.isOk, Except.toBool] at h
  | error f => exact ⟨f, rfl⟩

/-- A watchlist written as a list is not read as an empty section: the layers
give the defaults, which pass the checks, but loading fails, as the list has
no entries to read. -/
theorem list_section_not_skipped :
    ∃ doc, Document.load (fileText "\"watchlist\":\n- \"a\"\n") = .ok doc ∧
      (do let s ← layered doc []; validate s) = .ok () ∧
      ∃ f, load (some "\"watchlist\":\n- \"a\"\n") [] = .error f := by
  have h : ((Document.load (fileText "\"watchlist\":\n- \"a\"\n")).toOption.map fun doc =>
      ((do let s ← layered doc []; validate s).isOk, (load (some "\"watchlist\":\n- \"a\"\n") []).isOk)) =
      some (true, false) := by
    decide +kernel
  cases hload : Document.load (fileText "\"watchlist\":\n- \"a\"\n") with
  | error f => simp [hload, Except.toOption] at h
  | ok doc =>
    simp only [hload, Except.toOption, Option.map_some, Option.some.injEq, Prod.mk.injEq] at h
    exact ⟨doc, rfl, Except.eq_ok_of_isOk h.1, Except.exists_error_of_not_isOk h.2⟩

end QuoteMomentum.Settings
