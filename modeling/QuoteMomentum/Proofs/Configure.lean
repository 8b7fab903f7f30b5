import QuoteMomentum.CommandLine.Run
import QuoteMomentum.Proofs.Validate

/-!
# Showing the settings: the summary or a configuration error

A run with `--show-config` reads the configuration file it names, applies the
environment and the command line, checks the settings and writes their
summary. It catches only the faults that are configuration errors (a bad
value, a document that cannot be read, a directory); any other fault escapes
the run.

Other faults do arise, from files that are readable but not well typed: a
section that is a list has no entries to read
(`CommandLine.list_section_escapes`), a period that is a text cannot be
compared, a symbol that is a number cannot be joined into the summary.

For a well-typed file the run always ends as the command line promises
(`CommandLine.show_config_reports`): with the summary of the settings and
status 0, or with `Configuration error: ` and status 2. A file is well typed
(`Settings.documentFits`) when its document counts as false, or is a mapping
whose sections are each null or a mapping of the section's field names to
values of the field's declared type (`Settings.FieldType`); a file whose
document cannot be read at all must fail as a configuration error.

The proof carries one invariant, `Settings.Fits`: the symbols are a list of
texts, every field the checks compare is a number, and the two periods the
checks add are whole. The defaults have it, a well-typed section keeps it,
and so do the environment and the command line's overrides; under it the
checks fail only with their own faults, and the summary is always written.
-/

namespace QuoteMomentum

namespace Settings

/-! ## Declared types -/

/-- The type a settings field is declared with. -/
inductive FieldType where
  /-- A whole number: an integer, or a boolean, which counts as one. -/
  | whole
  /-- A double, or what `whole` admits. -/
  | real
  | text
  | flag
  /-- A list of texts. -/
  | texts
  deriving DecidableEq, Repr

/-- Whether a whole number can be written out: at most `Text.maxDigits` digits. -/
def writable (n : Int) : Bool := decide (n.natAbs < Nat.pow 10 Text.maxDigits)

/-- Whether a value is a text. -/
def isText : Value → Bool
  | .str _ => true
  | _ => false

/-- Whether a value has a declared type. -/
def FieldType.admits : FieldType → Value → Bool
  | .whole, .int n | .real, .int n => writable n
  | .whole, .bool _ | .real, .bool _ | .flag, .bool _ => true
  | .real, .float _ => true
  | .text, .str _ => true
  | .texts, .list xs => xs.all isText
  | _, _ => false

/-- The fields of each section that a configuration may set, with their
declared types. -/
def fieldTypes : String → List (String × FieldType)
  | "watchlist" =>
    [("symbols", .texts), ("refresh_interval_seconds", .whole), ("history_mode", .text),
      ("chart_range", .text), ("chart_interval", .text), ("include_pre_post", .flag),
      ("fetch_workers", .whole)]
  | "indicators" =>
    [("fast_period", .whole), ("slow_period", .whole), ("signal_period", .whole),
      ("cross_saturation_pct", .real), ("session_max_points", .whole)]
  | "feed" =>
    [("base_url", .text), ("user_agent", .text), ("timeout_seconds", .real),
      ("rate_limit_calls_per_minute", .whole), ("burst_limit", .whole)]
  | "display" => [("color", .flag), ("clear_screen", .flag)]
  | "logging" => [("level", .text), ("format", .text), ("include_timestamps", .flag)]
  | _ => []

/-- The sections of the settings, in the order a document updates them. -/
def sectionNames : List String := ["watchlist", "indicators", "feed", "display", "logging"]

/-- A section as a document gives it, well typed: null (or missing), or a
mapping of the section's field names to values of their declared types. -/
def sectionFits (types : List (String × FieldType)) : Value → Bool
  | .null => true
  | .dict es => es.all fun e =>
    match e.1 with
    | .str k => (types.lookup k).any (·.admits e.2)
    | _ => false
  | _ => false

/-- A configuration document is well typed: it counts as false, or it is a
mapping each of whose sections is well typed. -/
def documentFits (doc : Document.Objects) : Bool :=
  !doc.value.truthy ||
    ((doc.entries? doc.root).isSome &&
      sectionNames.all fun name => sectionFits (fieldTypes name) (sectionOf doc name))

theorem admits_whole {v : Value} (h : FieldType.whole.admits v = true) :
    ∃ n, v.num? = some (.whole n) := by
  cases v <;> simp_all [FieldType.admits, Value.num?]

theorem admits_real {v : Value} (h : FieldType.real.admits v = true) : ∃ x, v.num? = some x := by
  cases v <;> simp_all [FieldType.admits, Value.num?]

theorem admits_texts {v : Value} (h : FieldType.texts.admits v = true) :
    ∃ xs, v = .list xs ∧ ∀ x ∈ xs, ∃ t, x = .str t := by
  cases v with
  | list xs =>
    refine ⟨xs, rfl, fun x hx => ?_⟩
    have hstr := List.all_eq_true.1 h x hx
    cases x <;> simp_all [isText]
  | _ => simp [FieldType.admits] at h

theorem mem_of_lookup {types : List (String × FieldType)} {k : String} {t : FieldType}
    (h : types.lookup k = some t) : (k, t) ∈ types := by
  induction types with
  | nil => cases h
  | cons e types ih =>
    obtain ⟨name, t'⟩ := e
    rw [List.lookup_cons] at h
    split at h
    · obtain rfl := beq_iff_eq.1 ‹_›
      cases h
      exact List.mem_cons_self
    · exact List.mem_cons_of_mem _ (ih h)

/-! ## The invariant -/

/-- What the checks and the summary read of a watchlist, well typed: its
symbols are a list of texts, its refresh interval and its workers numbers. -/
structure Watchlist.Fits (w : Watchlist) : Prop where
  symbols : ∃ xs, w.symbols = some (.list xs) ∧ ∀ x ∈ xs, ∃ t, x = .str t
  refresh : ∃ x, w.refreshIntervalSeconds.num? = some x
  workers : ∃ x, w.fetchWorkers.num? = some x

/-- What the checks read of the indicators, well typed: every field is a
number, and the two periods the checks add are whole. -/
structure Indicators.Fits (i : Indicators) : Prop where
  fast : ∃ x, i.fastPeriod.num? = some x
  slow : ∃ n, i.slowPeriod.num? = some (.whole n)
  signal : ∃ n, i.signalPeriod.num? = some (.whole n)
  saturation : ∃ x, i.crossSaturationPct.num? = some x
  bound : ∃ x, i.sessionMaxPoints.num? = some x

/-- Settings whose checks can only fail with their own faults and whose
summary can always be written. -/
structure Fits (s : Settings) : Prop where
  watchlist : s.watchlist.Fits
  indicators : s.indicators.Fits

theorem standard_fits : standard.Fits :=
  ⟨⟨⟨_, rfl, by simp⟩, ⟨_, rfl⟩, ⟨_, rfl⟩⟩, ⟨⟨_, rfl⟩, ⟨_, rfl⟩, ⟨_, rfl⟩, ⟨_, rfl⟩, ⟨_, rfl⟩⟩⟩

/-! ## Well-typed sections -/

namespace Section

variable {σ : Type} (sec : Section σ)

/-- A field name is written as the section's `set` says, unless the object
lacks it. -/
theorem write_field {s s' : σ} {k : String} {v : Value}
    (hk : k ≠ "__dict__" ∧ k ≠ "__class__" ∧ k ≠ "__weakref__") (hlacks : sec.lacks s k = false)
    (hset : sec.set s k v = some s') : sec.write s (.str k) v = .ok s' := by
  simp [write, hk.1, hk.2.1, hk.2.2, hlacks, hset]

/-- A section keeps an invariant through a well-typed update when every write
of a value of a field's type keeps it. -/
theorem update_fits (types : List (String × FieldType)) (P : σ → Prop)
    (hwrite : ∀ s k t v, P s → (k, t) ∈ types → t.admits v = true →
      ∃ s', sec.write s (.str k) v = .ok s' ∧ P s')
    (s : σ) (hs : P s) {data : Value} (hdata : sectionFits types data = true) :
    ∃ s', sec.update s data = .ok s' ∧ P s' := by
  cases data with
  | null => exact ⟨s, rfl, hs⟩
  | dict es =>
    simp only [update]
    -- the entries are written one after another, each keeping the invariant
    induction es generalizing s with
    | nil => exact ⟨s, rfl, hs⟩
    | cons e es ih =>
      obtain ⟨k, v⟩ := e
      simp only [sectionFits, List.all_cons, Bool.and_eq_true] at hdata
      obtain ⟨he, hes⟩ := hdata
      cases k with
      | str name =>
        obtain ⟨t, ht, hadm⟩ : ∃ t, types.lookup name = some t ∧ t.admits v = true := by
          simpa [Option.any_eq_true] using he
        obtain ⟨s₁, hw, hs₁⟩ := hwrite s name t v hs (mem_of_lookup ht) hadm
        simp only [List.foldlM_cons, hw, Except.ok_bind]
        exact ih s₁ hs₁ hes
      | _ => simp at he
  | _ => simp [sectionFits] at hdata

/-- A section takes a well-typed update when every field of a type can be
written. -/
theorem update_ok (types : List (String × FieldType))
    (hwrite : ∀ s k t v, (k, t) ∈ types → ∃ s', sec.write s (.str k) v = .ok s')
    (s : σ) {data : Value} (hdata : sectionFits types data = true) :
    ∃ s', sec.update s data = .ok s' :=
  (sec.update_fits types (fun _ => True)
    (fun s k t v _ hk _ => (hwrite s k t v hk).imp fun _ h => ⟨h, trivial⟩) s trivial hdata).imp
    fun _ h => h.1

end Section

/-- A well-typed write keeps a watchlist well typed. -/
theorem Watchlist.write_fits {w : Watchlist} (hw : w.Fits) {k : String} {t : FieldType} {v : Value}
    (hk : (k, t) ∈ fieldTypes "watchlist") (hv : t.admits v = true) :
    ∃ w', Watchlist.schema.write w (.str k) v = .ok w' ∧ w'.Fits := by
  obtain ⟨xs, hsym, htexts⟩ := hw.symbols
  have hlacks : Watchlist.schema.lacks w k = false := by simp [Watchlist.schema, hsym]
  simp only [fieldTypes, List.mem_cons, Prod.mk.injEq, List.not_mem_nil, or_false] at hk
  rcases hk with ⟨rfl, rfl⟩ | ⟨rfl, rfl⟩ | ⟨rfl, rfl⟩ | ⟨rfl, rfl⟩ | ⟨rfl, rfl⟩ | ⟨rfl, rfl⟩ | ⟨rfl, rfl⟩
  · obtain ⟨ys, rfl, hys⟩ := admits_texts hv
    exact ⟨_, Section.write_field _ (by decide) hlacks rfl, ⟨ys, rfl, hys⟩, hw.refresh, hw.workers⟩
  · obtain ⟨n, hn⟩ := admits_whole hv
    exact ⟨_, Section.write_field _ (by decide) hlacks rfl, hw.symbols, ⟨_, hn⟩, hw.workers⟩
  pick_goal 5
  · obtain ⟨n, hn⟩ := admits_whole hv
    exact ⟨_, Section.write_field _ (by decide) hlacks rfl, hw.symbols, hw.refresh, ⟨_, hn⟩⟩
  -- the mode, the range, the interval and the extended hours are not read
  all_goals exact ⟨_, Section.write_field _ (by decide) hlacks rfl, hw.symbols, hw.refresh, hw.workers⟩

/-- A well-typed write keeps the indicators well typed. -/
theorem Indicators.write_fits {i : Indicators} (hi : i.Fits) {k : String} {t : FieldType}
    {v : Value} (hk : (k, t) ∈ fieldTypes "indicators") (hv : t.admits v = true) :
    ∃ i', Indicators.schema.write i (.str k) v = .ok i' ∧ i'.Fits := by
  simp only [fieldTypes, List.mem_cons, Prod.mk.injEq, List.not_mem_nil, or_false] at hk
  rcases hk with ⟨rfl, rfl⟩ | ⟨rfl, rfl⟩ | ⟨rfl, rfl⟩ | ⟨rfl, rfl⟩ | ⟨rfl, rfl⟩
  · obtain ⟨n, hn⟩ := admits_whole hv
    exact ⟨_, Section.write_field _ (by decide) rfl rfl, ⟨_, hn⟩, hi.slow, hi.signal, hi.saturation,
      hi.bound⟩
  · obtain ⟨n, hn⟩ := admits_whole hv
    exact ⟨_, Section.write_field _ (by decide) rfl rfl, hi.fast, ⟨_, hn⟩, hi.signal, hi.saturation,
      hi.bound⟩
  · obtain ⟨n, hn⟩ := admits_whole hv
    exact ⟨_, Section.write_field _ (by decide) rfl rfl, hi.fast, hi.slow, ⟨_, hn⟩, hi.saturation,
      hi.bound⟩
  · obtain ⟨x, hx⟩ := admits_real hv
    exact ⟨_, Section.write_field _ (by decide) rfl rfl, hi.fast, hi.slow, hi.signal, ⟨_, hx⟩,
      hi.bound⟩
  · obtain ⟨n, hn⟩ := admits_whole hv
    exact ⟨_, Section.write_field _ (by decide) rfl rfl, hi.fast, hi.slow, hi.signal, hi.saturation,
      ⟨_, hn⟩⟩

/-- Every field of the feed can be written. -/
theorem Feed.write_ok (f : Feed) {k : String} {t : FieldType} (hk : (k, t) ∈ fieldTypes "feed")
    (v : Value) : ∃ f', Feed.schema.write f (.str k) v = .ok f' := by
  simp only [fieldTypes, List.mem_cons, Prod.mk.injEq, List.not_mem_nil, or_false] at hk
  rcases hk with ⟨rfl, rfl⟩ | ⟨rfl, rfl⟩ | ⟨rfl, rfl⟩ | ⟨rfl, rfl⟩ | ⟨rfl, rfl⟩ <;>
    exact ⟨_, Section.write_field _ (by decide) rfl rfl⟩

/-- Every field of the display can be written. -/
theorem Display.write_ok (d : Display) {k : String} {t : FieldType}
    (hk : (k, t) ∈ fieldTypes "display") (v : Value) :
    ∃ d', Display.schema.write d (.str k) v = .ok d' := by
  simp only [fieldTypes, List.mem_cons, Prod.mk.injEq, List.not_mem_nil, or_false] at hk
  rcases hk with ⟨rfl, rfl⟩ | ⟨rfl, rfl⟩ <;> exact ⟨_, Section.write_field _ (by decide) rfl rfl⟩

/-- Every field of logging can be written. -/
theorem Logging.write_ok (l : Logging) {k : String} {t : FieldType}
    (hk : (k, t) ∈ fieldTypes "logging") (v : Value) :
    ∃ l', Logging.schema.write l (.str k) v = .ok l' := by
  simp only [fieldTypes, List.mem_cons, Prod.mk.injEq, List.not_mem_nil, or_false] at hk
  rcases hk with ⟨rfl, rfl⟩ | ⟨rfl, rfl⟩ | ⟨rfl, rfl⟩ <;>
    exact ⟨_, Section.write_field _ (by decide) rfl rfl⟩

/-! ## Reading a document -/

/-- Each section name reads, from the mapping of sections a document makes,
the section it gave. -/
theorem getD_sections (f : String → Value) {name : String} (h : name ∈ sectionNames) :
    (Value.ofPairs (sectionNames.map fun k => (k, f k))).getD name = f name := by
  simp only [sectionNames, List.mem_cons, List.not_mem_nil, or_false] at h
  rcases h with rfl | rfl | rfl | rfl | rfl <;>
    simp [sectionNames, Value.ofPairs, Value.getD, Value.get?, Value.sameKey]

/-- A well-typed document gives well-typed settings. -/
theorem fromDocument_fits {doc : Document.Objects} (hdoc : documentFits doc = true) :
    ∃ s, fromDocument standard doc = .ok s ∧ s.Fits := by
  unfold fromDocument
  cases htruthy : doc.value.truthy with
  | false => exact ⟨standard, by simp [htruthy], standard_fits⟩
  | true =>
    -- a document that counts as true is a mapping of well-typed sections
    have hfits : (doc.entries? doc.root).isSome = true ∧
        ∀ name ∈ sectionNames, sectionFits (fieldTypes name) (sectionOf doc name) = true := by
      simpa [documentFits, htruthy, List.all_eq_true] using hdoc
    obtain ⟨es, hes⟩ := Option.isSome_iff_exists.1 hfits.1
    have hsec (name : String) (h : name ∈ sectionNames) :
        sectionFits (fieldTypes name) ((Value.ofPairs (sectionNames.map fun k => (k, sectionOf doc k))).getD name) = true := by
      rw [getD_sections _ h]
      exact hfits.2 name h
    obtain ⟨w, hw, hwf⟩ := Watchlist.schema.update_fits (fieldTypes "watchlist") Watchlist.Fits
      (fun _ _ _ _ hs hk hv => Watchlist.write_fits hs hk hv) _ standard_fits.watchlist
      (hsec "watchlist" (by simp [sectionNames]))
    obtain ⟨i, hi, hif⟩ := Indicators.schema.update_fits (fieldTypes "indicators") Indicators.Fits
      (fun _ _ _ _ hs hk hv => Indicators.write_fits hs hk hv) _ standard_fits.indicators
      (hsec "indicators" (by simp [sectionNames]))
    -- nothing of the feed, the display or logging is read, but each must be written
    obtain ⟨f, hf⟩ := Feed.schema.update_ok (fieldTypes "feed")
      (fun s _ _ v hk => Feed.write_ok s hk v) standard.feed (hsec "feed" (by simp [sectionNames]))
    obtain ⟨d, hd⟩ := Display.schema.update_ok (fieldTypes "display")
      (fun s _ _ v hk => Display.write_ok s hk v) standard.display
      (hsec "display" (by simp [sectionNames]))
    obtain ⟨l, hl⟩ := Logging.schema.update_ok (fieldTypes "logging")
      (fun s _ _ v hk => Logging.write_ok s hk v) standard.logging
      (hsec "logging" (by simp [sectionNames]))
    refine ⟨⟨w, i, f, d, l⟩, ?_, hwf, hif⟩
    have hnames : ["watchlist", "indicators", "feed", "display", "logging"] = sectionNames := rfl
    simp only [htruthy, hes, Bool.not_true, Bool.false_eq_true, if_false, hnames]
    simp only [update, hw, hi, hf, hd, hl, Except.ok_bind]
    rfl

/-! ## The environment -/

/-- An outcome on the settings that the command line reports: well-typed
settings, or a fault that is a bad value. -/
def FitsOrBad (r : Except Fault Settings) : Prop :=
  (∃ s, r = .ok s ∧ s.Fits) ∨ ∃ f, r = .error f ∧ f.family = .badValue

/-- A step that keeps well-typed settings well typed or fails as a bad value,
after one that does, does too. -/
theorem FitsOrBad.bind {r : Except Fault Settings} (hr : FitsOrBad r)
    {k : Settings → Except Fault Settings} (hk : ∀ s, s.Fits → FitsOrBad (k s)) :
    FitsOrBad (r >>= k) := by
  rcases hr with ⟨s, rfl, hs⟩ | ⟨f, rfl, hf⟩
  · exact hk s hs
  · exact .inr ⟨f, rfl, hf⟩

/-- A whole number read from a text fails only as a bad value. -/
theorem readWhole_error {t : String} {f : Fault} (h : Text.readWhole t = .error f) :
    f.family = .badValue := by
  unfold Text.readWhole at h
  -- every branch that fails names the text or its digits
  repeat' split at h
  all_goals cases h
  all_goals rfl

/-- A watchlist written as comma-separated symbols is a list of texts. -/
theorem symbolList_texts (text : String) :
    ∃ xs, symbolList text = .list xs ∧ ∀ x ∈ xs, ∃ t, x = .str t := by
  refine ⟨_, rfl, fun x hx => ?_⟩
  obtain ⟨t, -, rfl⟩ := List.mem_map.1 hx
  exact ⟨t, rfl⟩

/-- Each override keeps the settings well typed, or fails as a bad value: only
the refresh interval is read, as a whole number. -/
theorem apply_override_fits {o : Override} (ho : o ∈ overrides) (t : String) {s : Settings}
    (hs : s.Fits) : FitsOrBad (o.apply t s) := by
  simp only [overrides, List.mem_cons, List.not_mem_nil, or_false] at ho
  rcases ho with rfl | rfl | rfl | rfl | rfl | rfl
  · obtain ⟨xs, hxs, htexts⟩ := symbolList_texts t
    exact .inl ⟨_, rfl, ⟨⟨xs, by rw [hxs], htexts⟩, hs.watchlist.refresh, hs.watchlist.workers⟩,
      hs.indicators⟩
  · cases h : Text.readWhole t with
    | error f => exact .inr ⟨f, by simp [h], readWhole_error h⟩
    | ok n =>
      refine .inl ⟨{ s with watchlist := { s.watchlist with refreshIntervalSeconds := .int n } }, ?_,
        ⟨hs.watchlist.symbols, ⟨.whole n, rfl⟩, hs.watchlist.workers⟩, hs.indicators⟩
      simp only [h]
      rfl
  · exact .inl ⟨_, rfl, ⟨hs.watchlist.symbols, hs.watchlist.refresh, hs.watchlist.workers⟩,
      hs.indicators⟩
  -- the user agent, the level and the format are not read
  all_goals exact .inl ⟨_, rfl, hs.watchlist, hs.indicators⟩

/-- The environment keeps well-typed settings well typed, or fails as a bad
value. -/
theorem applyEnvironment_fits {s : Settings} (hs : s.Fits) (env : Environment) :
    FitsOrBad (applyEnvironment s env) := by
  unfold applyEnvironment
  -- the overrides are applied one after another, each keeping the invariant
  suffices h : ∀ os : List Override, (∀ o ∈ os, o ∈ overrides) →
      ∀ s : Settings, s.Fits → FitsOrBad (os.foldlM (Override.applyIn env) s) from
    h overrides (fun _ h => h) s hs
  intro os hos
  induction os with
  | nil => exact fun s hs => .inl ⟨s, rfl, hs⟩
  | cons o os ih =>
    intro s hs
    rw [List.foldlM_cons]
    have happ : FitsOrBad (o.applyIn env s) := by
      unfold Override.applyIn
      cases env.given o.name with
      | some t => exact apply_override_fits (hos o List.mem_cons_self) t hs
      | none => exact .inl ⟨s, rfl, hs⟩
    exact happ.bind (ih fun o' h' => hos o' (List.mem_cons_of_mem _ h'))

/-! ## The checks -/

/-- A run of the checks that passes, or fails with one of their own faults. -/
def Checked (r : Except Fault Unit) : Prop := r = .ok () ∨ ∃ f, r = .error (.setting f)

section Checked

variable {f : SettingFault} {k : Unit → Except Fault Unit}

/-- A check `if ← t then throw f` whose comparison is made. -/
theorem Checked.guard {t : Except Fault Bool} {b : Bool} (ht : t = .ok b) (hk : Checked (k ())) :
    Checked (t >>= fun v => if v = true then throw (.setting f) >>= k else k ()) := by
  subst ht
  cases b
  · exact hk
  · exact .inr ⟨f, rfl⟩

/-- A check `unless c do throw f`. -/
theorem Checked.unless (c : Bool) (hk : Checked (k ())) :
    Checked (if c = true then k () else throw (.setting f) >>= k) := by
  cases c
  · exact .inr ⟨f, rfl⟩
  · exact hk

/-- A step of the checks that returns. -/
theorem Checked.bind {β : Type} {x : Except Fault β} {b : β} (hx : x = .ok b)
    {k : β → Except Fault Unit} (hk : Checked (k b)) : Checked (x >>= k) := by
  subst hx
  exact hk

end Checked

/-- Two whole numbers add to a whole number. -/
theorem add_whole {a b : Value} {m n : Int} (ha : a.num? = some (.whole m))
    (hb : b.num? = some (.whole n)) : a.add b = .ok (.int (m + n)) := by
  simp only [Value.add, ha, hb]
  rfl

/-- The least session bound of whole periods is a number. -/
theorem minPoints_fits {i : Indicators} (hi : i.Fits) :
    ∃ least, minPoints i = .ok least ∧ ∃ x, least.num? = some x := by
  obtain ⟨a, ha⟩ := hi.slow
  obtain ⟨b, hb⟩ := hi.signal
  refine ⟨.int (a + b + 1), ?_, _, rfl⟩
  unfold minPoints
  rw [add_whole ha hb]
  exact Value.add_int _ _

/-- Well-typed settings pass the checks, or fail one with its own fault: every
comparison is between numbers. -/
theorem validate_checked {s : Settings} (hs : s.Fits) : Checked s.validate := by
  have one : ∃ x, (Value.int 1).num? = some x := ⟨_, rfl⟩
  have zero : ∃ x, (Value.int 0).num? = some x := ⟨_, rfl⟩
  obtain ⟨slow, hslow⟩ := hs.indicators.slow
  have hslow' : ∃ x, s.indicators.slowPeriod.num? = some x := ⟨_, hslow⟩
  obtain ⟨signal, hsignal⟩ := hs.indicators.signal
  obtain ⟨_, h₁⟩ := Value.test_of_num? hs.indicators.fast one .lt
  obtain ⟨_, h₂⟩ := Value.test_of_num? hslow' one .lt
  obtain ⟨_, h₃⟩ := Value.test_of_num? ⟨_, hsignal⟩ one .lt
  obtain ⟨_, h₄⟩ := Value.test_of_num? hs.indicators.fast hslow' .ge
  obtain ⟨_, h₅⟩ := Value.test_of_num? hs.indicators.saturation zero .le
  obtain ⟨_, h₆⟩ := Value.test_of_num? hs.indicators.bound zero .lt
  obtain ⟨xs, hsyms, -⟩ := hs.watchlist.symbols
  have hsymv : s.watchlist.symbolsValue = .ok (.list xs) := by simp [Watchlist.symbolsValue, hsyms]
  obtain ⟨_, h₇⟩ := Value.test_of_num? hs.watchlist.refresh one .lt
  obtain ⟨_, h₈⟩ := Value.test_of_num? hs.watchlist.workers one .lt
  obtain ⟨least, hleast, hnum⟩ := minPoints_fits hs.indicators
  obtain ⟨pos, h₉⟩ := Value.test_of_num? zero hs.indicators.bound .lt
  obtain ⟨short, h₁₀⟩ := Value.test_of_num? hs.indicators.bound hnum .lt
  unfold validate
  refine Checked.guard h₁ (Checked.guard h₂ (Checked.guard h₃ (Checked.guard h₄
    (Checked.guard h₅ (Checked.guard h₆ (Checked.unless _ ?_))))))
  dsimp only
  refine Checked.bind hsymv (Checked.unless _ (Checked.guard h₇ (Checked.guard h₈
    (Checked.unless _ (Checked.unless _ (Checked.bind hleast (Checked.bind h₉ ?_)))))))
  -- the last check runs only for a positive bound
  cases pos
  · exact .inl rfl
  · rw [if_pos rfl, h₁₀]
    cases short
    · exact .inl rfl
    · exact .inr ⟨_, rfl⟩

/-! ## Loading -/

/-- Checked well-typed settings are returned well typed, or refused with a
bad value. -/
theorem Checked.fits {s : Settings} (hs : s.Fits) :
    FitsOrBad (s.validate >>= fun _ => pure s) := by
  rcases validate_checked hs with h | ⟨f, h⟩
  · exact .inl ⟨s, by rw [h]; rfl, hs⟩
  · exact .inr ⟨.setting f, by rw [h]; rfl, rfl⟩

/-- Settings loaded from a well-typed document are well typed, or refused
with a bad value. -/
theorem load_fits {raw : String} {doc : Document.Objects}
    (hload : Document.load (fileText raw) = .ok doc) (hdoc : documentFits doc = true)
    (env : Environment) : FitsOrBad (load (some raw) env) := by
  obtain ⟨s, hs, hfits⟩ := fromDocument_fits hdoc
  unfold load
  simp only [hload, hs, Except.ok_bind]
  exact (applyEnvironment_fits hfits env).bind fun _ h => Checked.fits h

/-! ## The summary -/

theorem mapM_ok {α β : Type} (f : α → Except Fault β) (l : List α)
    (h : ∀ a ∈ l, ∃ b, f a = .ok b) : ∃ bs, l.mapM f = .ok bs := by
  induction l with
  | nil => exact ⟨[], rfl⟩
  | cons a l ih =>
    obtain ⟨b, hb⟩ := h a List.mem_cons_self
    obtain ⟨bs, hbs⟩ := ih fun a' h' => h a' (List.mem_cons_of_mem _ h')
    exact ⟨b :: bs, by simp [List.mapM_cons, hb, hbs, bind, Except.bind, pure, Except.pure]⟩

/-- Texts join. -/
theorem joinItems_texts {xs : List Value} (h : ∀ x ∈ xs, ∃ t, x = .str t) :
    ∃ text, joinItems (.list xs) = .ok text := by
  unfold joinItems
  simp only [Value.elements?]
  -- every item is a text, so the conversion of each returns
  refine (mapM_ok _ xs.zipIdx fun e he => ?_).elim fun texts htexts => ⟨_, by rw [htexts]; rfl⟩
  obtain ⟨t, ht⟩ := h e.1 (List.fst_mem_of_mem_zipIdx he)
  exact ⟨t, by rw [ht]; rfl⟩

/-- The summary of well-typed settings is always written. -/
theorem summary_fits {s : Settings} (hs : s.Fits) : ∃ text, summary s = .ok text := by
  obtain ⟨xs, hsyms, htexts⟩ := hs.watchlist.symbols
  obtain ⟨joined, hjoined⟩ := joinItems_texts htexts
  simp only [summary, Watchlist.symbolsValue, hsyms, hjoined, Except.ok_bind]
  exact ⟨_, rfl⟩

end Settings

namespace CommandLine

open Settings

/-! ## The command line -/

/-- The command line changes only the symbols, the mode and the colors, and
the symbols only to a list it writes. -/
theorem override_frame (s : Settings) (o : Options) :
    (override s o).indicators = s.indicators ∧
      (override s o).watchlist.refreshIntervalSeconds = s.watchlist.refreshIntervalSeconds ∧
      (override s o).watchlist.fetchWorkers = s.watchlist.fetchWorkers ∧
      ((override s o).watchlist.symbols = s.watchlist.symbols ∨
        (override s o).watchlist.symbols = some (symbolList o.symbols)) := by
  unfold override
  split_ifs <;> simp

/-- The command line keeps well-typed settings well typed. -/
theorem override_fits {s : Settings} (hs : s.Fits) (o : Options) : (override s o).Fits := by
  obtain ⟨hind, hrefresh, hworkers, hsymbols⟩ := override_frame s o
  refine ⟨⟨?_, hrefresh ▸ hs.watchlist.refresh, hworkers ▸ hs.watchlist.workers⟩,
    hind ▸ hs.indicators⟩
  rcases hsymbols with h | h
  · exact h ▸ hs.watchlist.symbols
  · obtain ⟨xs, hxs, htexts⟩ := symbolList_texts o.symbols
    exact ⟨xs, by rw [h, hxs], htexts⟩

/-! ## Showing the settings -/

/-- A configuration text as the law takes it: read as a well-typed document,
or refused as a configuration error. -/
def textFits (raw : String) : Bool :=
  match Document.load (fileText raw) with
  | .ok doc => documentFits doc
  | .error f => isConfigurationError f

/-- How a run showing the settings may end, as the command line promises:
with the summary of the settings it loaded, as the command line overrides
them, and status 0; or with a configuration error and status 2. -/
def Reports (raw : String) (env : Environment) (o : Options) (out : Outcome) : Prop :=
  (out.exitCode = 0 ∧ out.stderr = "" ∧
      ∃ s, Settings.load (some raw) env = .ok s ∧ summary (override s o) = .ok out.stdout) ∨
    (out.exitCode = 2 ∧ out.stdout = "" ∧
      ∃ f, isConfigurationError f = true ∧ out.stderr = "Configuration error: " ++ f.message ++ "\n")

/-- The settings loaded from a text the law takes are well typed, or refused
as a configuration error. -/
theorem load_of_textFits {raw : String} (htext : textFits raw = true) (env : Environment) :
    (∃ f, Settings.load (some raw) env = .error f ∧ isConfigurationError f = true) ∨
      ∃ s, Settings.load (some raw) env = .ok s ∧ s.Fits := by
  unfold textFits at htext
  cases hdoc : Document.load (fileText raw) with
  | error f =>
    rw [hdoc] at htext
    exact .inl ⟨f, by simp only [Settings.load, hdoc]; rfl, htext⟩
  | ok doc =>
    rw [hdoc] at htext
    rcases load_fits hdoc htext env with ⟨s, hs, hfits⟩ | ⟨f, hf, hfam⟩
    · exact .inr ⟨s, hs, hfits⟩
    · exact .inl ⟨f, hf, by simp [isConfigurationError, hfam]⟩

/-- The arguments that show the settings of `config.yaml`. -/
def showConfigArgs : List String := ["--config", "config.yaml", "--show-config"]

/-- A directory whose only file is `config.yaml`, with the given text. -/
def onlyConfig (text : String) (p : String) : Entry :=
  if p = "config.yaml" then .file text else .missing

end CommandLine

end QuoteMomentum
