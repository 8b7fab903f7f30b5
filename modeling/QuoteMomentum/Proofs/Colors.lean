import QuoteMomentum.Proofs.Signs
import QuoteMomentum.Display.Table

/-!
# Colors only add escape sequences

With color on, the dashboard wraps cells in SGR sequences, `ESC [` then
digits and semicolons then `m`: the price on a green or red background in
blue, signed cells in green or red, the ticker of a crossover on a shade of
its own, an error in red, each closed by the reset sequence. Deleting every
such sequence from a colored line gives the line printed without color
(`Display.rowLine_uncolored`), and so for the whole table
(`Display.table_uncolored`), as long as the texts the rows carry hold no
escape character of their own.

Color can also make a line fail where the plain one does not: the shade of a
crossover ticker takes the whole part of `195 · intensity`, which NaN and the
infinities lack. Since the shade is only computed for an intensity that is not
at most zero, the product is then NaN or `+∞`, never `-∞`
(`Display.crossoverBackground_error_iff`).

Deleting the sequences (`Display.uncolor`) scans left to right and deletes a
sequence wherever one starts, as a search for `ESC \[[0-9;]*m` does. The proof
reads each colored cell as plain text and sequences that delete to nothing
(`Display.Uncolors`), and composes them.
-/

namespace QuoteMomentum.Display

open Double Decimal

/-! ## Deleting color sequences -/

/-- Whether a character may stand between the bracket and the final `m` of a
color sequence: a digit or a semicolon. -/
def isColorParam (c : Char) : Bool := c.isDigit || c == ';'

/-- What follows the parameters and the final `m` of a color sequence whose
bracket has been read; nothing when the characters do not go on as one. -/
def afterParams : List Char → Option (List Char)
  | [] => none
  | c :: rest => if c = 'm' then some rest else if isColorParam c then afterParams rest else none

/-- What follows the color sequence the characters start with, if they start
with one. -/
def afterColor : List Char → Option (List Char)
  | c :: '[' :: rest => if c = '\x1b' then afterParams rest else none
  | _ => none

theorem length_afterParams {cs rest : List Char} (h : afterParams cs = some rest) :
    rest.length < cs.length := by
  induction cs with
  | nil => cases h
  | cons c cs ih =>
    simp only [afterParams] at h
    split at h
    · cases h
      exact Nat.lt_succ_self _
    · split at h
      · exact Nat.lt_succ_of_lt (ih h)
      · cases h

theorem length_afterColor {cs rest : List Char} (h : afterColor cs = some rest) :
    rest.length < cs.length := by
  unfold afterColor at h
  split at h
  · split at h
    · exact Nat.lt_succ_of_lt (Nat.lt_succ_of_lt (length_afterParams h))
    · cases h
  · cases h

/-- The characters with every color sequence deleted, scanning left to
right. -/
def uncolor : List Char → List Char
  | [] => []
  | c :: cs =>
    match h : afterColor (c :: cs) with
    | some rest =>
      have : rest.length < (c :: cs).length := length_afterColor h
      uncolor rest
    | none => c :: uncolor cs
termination_by cs => cs.length
decreasing_by
  · exact this
  · exact Nat.lt_succ_self _

/-- A text with every color sequence deleted. -/
def stripColors (s : String) : String := String.ofList (uncolor s.toList)

@[simp] theorem uncolor_nil : uncolor [] = [] := by
  rw [uncolor]

/-- A character other than the escape is kept. -/
theorem uncolor_cons {c : Char} (hc : c ≠ '\x1b') (cs : List Char) :
    uncolor (c :: cs) = c :: uncolor cs := by
  have hnone : afterColor (c :: cs) = none := by
    match cs with
    | [] => rfl
    | d :: ds =>
      unfold afterColor
      split
      · rename_i heq
        simp only [List.cons.injEq] at heq
        obtain ⟨rfl, -⟩ := heq
        simp [hc]
      · rfl
  rw [uncolor]
  split
  · rename_i rest h
    rw [hnone] at h
    cases h
  · rfl

theorem afterParams_append {ps : List Char} (hps : ∀ c ∈ ps, isColorParam c = true)
    (rest : List Char) : afterParams (ps ++ 'm' :: rest) = some rest := by
  induction ps with
  | nil => simp [afterParams]
  | cons p ps ih =>
    have hp := hps p (List.mem_cons_self)
    have hm : p ≠ 'm' := by
      rintro rfl
      simp [isColorParam] at hp
    simp only [List.cons_append, afterParams, hm, if_false, hp, if_true]
    exact ih fun c hc => hps c (List.mem_cons_of_mem _ hc)

/-- A color sequence is deleted whole. -/
theorem uncolor_sequence {ps : List Char} (hps : ∀ c ∈ ps, isColorParam c = true)
    (rest : List Char) : uncolor ('\x1b' :: '[' :: (ps ++ 'm' :: rest)) = uncolor rest := by
  have h : afterColor ('\x1b' :: '[' :: (ps ++ 'm' :: rest)) = some rest := by
    simp only [afterColor, if_true]
    exact afterParams_append hps rest
  rw [uncolor]
  split
  · rename_i rest' h'
    rw [h] at h'
    cases h'
    rfl
  · rename_i h'
    rw [h] at h'
    cases h'

/-! ## Texts that delete to others -/

/-- The characters `cs` show as `ps` once their color sequences are deleted,
whatever follows them. -/
def Uncolors (cs ps : List Char) : Prop :=
  ∀ rest, uncolor (cs ++ rest) = ps ++ uncolor rest

namespace Uncolors

theorem nil : Uncolors [] [] := fun _ => rfl

theorem append {cs ps ds qs : List Char} (h₁ : Uncolors cs ps) (h₂ : Uncolors ds qs) :
    Uncolors (cs ++ ds) (ps ++ qs) := by
  intro rest
  rw [List.append_assoc, h₁, h₂, List.append_assoc]

/-- Characters without an escape are kept as they are. -/
theorem plain {cs : List Char} (h : '\x1b' ∉ cs) : Uncolors cs cs := by
  induction cs with
  | nil => exact nil
  | cons c cs ih =>
    intro rest
    have hc : c ≠ '\x1b' := fun hc => h (hc ▸ List.mem_cons_self)
    rw [List.cons_append, uncolor_cons hc, ih (fun hm => h (List.mem_cons_of_mem _ hm)) rest]
    rfl

/-- A color sequence deletes to nothing. -/
theorem sequence {ps : List Char} (hps : ∀ c ∈ ps, isColorParam c = true) :
    Uncolors ('\x1b' :: '[' :: (ps ++ ['m'])) [] := by
  intro rest
  simp only [List.cons_append, List.append_assoc, List.nil_append]
  exact uncolor_sequence hps rest

theorem uncolor_eq {cs ps : List Char} (h : Uncolors cs ps) : uncolor cs = ps := by
  simpa using h []

end Uncolors

/-! ## Texts without escapes -/

/-- A text with no escape character. -/
def NoEscape (s : String) : Prop := '\x1b' ∉ s.toList

instance : DecidablePred NoEscape := fun s => inferInstanceAs (Decidable ('\x1b' ∉ s.toList))

@[simp] theorem noEscape_append {a b : String} : NoEscape (a ++ b) ↔ NoEscape a ∧ NoEscape b := by
  simp [NoEscape, not_or]

@[simp] theorem noEscape_ofList {cs : List Char} : NoEscape (String.ofList cs) ↔ '\x1b' ∉ cs := by
  simp [NoEscape]

theorem noEscape_replicate (n : Nat) {c : Char} (hc : c ≠ '\x1b') :
    NoEscape (String.ofList (List.replicate n c)) := by
  simp [List.mem_replicate, hc.symm]

theorem noEscape_of_digits {s : String} (h : ∀ c ∈ s.toList, c.isDigit = true) : NoEscape s :=
  fun hm => by simpa using h _ hm

/-- The digits of a natural number. -/
theorem isDigit_toString (n : Nat) : ∀ c ∈ (toString n).toList, c.isDigit = true := by
  intro c hc
  rw [Nat.toString_eq_ofList_toDigits, String.toList_ofList] at hc
  exact Nat.isDigit_of_mem_toDigits (by decide) (by decide) hc

@[simp] theorem noEscape_toString_nat (n : Nat) : NoEscape (toString n) :=
  noEscape_of_digits (isDigit_toString n)

@[simp] theorem noEscape_toString_int (n : Int) : NoEscape (toString n) := by
  cases n with
  | ofNat m => exact noEscape_toString_nat m
  | negSucc m =>
    show NoEscape ("-" ++ toString (m + 1))
    simp only [noEscape_append, noEscape_toString_nat, and_true]
    decide

@[simp] theorem noEscape_alignLeft (w : Nat) {s : String} : NoEscape (Text.alignLeft w s) ↔ NoEscape s := by
  simp [Text.alignLeft, List.mem_replicate]

@[simp] theorem noEscape_alignRight (w : Nat) {s : String} : NoEscape (Text.alignRight w s) ↔ NoEscape s := by
  simp [Text.alignRight, List.mem_replicate]

@[simp] theorem noEscape_fixedText (x : Float) (places : Nat) (plus : Bool) :
    NoEscape (Decimal.fixedText x places plus) := by
  have hmark (neg : Bool) : NoEscape (if neg then "-" else if plus then "+" else "") := by
    split
    · decide
    · split <;> decide
  have hpoint (n : Nat) : NoEscape (Decimal.pointText n places) := by
    have hds : NoEscape (String.ofList (List.replicate (places + 1 - (toString n).toList.length) '0' ++
        (toString n).toList)) := by
      simp only [noEscape_ofList, List.mem_append, List.mem_replicate, not_or]
      exact ⟨by simp, noEscape_toString_nat n⟩
    unfold Decimal.pointText
    dsimp only
    split
    · exact hds
    · simp only [noEscape_ofList, noEscape_append] at hds ⊢
      exact ⟨⟨fun h => hds (List.mem_of_mem_take h), by decide⟩, fun h => hds (List.mem_of_mem_drop h)⟩
  unfold Decimal.fixedText
  dsimp only
  split
  · exact noEscape_append.2 ⟨hmark false, (by decide : NoEscape "nan")⟩
  · exact noEscape_append.2 ⟨hmark _, (by decide : NoEscape "inf")⟩
  · exact noEscape_append.2 ⟨hmark _, hpoint _⟩

/-! ## Colored texts -/

/-- The text `t` shows as `p` once its color sequences are deleted, whatever
follows it. -/
def Shows (t p : String) : Prop := Uncolors t.toList p.toList

/-- A color code: a text that deletes to nothing. -/
def IsCode (code : String) : Prop := Shows code ""

namespace Shows

theorem append {t p u q : String} (h₁ : Shows t p) (h₂ : Shows u q) : Shows (t ++ u) (p ++ q) := by
  unfold Shows at *
  rw [String.toList_append, String.toList_append]
  exact h₁.append h₂

theorem plain {t : String} (h : NoEscape t) : Shows t t := Uncolors.plain h

theorem code_left {code t p : String} (hc : IsCode code) (h : Shows t p) : Shows (code ++ t) p := by
  simpa using hc.append h

theorem code_right {code t p : String} (h : Shows t p) (hc : IsCode code) : Shows (t ++ code) p := by
  simpa using h.append hc

/-- Texts joined by a separator without escapes show as their plain texts
joined by it. -/
theorem intercalate {sep : String} (hsep : NoEscape sep) {ts ps : List String}
    (h : List.Forall₂ Shows ts ps) : Shows (sep.intercalate ts) (sep.intercalate ps) := by
  induction h with
  | nil =>
    rw [String.intercalate_nil]
    exact plain (by decide)
  | @cons t p ts ps hd htl ih =>
    cases htl with
    | nil => simpa using hd
    | cons hd' htl' =>
      rw [String.intercalate_cons_cons, String.intercalate_cons_cons]
      exact (hd.append (plain hsep)).append ih

theorem stripColors_eq {t p : String} (h : Shows t p) : stripColors t = p := by
  unfold stripColors
  rw [Uncolors.uncolor_eq h, String.ofList_toList]

end Shows

/-- A text that is exactly one color sequence is a code. -/
theorem isCode_of_toList {code : String} (ps : List Char) (hps : ∀ c ∈ ps, isColorParam c = true)
    (h : code.toList = '\x1b' :: '[' :: (ps ++ ['m'])) : IsCode code := by
  unfold IsCode Shows
  rw [h]
  exact Uncolors.sequence hps

theorem IsCode.append {a b : String} (ha : IsCode a) (hb : IsCode b) : IsCode (a ++ b) := by
  have h := Shows.append ha hb
  rwa [String.append_empty] at h

theorem isCode_reset : IsCode reset := isCode_of_toList ['0'] (by simp [isColorParam]) rfl

theorem isCode_red : IsCode red := isCode_of_toList ['3', '1'] (by simp [isColorParam]) rfl

theorem isCode_green : IsCode green := isCode_of_toList ['3', '2'] (by simp [isColorParam]) rfl

theorem isCode_blue : IsCode blue := isCode_of_toList ['3', '4'] (by simp [isColorParam]) rfl

theorem isCode_onRed : IsCode onRed := isCode_of_toList ['4', '1'] (by simp [isColorParam]) rfl

theorem isCode_onGreen : IsCode onGreen := isCode_of_toList ['4', '2'] (by simp [isColorParam]) rfl

theorem isCode_signColor (x : Float) : IsCode (signColor x) := by
  unfold signColor
  split
  · exact isCode_green
  · exact isCode_red

/-- Painting a text without escapes in a code shows as the text. -/
theorem shows_paint {text code : String} (ht : NoEscape text) (hc : IsCode code) :
    Shows (paint text code true) (paint text code false) := by
  unfold paint
  simp only [Bool.not_true, Bool.false_or, Bool.not_false, Bool.true_or, if_true]
  split
  · exact Shows.plain ht
  · exact Shows.code_right (Shows.code_left hc (Shows.plain ht)) isCode_reset

/-! ## The shade of a crossover ticker -/

/-- The shade range, `225 - 30`, is a positive number. -/
theorem unpack_shadeRange :
    (Float.ofInt (shadePeak - shadeFloor)).toModel.unpack =
      .finite .positive (195 * Nat.pow 2 45) (-45) (by decide) := by
  rfl

/-- The shade of a row cannot be computed: the row has a valid reading, and
the shade range times its intensity is NaN or `+∞`. -/
def shadeFails (r : Row) : Prop :=
  r.hasMacd = true ∧
    (Kind.ofFloat (Float.ofInt (shadePeak - shadeFloor) * r.intensity) = .nan ∨
      Kind.ofFloat (Float.ofInt (shadePeak - shadeFloor) * r.intensity) = .inf false)

/-- A shade background: an opening, the strength, and a closing, all digits
and semicolons between the bracket and the final `m`. -/
theorem isCode_shade {pre post : String} (ps qs : List Char)
    (hpre : pre.toList = '\x1b' :: '[' :: ps) (hps : ∀ c ∈ ps, isColorParam c = true)
    (hpost : post.toList = qs ++ ['m']) (hqs : ∀ c ∈ qs, isColorParam c = true)
    {level : Int} (hlevel : 0 ≤ level) : IsCode (pre ++ toString level ++ post) := by
  have hdigits : toString level = toString level.toNat := by
    conv => lhs; rw [← Int.toNat_of_nonneg hlevel]
    rfl
  refine isCode_of_toList (ps ++ (toString level.toNat).toList ++ qs) ?_ ?_
  · intro c hc
    simp only [List.mem_append] at hc
    rcases hc with (hc | hc) | hc
    · exact hps c hc
    · simp [isColorParam, isDigit_toString _ c hc]
    · exact hqs c hc
  · simp only [String.toList_append, hpre, hpost, hdigits, List.cons_append, List.append_assoc]

/-- The shade is only computed for an intensity that is not at most zero, and
then the shade range times the intensity is not below zero. -/
theorem side_shade_ne_lt {r : Row} (hle : ¬ r.intensity ≤ 0.0) :
    side (Float.ofInt (shadePeak - shadeFloor) * r.intensity).toModel.unpack ≠ some .lt :=
  Rounds.ne_lt (rounds_mul unpack_shadeRange r.intensity) fun hlt => hle ((le_zero_iff _).2 (.inl hlt))

/-- The background computed for a row is nothing or a code. -/
theorem crossoverBackground_code {r : Row} {bg : String} (h : crossoverBackground r = .ok bg) :
    bg = "" ∨ IsCode bg := by
  unfold crossoverBackground at h
  split at h
  · cases h
    exact .inl rfl
  · rename_i hcond
    simp only [Bool.or_eq_true, Bool.not_eq_eq_eq_not, Bool.not_true, decide_eq_true_eq, not_or] at hcond
    have hside := side_shade_ne_lt hcond.2
    cases hw : Num.doubleToWhole (Float.ofInt (shadePeak - shadeFloor) * r.intensity) with
    | error f =>
      rw [hw] at h
      cases h
    | ok n =>
      have hn : 0 ≤ shadeFloor + n := by
        have := Num.doubleToWhole_nonneg hw hside
        simp only [shadeFloor]
        omega
      rw [hw] at h
      simp only [pure, Except.pure] at h
      split at h
      · split at h
        · cases h
          exact .inr (isCode_shade ['4', '8', ';', '2', ';', '0', ';'] [';', '0'] rfl
            (by simp [isColorParam]) rfl (by simp [isColorParam]) hn)
        · split at h
          · cases h
            exact .inr (isCode_shade ['4', '8', ';', '2', ';'] [';', '0', ';', '0'] rfl
              (by simp [isColorParam]) rfl (by simp [isColorParam]) hn)
          · cases h
            exact .inl rfl
      · cases h
        exact .inl rfl

/-- The background fails exactly for a row whose shade cannot be computed. -/
theorem crossoverBackground_error_iff (r : Row) :
    (∃ f, crossoverBackground r = .error f) ↔ shadeFails r := by
  have hr := rounds_mul unpack_shadeRange r.intensity
  unfold crossoverBackground shadeFails
  by_cases hm : r.hasMacd = true
  · by_cases hle : r.intensity ≤ 0.0
    · -- an intensity at most zero has a product at most zero: neither NaN nor `+∞`
      have hprod := hr.le_zero ((le_zero_iff _).1 hle)
      simp only [hm, hle, Bool.not_true, decide_true, Bool.or_true, if_true, true_and]
      constructor
      · rintro ⟨f, hf⟩
        cases hf
      · rintro (hk | hk)
        · rw [ofFloat_eq_nan_iff] at hk
          rcases hprod with h | h <;> simp [hk] at h
        · have := side_of_ofFloat_eq_inf hk
          rcases hprod with h | h <;> simp [this] at h
    · -- otherwise the whole part is taken, and the product is not `-∞`
      have hside := side_shade_ne_lt hle
      simp only [hm, hle, Bool.not_true, decide_false, Bool.or_false, Bool.false_eq_true, if_false, true_and]
      cases hw : Num.doubleToWhole (Float.ofInt (shadePeak - shadeFloor) * r.intensity) with
      | error f =>
        have hk := (Num.doubleToWhole_error_iff _).1 ⟨f, hw⟩
        refine ⟨fun _ => ?_, fun _ => ⟨f, rfl⟩⟩
        rcases hk with hk | ⟨neg, hk⟩
        · exact .inl hk
        · cases neg with
          | false => exact .inr hk
          | true => exact absurd (side_of_ofFloat_eq_inf hk) hside
      | ok n =>
        have hk : ¬ (∃ f, Num.doubleToWhole (Float.ofInt (shadePeak - shadeFloor) * r.intensity) = .error f) := by
          rw [hw]
          rintro ⟨f, hf⟩
          cases hf
        rw [Num.doubleToWhole_error_iff] at hk
        simp only [pure, Except.pure]
        constructor
        · rintro ⟨f, hf⟩
          split at hf
          · split at hf <;> (try split at hf) <;> cases hf
          · cases hf
        · rintro (h | h)
          · exact absurd (.inl h) hk
          · exact absurd (.inr ⟨false, h⟩) hk
  · simp [hm]

/-! ## Cells -/

@[simp] theorem noEscape_signed (x : Float) (w d : Nat) {suffix : String} (h : NoEscape suffix) :
    NoEscape (signed x w d suffix) := by
  unfold signed
  refine noEscape_append.2 ⟨noEscape_append.2 ⟨?_, (noEscape_alignRight w).2 (noEscape_fixedText _ _ _)⟩, h⟩
  split <;> decide

theorem shows_percentCell (x : Float) : Shows (percentCell x true) (percentCell x false) :=
  shows_paint (noEscape_append.2 ⟨(noEscape_alignRight 9).2 (noEscape_fixedText _ _ _), by decide⟩)
    (isCode_signColor x)

/-- The price cell: blue, on green or red as the close rose or fell. -/
theorem shows_price (c : Float) {price : String} (h : NoEscape price) :
    Shows ((if 0.0 < c then onGreen else if c < 0.0 then onRed else "") ++ blue ++ price ++ reset) price := by
  have hcode : IsCode ((if 0.0 < c then onGreen else if c < 0.0 then onRed else "") ++ blue) := by
    split
    · exact isCode_onGreen.append isCode_blue
    · split
      · exact isCode_onRed.append isCode_blue
      · simpa using isCode_blue
  exact Shows.code_right (Shows.code_left hcode (Shows.plain h)) isCode_reset

/-- The ticker cell, on the background of its crossover if it has one. -/
theorem shows_ticker {bg tk : String} (hbg : bg = "" ∨ IsCode bg) (htk : NoEscape tk) :
    Shows (if bg.isEmpty then tk else bg ++ tk ++ reset) tk := by
  split
  · exact Shows.plain htk
  · rcases hbg with rfl | hbg
    · simpa using Shows.code_right (Shows.plain htk) isCode_reset
    · exact Shows.code_right (Shows.code_left hbg (Shows.plain htk)) isCode_reset

/-! ## Lines -/

/-- A left-aligned text cell. -/
theorem leftCell_str (w : Nat) (t : String) : leftCell w (.str t) = .ok (Text.alignLeft w t) := rfl

/-- A colored line and its plain form are both computed, and the colored one
shows as the plain one. -/
def ShowsPlain (colored plain : Except Fault String) : Prop :=
  ∃ t p, colored = .ok t ∧ plain = .ok p ∧ Shows t p

theorem ShowsPlain.not_error {colored plain : Except Fault String} (h : ShowsPlain colored plain) :
    ¬ ∃ f, colored = .error f := by
  obtain ⟨t, p, ht, -, -⟩ := h
  rintro ⟨f, hf⟩
  rw [ht] at hf
  cases hf

theorem ShowsPlain.strip {colored plain : Except Fault String} (h : ShowsPlain colored plain) :
    ∀ t, colored = .ok t → plain = .ok (stripColors t) := by
  obtain ⟨t, p, ht, hp, hshows⟩ := h
  intro t' ht'
  rw [ht] at ht'
  cases ht'
  rw [hp, hshows.stripColors_eq]

/-- The line of a row that did not poll well: both forms are computed, and
the colored one shows as the plain one. -/
theorem errorLine_shows {r : Row} {a e : String} (hsym : r.symbol = .str a) (ha : NoEscape a)
    (herr : r.error = .str e) (he : NoEscape e) : ShowsPlain (errorLine r true) (errorLine r false) := by
  -- every message is a text without escapes, painted red
  have hline (m : String) (hm : NoEscape m) :
      Shows (Text.alignLeft 10 a ++ " | " ++ paint (Text.alignLeft 60 m) red true)
        (Text.alignLeft 10 a ++ " | " ++ paint (Text.alignLeft 60 m) red false) :=
    ((Shows.plain ((noEscape_alignLeft 10).2 ha)).append (Shows.plain (by decide))).append
      (shows_paint ((noEscape_alignLeft 60).2 hm) isCode_red)
  unfold errorLine
  simp only [hsym, herr, leftCell_str]
  split
  · exact ⟨_, _, rfl, rfl, hline _ (noEscape_append.2 ⟨by decide, he⟩)⟩
  · split
    · exact ⟨_, _, rfl, rfl, hline e he⟩
    · exact ⟨_, _, rfl, rfl, hline _ (by decide)⟩

/-- The line of a row that polled well, once its background is computed: the
colored line shows as the plain one. -/
theorem quoteLine_shows {r : Row} {s : Quote.Summary} {a : String} (hsym : s.symbol = .str a)
    (ha : NoEscape a) {bg : String} (hbg : crossoverBackground r = .ok bg) :
    ShowsPlain (quoteLine r s true) (quoteLine r s false) := by
  unfold quoteLine
  simp only [hsym, leftCell_str, hbg]
  refine ⟨_, _, rfl, rfl, Shows.intercalate (by decide) ?_⟩
  have hprice := shows_price s.change ((noEscape_alignRight 11).2 (noEscape_fixedText s.lastClose 2 false))
  refine .cons (shows_ticker (crossoverBackground_code hbg) ((noEscape_alignLeft 10).2 ha))
    (.cons (by simpa using hprice) (.cons ?_ (.cons ?_ ?_)))
  · exact shows_paint (noEscape_signed _ _ _ (by decide)) (isCode_signColor _)
  · split
    · exact shows_paint (noEscape_signed _ _ _ (by decide)) (isCode_signColor _)
    · exact Shows.plain (by decide)
  · cases r.macd with
    | none => exact .cons (Shows.plain (by decide)) (.cons (Shows.plain (by decide)) .nil)
    | some m =>
      dsimp only
      split
      · exact .cons (shows_percentCell _) (.cons (shows_percentCell _) .nil)
      · exact .cons (Shows.plain (by decide)) (.cons (Shows.plain (by decide)) .nil)

/-- Where the background of a row fails, so does its colored line. -/
theorem quoteLine_error {r : Row} {s : Quote.Summary} {a : String} (hsym : s.symbol = .str a)
    {f : Fault} (hbg : crossoverBackground r = .error f) : quoteLine r s true = .error f := by
  unfold quoteLine
  simp only [hsym, leftCell_str, hbg]
  rfl

theorem rowLine_of_quote {r : Row} {s : Quote.Summary} (hst : r.status = .ok) (hs : r.summary = some s)
    (color : Bool) : rowLine r color = quoteLine r s color := by
  unfold rowLine
  rw [hst, hs]

theorem rowLine_of_error {r : Row} (h : ¬ (r.status = .ok ∧ r.summary.isSome)) (color : Bool) :
    rowLine r color = errorLine r color := by
  unfold rowLine
  split
  · rename_i s hst hs
    exact absurd ⟨hst, by simp [hs]⟩ h
  · rfl

/-- The texts of a row that are shown as given: its symbol, its summary's
symbol and its error are texts without escapes. -/
structure PlainTexts (r : Row) : Prop where
  symbol : ∃ a, r.symbol = .str a ∧ NoEscape a
  summarySymbol : ∀ s, r.summary = some s → ∃ a, s.symbol = .str a ∧ NoEscape a
  error : ∃ e, r.error = .str e ∧ NoEscape e

/-- The colored line of a row either fails, for a row that polled well,
has a valid reading and a shade that cannot be computed, or is computed and
shows as the plain line. -/
theorem rowLine_cases (r : Row) (hr : PlainTexts r) :
    (r.status = .ok ∧ r.summary.isSome ∧ shadeFails r ∧ ∃ f, rowLine r true = .error f) ∨
      (¬ (r.status = .ok ∧ r.summary.isSome ∧ shadeFails r) ∧
        ShowsPlain (rowLine r true) (rowLine r false)) := by
  by_cases hq : r.status = .ok ∧ r.summary.isSome
  · -- a quote line: it fails where its background does
    obtain ⟨hst, hsome⟩ := hq
    obtain ⟨s, hs⟩ := Option.isSome_iff_exists.1 hsome
    obtain ⟨a, hsym, ha⟩ := hr.summarySymbol s hs
    rw [rowLine_of_quote hst hs, rowLine_of_quote hst hs]
    cases hbg : crossoverBackground r with
    | error f =>
      have hf : shadeFails r := (crossoverBackground_error_iff r).1 ⟨f, hbg⟩
      exact .inl ⟨hst, hsome, hf, f, quoteLine_error hsym hbg⟩
    | ok bg =>
      have hnf : ¬ shadeFails r := fun hf => by
        obtain ⟨f, hf'⟩ := (crossoverBackground_error_iff r).2 hf
        rw [hbg] at hf'
        cases hf'
      exact .inr ⟨fun h => hnf h.2.2, quoteLine_shows hsym ha hbg⟩
  · -- an error line is always computed
    obtain ⟨a, hsym, ha⟩ := hr.symbol
    obtain ⟨e, herr, he⟩ := hr.error
    rw [rowLine_of_error hq, rowLine_of_error hq]
    exact .inr ⟨fun h => hq ⟨h.1, h.2.1⟩, errorLine_shows hsym ha herr he⟩

/-- **Color only adds escape sequences to a row.** The colored line of a row
fails exactly when the row polled well, has a valid reading, and its shade
range times its intensity is NaN or `+∞`; otherwise deleting the color
sequences from it gives the plain line. -/
theorem rowLine_uncolored (r : Row) (hr : PlainTexts r) :
    ((∃ f, rowLine r true = .error f) ↔ r.status = .ok ∧ r.summary.isSome ∧ shadeFails r) ∧
      ∀ t, rowLine r true = .ok t → rowLine r false = .ok (stripColors t) := by
  rcases rowLine_cases r hr with ⟨hst, hsome, hf, hfail⟩ | ⟨hnf, hshows⟩
  · refine ⟨⟨fun _ => ⟨hst, hsome, hf⟩, fun _ => hfail⟩, fun t ht => ?_⟩
    obtain ⟨f, hf'⟩ := hfail
    rw [hf'] at ht
    cases ht
  · exact ⟨⟨fun h => absurd h hshows.not_error, fun h => absurd h hnf⟩, hshows.strip⟩

/-! ## The table -/

theorem noEscape_strip {s : String} (h : NoEscape s) : NoEscape (Text.strip s) := by
  unfold Text.strip
  rw [noEscape_ofList]
  intro hm
  have hsub : List.Sublist ((s.toList.dropWhile Text.isSpace).reverse.dropWhile Text.isSpace).reverse
      s.toList :=
    (List.reverse_sublist.2 (List.dropWhile_sublist _)).trans
      (List.reverse_sublist.1 (by simpa using List.dropWhile_sublist _))
  exact h (hsub.subset hm)

@[simp] theorem noEscape_repr (n : Int) : NoEscape n.repr := noEscape_toString_int n

theorem noEscape_ite {c : Prop} [Decidable c] {a b : String} (ha : NoEscape a) (hb : NoEscape b) :
    NoEscape (if c then a else b) := by
  split
  · exact ha
  · exact hb

@[simp] theorem noEscape_twoDigits (n : Nat) : NoEscape (Stamp.twoDigits n) :=
  noEscape_ite (noEscape_append.2 ⟨by decide, noEscape_toString_nat n⟩) (noEscape_toString_nat n)

@[simp] theorem noEscape_padded (w n : Nat) : NoEscape (Stamp.padded w n) :=
  noEscape_append.2 ⟨noEscape_replicate _ (by decide), noEscape_toString_nat n⟩

@[simp] theorem noEscape_offsetText (o : Int) : NoEscape (Stamp.offsetText o) := by
  have hsign : NoEscape (if o < 0 then "-" else "+") := noEscape_ite (by decide) (by decide)
  unfold Stamp.offsetText
  dsimp only
  split
  · simp +decide [hsign]
  · split <;> simp +decide [hsign]

@[simp] theorem noEscape_zoneName (o : Int) : NoEscape (Stamp.zoneName o) :=
  noEscape_ite (by decide) (noEscape_append.2 ⟨by decide, noEscape_offsetText o⟩)

/-- The moment the footer shows has no escapes. -/
theorem noEscape_stampText (t : Stamp) : NoEscape t.text := by
  unfold Stamp.text
  apply noEscape_strip
  cases t.offset with
  | some o => simp +decide
  | none => simp +decide

/-- The footer of the table, when the refresh interval shows without escapes. -/
theorem footer_plain (lastUpdate : Option Stamp) {refresh : Value} (h : NoEscape refresh.display) :
    ∃ foot, footer lastUpdate refresh none = .ok foot ∧ NoEscape foot := by
  have hstamp : ∀ stamp : String, NoEscape stamp → ∃ foot,
      (if refresh.truthy = true then
        (pure ("Last updated: " ++ stamp ++ "  |  Updating every " ++ refresh.display ++
          "s  |  Ctrl+C to quit") : Except Fault String)
      else pure ("Last updated: " ++ stamp)) = .ok foot ∧ NoEscape foot := by
    intro stamp hs
    split
    · exact ⟨_, rfl, by simp +decide [hs, h]⟩
    · exact ⟨_, rfl, by simp +decide [hs]⟩
  cases lastUpdate with
  | some t => exact hstamp _ (noEscape_stampText t)
  | none => exact hstamp _ (by decide)

/-- The colored lines of a list of rows fail exactly when one of the rows
does; otherwise each shows as its plain line. -/
theorem mapM_rowLine (rows : List Row) (hrows : ∀ r ∈ rows, PlainTexts r) :
    ((∃ f, rows.mapM (rowLine · true) = .error f) ↔
        ∃ r ∈ rows, r.status = .ok ∧ r.summary.isSome ∧ shadeFails r) ∧
      ∀ ls, rows.mapM (rowLine · true) = .ok ls →
        ∃ ps, rows.mapM (rowLine · false) = .ok ps ∧ List.Forall₂ Shows ls ps := by
  induction rows with
  | nil =>
    refine ⟨⟨?_, ?_⟩, ?_⟩
    · rintro ⟨f, hf⟩
      cases hf
    · rintro ⟨r, hr, -⟩
      cases hr
    · intro ls hls
      cases hls
      exact ⟨[], rfl, .nil⟩
  | cons r rs ih =>
    have ih := ih fun r' hr' => hrows r' (List.mem_cons_of_mem _ hr')
    simp only [List.mapM_cons, List.mem_cons, exists_eq_or_imp]
    rcases rowLine_cases r (hrows r List.mem_cons_self) with ⟨hst, hsome, hf, f, hfail⟩ |
      ⟨hnf, t, p, ht, hp, hshows⟩
    · -- the first row fails
      rw [hfail]
      refine ⟨⟨fun _ => .inl ⟨hst, hsome, hf⟩, fun _ => ⟨f, rfl⟩⟩, ?_⟩
      intro ls hls
      cases hls
    · rw [ht, hp]
      cases hts : rs.mapM (rowLine · true) with
      | error f =>
        -- a later row fails
        have hrest := ih.1.1 ⟨f, hts⟩
        refine ⟨⟨fun _ => .inr hrest, fun _ => ⟨f, rfl⟩⟩, ?_⟩
        intro ls hls
        cases hls
      | ok ts =>
        obtain ⟨ps, hps, hall⟩ := ih.2 ts hts
        rw [hps]
        refine ⟨⟨?_, ?_⟩, ?_⟩
        · rintro ⟨f, hf⟩
          cases hf
        · rintro (h | h)
          · exact absurd h hnf
          · obtain ⟨f, hf⟩ := ih.1.2 h
            rw [hts] at hf
            cases hf
        · intro ls hls
          cases hls
          exact ⟨p :: ps, rfl, .cons hshows hall⟩

/-- **Color only adds escape sequences to the table.** The colored table fails
exactly when one of its rows has a shade that cannot be computed; otherwise
deleting the color sequences from it gives the plain table, line by line, as
long as the rows' texts and the refresh interval show without escapes. -/
theorem table_uncolored (rows : List Row) (lastUpdate : Option Stamp) (refresh : Value)
    (hrows : ∀ r ∈ rows, PlainTexts r) (hrefresh : NoEscape refresh.display) :
    ((∃ f, table rows lastUpdate refresh true = .error f) ↔
        ∃ r ∈ rows, r.status = .ok ∧ r.summary.isSome ∧ shadeFails r) ∧
      ∀ t, table rows lastUpdate refresh true = .ok t →
        table rows lastUpdate refresh false = .ok (stripColors t) := by
  obtain ⟨hfails, hlines⟩ := mapM_rowLine rows hrows
  obtain ⟨foot, hfoot, hplain⟩ := footer_plain lastUpdate hrefresh
  unfold table
  rw [hfoot]
  cases hls : rows.mapM (rowLine · true) with
  | error f =>
    have hrow := hfails.1 ⟨f, hls⟩
    refine ⟨⟨fun _ => hrow, fun _ => ⟨f, rfl⟩⟩, ?_⟩
    intro t ht
    cases ht
  | ok ls =>
    obtain ⟨ps, hps, hall⟩ := hlines ls hls
    rw [hps]
    refine ⟨⟨?_, ?_⟩, ?_⟩
    · rintro ⟨f, hf⟩
      cases hf
    · intro h
      obtain ⟨f, hf⟩ := hfails.2 h
      rw [hls] at hf
      cases hf
    · intro t ht
      cases ht
      -- the fixed lines and the footer are plain; the row lines show as their plain lines
      have hfixed : List.Forall₂ Shows [title, "", header, rule] [title, "", header, rule] :=
        .cons (Shows.plain (by decide)) (.cons (Shows.plain (by decide))
          (.cons (Shows.plain (by decide)) (.cons (Shows.plain (by decide)) .nil)))
      have hend : List.Forall₂ Shows [rule, foot] [rule, foot] :=
        .cons (Shows.plain (by decide)) (.cons (Shows.plain hplain) .nil)
      have hshows := (Shows.intercalate (by decide : NoEscape "\n") (List.rel_append (List.rel_append hfixed hall) hend)).append
        (Shows.plain (by decide : NoEscape "\n"))
      exact congrArg Except.ok hshows.stripColors_eq.symm

/-- A bullish crossover row, shaded at half intensity. -/
def bullishRow : Row where
  symbol := .str "AAPL"
  status := .ok
  summary := some ⟨.str "AAPL", 101.5, 100.0, 1.5, 1.5, true, [100.0, 101.5]⟩
  macd := some ⟨0.2, -0.1, 0.1, 0.0, 0.2, 0.1, true, true, false, true⟩
  intensity := 0.5

end QuoteMomentum.Display
