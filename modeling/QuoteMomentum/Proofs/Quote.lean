import Mathlib
import QuoteMomentum.Proofs.Answer

/-!
# The closes and the summary of a chart result

A chart result is read in two stages. Its closes (`Quote.closes`) are found
by five checks on its shape, made in a fixed order, the first failing one
giving the fault (`Quote.shapeChecks`), and then by a filter on the entries
of `indicators.quote[0].close`: a whole number is kept as its nearest double,
a double only when finite, anything else, booleans included, is dropped
(`Value.closeValue?`). Telling whether a whole number is finite converts it,
so one too large for a double stops the reading wherever it sits
(`Value.overflowsDouble`). The closes are then never empty, and all finite
(`Quote.closes_report_first_failed_check`): a whole number whose double is
not infinite has a finite double, because converting a whole number never
gives NaN (`Double.isFinite_ofInt`).

The summary takes a previous close from the closes or from the meta fields,
in the order the range asks for (`Quote.previousOf`); the meta fields give
the first of `previousCloseKeys` that holds a close. Without either the
history is insufficient, which happens exactly for a single close and no
meta field (`Quote.summarize_takes_previous_close`).
-/

open Float.Model Float.Model.UnpackedFloat

namespace QuoteMomentum

/-! ## Whole numbers as doubles

Converting a whole number rounds it and packs the result into the bits of a
double; neither step makes a NaN. -/

namespace Double

/-- Rounding gives zero or a finite value, never NaN. -/
theorem isNaN_roundWithAccuracy (spec : Format) (s : Sign) (m : Nat) (e : Int) (acc : Accuracy) :
    (roundWithAccuracy spec s m e acc).isNaN = false := by
  simp only [roundWithAccuracy]
  split <;> rfl

theorem isNaN_round (spec : Format) (s : Sign) (m : Nat) (e : Int) :
    (UnpackedFloat.round spec s m e).isNaN = false := by
  unfold UnpackedFloat.round
  exact isNaN_roundWithAccuracy _ _ _ _ _

theorem isNaN_normalize (spec : Format) (m e : Int) (z : Sign) :
    (UnpackedFloat.normalize spec m e z).isNaN = false := by
  unfold UnpackedFloat.normalize
  split
  · exact isNaN_round _ _ _ _
  · rfl
  · exact isNaN_round _ _ _ _

theorem isNaN_neg {a : UnpackedFloat} (ha : a.isNaN = false) : a.neg.isNaN = false := by
  cases a with
  | notANumber => cases ha
  | _ => rfl

/-- A product with a finite factor is NaN only when the other factor is. -/
theorem isNaN_mul_finite (spec : Format) {a : UnpackedFloat} (ha : a.isNaN = false) (s : Sign)
    (m : Nat) (e : Int) (hm : 0 < m) : (mul spec a (.finite s m e hm)).isNaN = false := by
  cases a with
  | notANumber => cases ha
  | infinity => rfl
  | zero => rfl
  | finite => exact isNaN_roundWithAccuracy _ _ _ _ _

/-- A decimal `m · 10^e` read into a format is never NaN. -/
theorem isNaN_ofScientific (spec : Format) (m : Nat) (e : Int) :
    (UnpackedFloat.ofScientific spec m e).isNaN = false := by
  unfold UnpackedFloat.ofScientific
  split
  · rfl
  split
  · rfl
  split
  · rfl
  split
  · exact isNaN_mul_finite _ rfl _ _ _ _
  · exact isNaN_roundWithAccuracy _ _ _ _ _

/-- A bit pattern reads as NaN exactly when its exponent field is all ones and
its mantissa field is not zero. -/
theorem isNaN_unpack (spec : Format) (b : BitVec spec.numBits) :
    (UnpackedFloat.unpack spec b).isNaN =
      (unpackExponent b == -1#_ && unpackMantissa b != 0#_) := by
  unfold UnpackedFloat.unpack
  by_cases he : unpackExponent b = -1#_
  · by_cases hm : unpackMantissa b = 0#_ <;> simp [he, hm, UnpackedFloat.isNaN]
  · by_cases h0 : unpackExponent b = 0#_
    · by_cases hm : unpackMantissa b = 0#_ <;>
        simp [h0, hm, UnpackedFloat.isNaN, Nat.pos_iff_ne_zero.1 spec.he]
    · simp [he, h0, UnpackedFloat.isNaN]

/-- Packing keeps a value that is not NaN from reading back as NaN: only a NaN
is packed with an exponent of all ones and a mantissa other than zero. -/
theorem isNaN_unpack_pack {u : UnpackedFloat} (hu : u.isNaN = false) :
    (Float.Model.pack u).unpack.isNaN = false := by
  unfold Float.Model.unpack Float.Model.pack
  rw [UInt64.toBitVec_ofBitVec, isNaN_unpack]
  cases u with
  | notANumber => cases hu
  | infinity s =>
    rw [UnpackedFloat.pack, packedInfinity, unpackMantissa_packComponents]
    simp
  | zero s =>
    rw [UnpackedFloat.pack, packedZero, unpackExponent_packComponents]
    simp
  | finite s m e hm =>
    unfold UnpackedFloat.pack
    dsimp only
    split
    · -- too large: packed as an infinity, whose mantissa is zero
      rw [packedInfinity, unpackMantissa_packComponents]
      simp
    · split
      · -- normal: the biased exponent stays below all ones
        rename_i hinf _
        rw [unpackExponent_packComponents]
        generalize (e + _ + _).toNat = k at hinf ⊢
        have hne : BitVec.ofNat Format.binary64.exponentBits k ≠ -1#_ := by
          intro hh
          have hbits := congrArg BitVec.toNat hh
          simp only [BitVec.neg_one_eq_allOnes, BitVec.toNat_allOnes, BitVec.toNat_ofNat] at hbits
          rw [Nat.mod_eq_of_lt (by omega)] at hbits
          omega
        rw [beq_eq_false_iff_ne.mpr hne, Bool.false_and]
      · -- subnormal: the exponent field is zero
        rw [unpackExponent_packComponents]
        simp

/-- The double one, as reading a decimal multiplies by it. -/
theorem unpack_one : (Float.exactlyRepresentablePowersOfTen[0]).toModel.unpack =
    .finite .positive 4503599627370496 (-52) (by decide) := by
  rfl

/-- A natural number read as a double is never NaN. -/
theorem isNaN_ofNat (m : Nat) : (Float.ofNat m).toModel.unpack.isNaN = false := by
  unfold Float.ofNat
  simp only [OfScientific.ofScientific, Float.ofScientific]
  split
  · -- a small number is read exactly, as itself times one
    rw [if_neg Bool.false_ne_true]
    change (Float.Model.pack (mul Format.binary64 (Float.Model.ofUInt64 m.toUInt64).unpack
      (Float.exactlyRepresentablePowersOfTen[0]).toModel.unpack)).unpack.isNaN = false
    rw [unpack_one]
    exact isNaN_unpack_pack
      (isNaN_mul_finite _ (isNaN_unpack_pack (isNaN_normalize _ _ _ _)) _ _ _ _)
  · exact isNaN_unpack_pack (isNaN_ofScientific _ _ _)

/-- A whole number read as a double is never NaN. -/
theorem isNaN_ofInt (n : Int) : (Float.ofInt n).isNaN = false := by
  cases n with
  | ofNat m => exact isNaN_ofNat m
  | negSucc m => exact isNaN_unpack_pack (isNaN_neg (isNaN_ofNat (m + 1)))

/-- A whole number whose double is not infinite has a finite double. -/
theorem isFinite_ofInt {n : Int} (h : (Float.ofInt n).isInf = false) :
    (Float.ofInt n).isFinite = true := by
  have hnan : (Float.ofInt n).toModel.unpack.isNaN = false := isNaN_ofInt n
  have hinf : (Float.ofInt n).toModel.unpack.isInf = false := h
  show (Float.ofInt n).toModel.unpack.isFinite = true
  cases hu : (Float.ofInt n).toModel.unpack with
  | notANumber =>
    rw [hu] at hnan
    cases hnan
  | infinity =>
    rw [hu] at hinf
    cases hinf
  | zero => rfl
  | finite => rfl

end Double

/-! ## Entries as closes -/

namespace Value

/-- The close an entry gives: a whole number as its nearest double, a finite
double as itself; nothing for any other value, booleans and NaN included. -/
def closeValue? : Value → Option Float
  | .int n => some (Float.ofInt n)
  | .float x => if x.isFinite then some x else none
  | _ => none

/-- Whether an entry is a whole number too large for a double. -/
def overflowsDouble : Value → Bool
  | .int n => (Float.ofInt n).isInf
  | _ => false

/-- The items of a list; none for any other value. -/
def listItems : Value → List Value
  | .list xs => xs
  | _ => []

/-- A close that does not come of a number too large is finite. -/
theorem isFinite_of_closeValue? {v : Value} {x : Float} (h : v.closeValue? = some x)
    (hv : v.overflowsDouble = false) : x.isFinite = true := by
  cases v with
  | int n =>
    simp only [closeValue?, Option.some.injEq] at h
    subst h
    exact Double.isFinite_ofInt hv
  | float y =>
    simp only [closeValue?] at h
    split at h
    · rename_i hy
      cases h
      exact hy
    · cases h
  | _ => cases h

@[simp] theorem isList_list (xs : List Value) : (Value.list xs).isList = true := rfl

theorem isList_of_ne {v : Value} (h : ∀ xs, v = .list xs → False) : v.isList = false := by
  cases v with
  | list xs => exact (h xs rfl).elim
  | _ => rfl

theorem nonempty_of_ne {v : Value} (h : ∀ q tail, v = .list (q :: tail) → False) :
    (v.isList && !v.listItems.isEmpty) = false := by
  cases v with
  | list xs =>
    cases xs with
    | nil => rfl
    | cons q tail => exact (h q tail rfl).elim
  | _ => rfl

end Value

namespace Quote

/-- Testing an entry and reading it, then going on with `rest` when it is no
close: a whole number too large for a double fails. -/
theorem number_bind (c : Value) (rest : Except Fault (Option Float)) :
    (do if ← isNumber c then return some (← toDouble c) else rest : Except Fault (Option Float)) =
      if c.overflowsDouble then .error .intTooLarge
      else match c.closeValue? with
        | some x => .ok (some x)
        | none => rest := by
  cases c with
  | int n =>
    by_cases h : (Float.ofInt n).isInf <;>
      simp [isNumber, toDouble, Value.num?, Num.toDouble, Num.wholeToDouble, h,
        Value.overflowsDouble, Value.closeValue?, bind, Except.bind, pure, Except.pure]
  | float x =>
    cases hx : x.isFinite <;>
      simp [isNumber, toDouble, Value.num?, Num.toDouble, hx, Value.overflowsDouble,
        Value.closeValue?, bind, Except.bind, pure, Except.pure]
  | _ => rfl

/-- The closes of a list of entries: the closes of the entries in order,
unless one entry is a whole number too large for a double. -/
theorem numericEntries_eq (raw : List Value) :
    numericEntries raw =
      if raw.any Value.overflowsDouble then .error .intTooLarge
      else .ok (raw.filterMap Value.closeValue?) := by
  induction raw with
  | nil => rfl
  | cons c raw ih =>
    unfold numericEntries at ih ⊢
    rw [List.filterMapM_cons, number_bind, ih]
    by_cases hc : c.overflowsDouble
    · simp [hc, bind, Except.bind]
    · cases hv : c.closeValue? <;> by_cases hr : raw.any Value.overflowsDouble <;>
        simp [hc, hr, hv, bind, Except.bind, pure, Except.pure]

/-! ## The shape of a chart result -/

/-- The quotes of a chart result, under `indicators.quote`. -/
def quotesOf (result : Value) : Value := (result.getD "indicators").getD "quote"

/-- The first quote of a chart result, null when there is none. -/
def firstQuote (result : Value) : Value := (quotesOf result).listItems.headD .null

/-- The entries under `close` of the first quote. -/
def closeEntries (result : Value) : List Value := ((firstQuote result).getD "close").listItems

/-- The checks on the shape of a chart result, in the order they are made, each
with the fault it gives when it fails. -/
def shapeChecks (result : Value) : List (Bool × ShapeFault) :=
  [(result.isDict, .notObject),
   ((result.getD "indicators").isDict, .noIndicators),
   ((quotesOf result).isList && !(quotesOf result).listItems.isEmpty, .noQuote),
   ((firstQuote result).isDict, .quoteNotObject),
   (((firstQuote result).getD "close").isList, .closeNotList)]

/-- The fault of the first check on the shape that fails, if one does. -/
def shapeFault? (result : Value) : Option ShapeFault :=
  ((shapeChecks result).find? fun c => !c.1).map Prod.snd

/-- Reading the closes makes the checks on the shape in order, and only then
reads the close entries. -/
theorem closes_eq (result : Value) :
    closes result =
      match shapeFault? result with
      | some f => .error (.shape f)
      | none => numericEntries (closeEntries result) >>= fun cs =>
          if cs.isEmpty then .error (.shape .noNumericClose) else .ok cs := by
  unfold closes
  simp only [bind, Except.bind, throw, throwThe, MonadExceptOf.throw, pure, Except.pure]
  split
  · rename_i h1
    split
    · rename_i h2
      split
      · rename_i q tail hq
        split
        · rename_i h4
          split
          · rename_i raw hraw
            have hnone : shapeFault? result = none := by
              simp [shapeFault?, shapeChecks, quotesOf, firstQuote, h1, h2, hq, h4, hraw,
                Value.listItems]
            rw [hnone]
            simp [closeEntries, firstQuote, quotesOf, hq, hraw, Value.listItems]
          · rename_i hclose
            have hnot : (q.getD "close").isList = false := Value.isList_of_ne hclose
            have hfault : shapeFault? result = some .closeNotList := by
              simp [shapeFault?, shapeChecks, quotesOf, firstQuote, h1, h2, hq, h4, hnot,
                Value.listItems]
            rw [hfault]
        · rename_i h4
          have hfault : shapeFault? result = some .quoteNotObject := by
            simp [shapeFault?, shapeChecks, quotesOf, firstQuote, h1, h2, hq, h4, Value.listItems]
          rw [hfault]
      · rename_i hquote
        have hfault : shapeFault? result = some .noQuote := by
          simp [shapeFault?, shapeChecks, quotesOf, h1, h2, Value.nonempty_of_ne hquote]
        rw [hfault]
    · rename_i h2
      have hfault : shapeFault? result = some .noIndicators := by
        simp [shapeFault?, shapeChecks, h1, h2]
      rw [hfault]
  · rename_i h1
    have hfault : shapeFault? result = some .notObject := by
      simp [shapeFault?, shapeChecks, h1]
    rw [hfault]

/-- Closes that were read are the closes of the close entries, none of them a
number too large, and there is at least one. -/
theorem closes_ok {result : Value} {cs : List Float} (h : closes result = .ok cs) :
    shapeFault? result = none ∧ (closeEntries result).any Value.overflowsDouble = false ∧
      cs = (closeEntries result).filterMap Value.closeValue? ∧ cs ≠ [] := by
  rw [closes_eq] at h
  split at h
  · cases h
  · rename_i hshape
    rw [numericEntries_eq] at h
    by_cases hover : (closeEntries result).any Value.overflowsDouble
    · simp [hover, bind, Except.bind] at h
    · simp only [hover, Bool.false_eq_true, if_false, bind, Except.bind] at h
      split at h
      · cases h
      · rename_i hne
        cases h
        exact ⟨hshape, Bool.eq_false_iff.mpr hover, rfl, by simpa using hne⟩

/-- Closes that were read are finite, and there is at least one. -/
theorem closes_finite {result : Value} {cs : List Float} (h : closes result = .ok cs) :
    cs ≠ [] ∧ ∀ x ∈ cs, x.isFinite = true := by
  obtain ⟨-, hover, rfl, hne⟩ := closes_ok h
  refine ⟨hne, fun x hx => ?_⟩
  obtain ⟨v, hv, hx⟩ := List.mem_filterMap.mp hx
  have hfits : v.overflowsDouble = false := by
    rw [List.any_eq_false] at hover
    simpa using hover v hv
  exact Value.isFinite_of_closeValue? hx hfits

/-- **The closes of a chart result.** Reading the closes fails at the first
check on the shape that fails, with its fault: no object, no `indicators`
object, no non-empty `quote` list, a first quote that is no object, a `close`
that is no list. After them, a whole number too large for a double among the
entries fails the reading wherever it sits; otherwise the closes are the
entries that are whole numbers or finite doubles, booleans excluded, in order,
each as a double, and having none is a fault of its own. Closes that were read
are never empty and all finite. -/
theorem closes_report_first_failed_check (result : Value) :
    (match shapeFault? result with
      | some f => closes result = .error (.shape f)
      | none =>
        if (closeEntries result).any Value.overflowsDouble then
          closes result = .error .intTooLarge
        else if (closeEntries result).filterMap Value.closeValue? = [] then
          closes result = .error (.shape .noNumericClose)
        else closes result = .ok ((closeEntries result).filterMap Value.closeValue?)) ∧
    ∀ cs, closes result = .ok cs → cs ≠ [] ∧ ∀ x ∈ cs, x.isFinite = true := by
  refine ⟨?_, fun cs h => closes_finite h⟩
  rw [closes_eq]
  split
  · rfl
  · rw [numericEntries_eq]
    by_cases hover : (closeEntries result).any Value.overflowsDouble
    · simp [hover, bind, Except.bind]
    · by_cases hnil : (closeEntries result).filterMap Value.closeValue? = [] <;>
        simp [hover, hnil, bind, Except.bind]

/-- A chart whose closes hold a gap, a boolean, a text and a NaN among two
whole numbers: only the whole numbers are closes. -/
theorem closes_of_mixed_entries :
    let result := Value.ofPairs [("indicators", .ofPairs [("quote", .list [.ofPairs [("close",
      .list [.int 101, .null, .bool true, .str "x", .float (0.0 / 0.0), .int 102])]])])]
    closes result = .ok [Float.ofInt 101, Float.ofInt 102] ∧
      [Float.ofInt 101, Float.ofInt 102] ≠ [] ∧
      ∀ x ∈ [Float.ofInt 101, Float.ofInt 102], x.isFinite = true := by
  intro result
  have hc : closes result = .ok [Float.ofInt 101, Float.ofInt 102] := by rfl
  exact ⟨hc, (closes_report_first_failed_check result).2 _ hc⟩

/-! ## The previous close -/

/-- The meta fields tried in the order `ks` give the first close among them; a
whole number too large for a double met on the way fails. -/
theorem previousClose_go (info : Value) (ks : List String) :
    (∀ r, previousClose.go info ks = .ok r → r = ks.findSome? fun k => (info.getD k).closeValue?) ∧
      ∀ f, previousClose.go info ks = .error f → f = .intTooLarge := by
  induction ks with
  | nil => exact ⟨fun r h => (by cases h; rfl), fun f h => (by cases h)⟩
  | cons k ks ih =>
    simp only [previousClose.go]
    rw [number_bind]
    by_cases hover : (info.getD k).overflowsDouble
    · rw [if_pos hover]
      exact ⟨fun r h => (by cases h), fun f h => (by cases h; rfl)⟩
    · rw [if_neg hover, List.findSome?_cons]
      cases (info.getD k).closeValue? with
      | some x => exact ⟨fun r h => (by cases h; rfl), fun f h => (by cases h)⟩
      | none => exact ih

/-- The previous close of the meta fields: the first of `previousCloseKeys`
holding a close, none when the meta is no object; the only fault is a whole
number too large for a double. -/
theorem previousClose_spec (info : Value) :
    (∀ r, previousClose info = .ok r →
      r = if info.isDict then previousCloseKeys.findSome? fun k => (info.getD k).closeValue? else none) ∧
      ∀ f, previousClose info = .error f → f = .intTooLarge := by
  unfold previousClose
  by_cases hd : info.isDict
  · simp only [hd, Bool.not_true, Bool.false_eq_true, if_false, if_true]
    exact previousClose_go info _
  · simp only [hd, Bool.not_false, if_true, Bool.false_eq_true, if_false]
    exact ⟨fun r h => (by cases h; rfl), fun f h => (by cases h)⟩

/-- The close before the last, when there are two. -/
def priorClose (cs : List Float) : Option Float :=
  if 2 ≤ cs.length then cs[cs.length - 2]? else none

/-- The previous close of a summary, from the closes `cs` and the close `r` of
the meta fields: for daily bars the close before the last, else `r`; for an
intraday range `r`, else the close before the last. -/
def previousOf (intraday : Bool) (cs : List Float) (r : Option Float) : Option Float :=
  if intraday then r <|> priorClose cs else priorClose cs <|> r

/-- Over at least one close, there is no previous close exactly when there is a
single close and the meta fields give none. -/
theorem previousOf_eq_none {intraday : Bool} {cs : List Float} {r : Option Float} (hne : cs ≠ []) :
    previousOf intraday cs r = none ↔ cs.length = 1 ∧ r = none := by
  have hpos : 0 < cs.length := List.length_pos_iff.mpr hne
  have hprior : priorClose cs = none ↔ cs.length = 1 := by
    unfold priorClose
    split
    · rename_i h
      rw [List.getElem?_eq_getElem (by omega : cs.length - 2 < cs.length)]
      simp only [reduceCtorEq, false_iff]
      omega
    · rename_i h
      simp only [true_iff]
      omega
  cases intraday <;> cases r <;> simp [previousOf, hprior]

/-- A summary over closes `cs` and the close `r` of the meta fields. -/
theorem summarize_eq {result : Value} {intraday : Bool} {cs : List Float} {r : Option Float}
    (hc : closes result = .ok cs) (hr : previousClose (result.getD "meta") = .ok r) :
    summarize result intraday =
      match previousOf intraday cs r with
      | none => .error (.shape .noPreviousClose)
      | some prev => .ok ⟨symbolOf (result.getD "meta"), cs.getLast?.getD 0.0, prev,
          cs.getLast?.getD 0.0 - prev,
          if !(prev == 0.0) then (cs.getLast?.getD 0.0 - prev) / prev * 100.0 else 0.0,
          !(prev == 0.0), cs⟩ := by
  unfold summarize
  simp only [hc, hr, bind, Except.bind]
  cases hp : previousOf intraday cs r with
  | none =>
    unfold previousOf priorClose at hp
    rw [hp]
    rfl
  | some prev =>
    unfold previousOf priorClose at hp
    rw [hp]
    rfl

/-- **The previous close of a summary.** For a chart result whose closes `cs`
were read: the meta fields give as `r` the first of `previousCloseKeys` that
holds a close, none when the meta is no object, and fail only on a whole
number too large for a double, which fails the summary too. The summary is
insufficient exactly when there is a single close and `r` is none. Otherwise
it takes as previous close the close before the last, else `r`, for daily
bars, and `r`, else the close before the last, for an intraday range; its last
close is the last of `cs`, its change the difference of the two, its percent
change the change over the previous close in percent unless the previous close
compares equal to zero, where it is zero and marked meaningless; it keeps `cs`,
and names the meta's symbol when that is a text, else `UNKNOWN`. -/
theorem summarize_takes_previous_close (result : Value) (intraday : Bool) {cs : List Float}
    (hc : closes result = .ok cs) :
    let info := result.getD "meta"
    (∀ f, previousClose info = .error f → f = .intTooLarge ∧ summarize result intraday = .error f) ∧
    ∀ r, previousClose info = .ok r →
      r = (if info.isDict then previousCloseKeys.findSome? fun k => (info.getD k).closeValue?
        else none) ∧
      (summarize result intraday = .error (.shape .noPreviousClose) ↔ cs.length = 1 ∧ r = none) ∧
      ∀ prev, previousOf intraday cs r = some prev →
        ∃ s, summarize result intraday = .ok s ∧ cs.getLast? = some s.lastClose ∧
          s.previousClose = prev ∧ s.change = s.lastClose - prev ∧
          s.changePercentValid = !(prev == 0.0) ∧
          s.changePercent = (if s.changePercentValid then s.change / prev * 100.0 else 0.0) ∧
          s.closes = cs ∧
          (∀ x, info.get? "symbol" = some (.str x) → s.symbol = .str x) ∧
          ((∀ x, info.get? "symbol" ≠ some (.str x)) → s.symbol = .str "UNKNOWN") := by
  dsimp only
  have hne : cs ≠ [] := (closes_finite hc).1
  refine ⟨fun f hf => ⟨(previousClose_spec _).2 f hf, ?_⟩, fun r hr => ?_⟩
  · -- the meta fields fail before any previous close is chosen
    unfold summarize
    simp only [hc, hf, bind, Except.bind]
  refine ⟨(previousClose_spec _).1 r hr, ?_, fun prev hprev => ?_⟩
  · rw [summarize_eq hc hr, ← previousOf_eq_none hne]
    cases previousOf intraday cs r <;> simp
  · rw [summarize_eq hc hr, hprev]
    obtain ⟨last, hlast⟩ := Option.isSome_iff_exists.mp (List.getLast?_isSome.mpr hne)
    refine ⟨_, rfl, ?_, rfl, rfl, rfl, rfl, rfl, fun x hx => ?_, fun hno => ?_⟩
    · rw [hlast]
      rfl
    · simp [symbolOf, hx]
    · show symbolOf (result.getD "meta") = .str "UNKNOWN"
      unfold symbolOf
      split
      · rename_i x hx
        exact absurd hx (hno x)
      · rfl

/-- An intraday chart of two closes whose meta holds a boolean and then a whole
number among its previous-close fields: the boolean is skipped, and the whole
number, not the close before the last, is the previous close. -/
theorem intraday_summary_takes_meta_close :
    let result := Value.ofPairs [
      ("meta", .ofPairs [("symbol", .str "SPY"), ("previousClose", .bool true),
        ("chartPreviousClose", .int 400)]),
      ("indicators", .ofPairs [("quote", .list [.ofPairs [("close",
        .list [.int 401, .null, .int 402])]])])]
    closes result = .ok [Float.ofInt 401, Float.ofInt 402] ∧
      ∃ s, summarize result true = .ok s ∧ s.previousClose = Float.ofInt 400 ∧
        s.lastClose = Float.ofInt 402 ∧ s.symbol = .str "SPY" := by
  intro result
  have hc : closes result = .ok [Float.ofInt 401, Float.ofInt 402] := by rfl
  have hr : previousClose (result.getD "meta") = .ok (some (Float.ofInt 400)) := by rfl
  obtain ⟨-, hsum⟩ := summarize_takes_previous_close result true hc
  obtain ⟨-, -, hok⟩ := hsum _ hr
  obtain ⟨s, hs, hlast, hprev, -, -, -, -, hsym, -⟩ := hok (Float.ofInt 400) rfl
  refine ⟨hc, s, hs, hprev, ?_, hsym "SPY" rfl⟩
  simpa using hlast.symm

end Quote

end QuoteMomentum
