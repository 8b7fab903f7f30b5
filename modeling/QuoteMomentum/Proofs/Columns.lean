import QuoteMomentum.Proofs.Arithmetic
import QuoteMomentum.Proofs.Colors

/-!
# The columns of a row line up with the header

A row that polled well is printed, without color, as six cells joined by
` | `: the ticker left-aligned in ten characters, the price right-aligned in
eleven, the change as a sign and ten more, the percent change as a sign,
eleven more and `%` (or `N/A` in thirteen), and the two MACD percents as nine
characters and `%` (or `N/A` in ten). These are the widths of the header's
cells, so when every cell keeps to its width the line is as long as the header
and its separators stand where the header's do
(`Display.row_lines_up_with_header`).

A cell keeps to its width when its text does: the symbol has at most ten
characters, and each number, rounded to the places shown, has few enough
digits before the point (`Decimal.FitsDigits`). A number is written as its
sign mark, at least one digit, the point and its places, so its length is
read off the rounded magnitude (`Decimal.length_fixedText_finite`). NaN and
the infinities are three letters, which always fit. The price shows the sign
of a negative close; `-0.0` shows it too, but rounds to no digits at all.
-/

namespace QuoteMomentum

namespace Decimal

open Double Float.Model Float.Model.UnpackedFloat

/-! ## Numbers that fit their columns -/

/-- A double shown with `places` places has at most `digits` digits before
the point: its magnitude, rounded to those places, is below `10 ^ digits`.
NaN and the infinities, written as three letters, always fit. -/
def FitsDigits (x : Float) (places digits : Nat) : Prop :=
  match Kind.ofFloat x with
  | .finite b => b.scaled places < 10 ^ (digits + places)
  | _ => True

instance (x : Float) (places digits : Nat) : Decidable (FitsDigits x places digits) :=
  match h : Kind.ofFloat x with
  | .finite b => decidable_of_iff (b.scaled places < 10 ^ (digits + places)) (by simp only [FitsDigits, h])
  | .nan => isTrue (by simp only [FitsDigits, h])
  | .inf _ => isTrue (by simp only [FitsDigits, h])

/-! ## The length of a written number -/

/-- Written with at least one place, a number has at least one digit before
the point. -/
theorem length_pointText (n : Nat) {places : Nat} (hp : 1 ≤ places) :
    (pointText n places).length = max (places + 1) (toString n).length + 1 := by
  have hdot : ".".length = 1 := rfl
  unfold pointText
  simp only [if_neg (show places ≠ 0 by omega), String.length_append, String.length_ofList,
    List.length_take, List.length_drop, List.length_append, List.length_replicate,
    String.length_toList, hdot]
  omega

theorem length_fixedText_finite {x : Float} {b : Binary} (h : Kind.ofFloat x = .finite b) {places : Nat}
    (hp : 1 ≤ places) (plus : Bool) :
    (fixedText x places plus).length =
      (if b.neg || plus then 1 else 0) + (max (places + 1) (toString (b.scaled places)).length + 1) := by
  unfold fixedText
  rw [h]
  simp only [String.length_append, length_pointText _ hp]
  cases b.neg <;> cases plus <;> rfl

theorem length_fixedText_nan {x : Float} (h : Kind.ofFloat x = .nan) (places : Nat) (plus : Bool) :
    (fixedText x places plus).length = (if plus then 1 else 0) + 3 := by
  unfold fixedText
  rw [h]
  dsimp only
  cases plus <;> decide

theorem length_fixedText_inf {x : Float} {neg : Bool} (h : Kind.ofFloat x = .inf neg) (places : Nat)
    (plus : Bool) : (fixedText x places plus).length = (if neg || plus then 1 else 0) + 3 := by
  unfold fixedText
  rw [h]
  dsimp only
  cases neg <;> cases plus <;> decide

/-- A rounded magnitude below `10 ^ (digits + places)` is written in at most
`digits + places + 1` characters, less its sign mark. -/
theorem length_fixedText_finite_le {x : Float} {b : Binary} (h : Kind.ofFloat x = .finite b)
    {places digits : Nat} (hp : 1 ≤ places) (hd : 1 ≤ digits)
    (hs : b.scaled places < 10 ^ (digits + places)) (plus : Bool) :
    (fixedText x places plus).length ≤ (if b.neg || plus then 1 else 0) + (digits + places + 1) := by
  have hlen : (toString (b.scaled places)).length ≤ digits + places :=
    Nat.repr_length _ _ (by omega) hs
  rw [length_fixedText_finite h hp]
  omega

/-- A number that fits is written in at most `digits + places + 1`
characters after a sign mark of at most one. -/
theorem length_fixedText_le {x : Float} {places digits : Nat} (hx : FitsDigits x places digits)
    (hp : 1 ≤ places) (hd : 1 ≤ digits) (plus : Bool) :
    (fixedText x places plus).length ≤ 1 + (digits + places + 1) := by
  unfold FitsDigits at hx
  cases hk : Kind.ofFloat x with
  | nan =>
    rw [length_fixedText_nan hk]
    split <;> omega
  | inf neg =>
    rw [length_fixedText_inf hk]
    split <;> omega
  | finite b =>
    rw [hk] at hx
    have := length_fixedText_finite_le hk hp hd hx plus
    split at this <;> omega

/-! ## Magnitudes -/

/-- The magnitude of a double: NaN stays NaN, and a number or an infinity
loses its sign. -/
theorem ofFloat_abs (x : Float) :
    Kind.ofFloat x.abs =
      match Kind.ofFloat x with
      | .nan => .nan
      | .inf _ => .inf false
      | .finite b => .finite { b with neg := false } := by
  rw [ofFloat_eq_kindOf, ofFloat_eq_kindOf, unpack_abs]
  have hc := canonical_toModel x
  generalize x.toModel.unpack = u at hc ⊢
  cases hc with
  | notANumber => rw [UnpackedFloat.abs, unpack_pack_notANumber]; rfl
  | infinity s =>
    rw [UnpackedFloat.abs, unpack_modelPack,
      show UnpackedFloat.pack .binary64 (.infinity .positive) = packedInfinity .binary64 .positive from rfl,
      unpack_packedInfinity]
    rfl
  | num hu =>
    cases hu with
    | zero s => rw [UnpackedFloat.abs, unpack_modelPack_num (.zero _)]; rfl
    | finite hs he => rw [UnpackedFloat.abs, unpack_modelPack_num (.finite hs he)]; rfl

/-- A magnitude that fits is written without a sign mark, in at most
`digits + places + 1` characters. -/
theorem length_fixedText_abs_le {x : Float} {places digits : Nat} (hx : FitsDigits x places digits)
    (hp : 1 ≤ places) (hd : 1 ≤ digits) : (fixedText x.abs places false).length ≤ digits + places + 1 := by
  have habs := ofFloat_abs x
  unfold FitsDigits at hx
  cases hk : Kind.ofFloat x with
  | nan =>
    rw [hk] at habs
    rw [length_fixedText_nan habs, if_neg Bool.false_ne_true]
    omega
  | inf neg =>
    rw [hk] at habs
    rw [length_fixedText_inf habs, Bool.or_false, if_neg Bool.false_ne_true]
    omega
  | finite b =>
    rw [hk] at habs hx
    simpa using length_fixedText_finite_le habs hp hd hx false

/-- A finite double with its sign bit set that is not below zero is the
negative zero. -/
theorem sig_eq_zero_of_not_lt {x : Float} {b : Binary} (h : Kind.ofFloat x = .finite b)
    (hneg : b.neg = true) (hx : ¬ x < 0.0) : b.sig = 0 := by
  rw [ofFloat_eq_kindOf] at h
  rw [lt_zero_iff] at hx
  cases hu : x.toModel.unpack with
  | zero s =>
    rw [hu] at h
    cases h
    rfl
  | finite s m e hm =>
    rw [hu] at h hx
    cases h
    cases s with
    | negative => exact absurd rfl hx
    | positive => cases hneg
  | notANumber | infinity => rw [hu] at h; cases h

theorem scaled_of_sig_eq_zero {b : Binary} (h : b.sig = 0) (places : Nat) : b.scaled places = 0 := by
  simp [Binary.scaled, roundHalfEven, h]

/-- A close below `10 ^ 8`, or above `-10 ^ 7` when negative, is written in at
most eleven characters with two places. -/
theorem length_fixedText_close {x : Float} (hx : FitsDigits x 2 (if x < 0.0 then 7 else 8)) :
    (fixedText x 2 false).length ≤ 11 := by
  by_cases hlt : x < 0.0
  · rw [if_pos hlt] at hx
    exact length_fixedText_le hx (by decide) (by decide) false
  · rw [if_neg hlt] at hx
    unfold FitsDigits at hx
    cases hk : Kind.ofFloat x with
    | nan => rw [length_fixedText_nan hk]; decide
    | inf neg => rw [length_fixedText_inf hk]; split <;> decide
    | finite b =>
      rw [hk] at hx
      cases hneg : b.neg with
      | false => simpa [hneg] using length_fixedText_finite_le hk (by decide) (by decide) hx false
      | true =>
        -- the sign bit without being below zero: the negative zero, `-0.00`
        rw [length_fixedText_finite hk (by decide),
          scaled_of_sig_eq_zero (sig_eq_zero_of_not_lt hk hneg hlt), hneg]
        decide

end Decimal

namespace Display

open Decimal

/-! ## Cells -/

theorem paint_plain (text code : String) : paint text code false = text := by
  simp [paint]

/-- A signed cell that fits is its sign, its width and its suffix. -/
theorem length_signed {x : Float} {places digits width : Nat} (hx : FitsDigits x places digits)
    (hp : 1 ≤ places) (hd : 1 ≤ digits) (hw : digits + places + 1 ≤ width) (suffix : String) :
    (signed x width places suffix).length = 1 + width + suffix.length := by
  have hmag := length_fixedText_abs_le hx hp hd
  have hsign : (if 0.0 ≤ x then "+" else "-").length = 1 := by split <;> rfl
  simp only [signed, String.length_append, hsign, Text.length_alignRight]
  omega

/-- A MACD percent that fits fills its ten characters. -/
theorem length_percentCell {x : Float} (hx : FitsDigits x 3 4) : (percentCell x false).length = 10 := by
  have htext := length_fixedText_le hx (by decide) (by decide) true
  simp only [percentCell, paint_plain, String.length_append, Text.length_alignRight]
  have hpct : "%".length = 1 := rfl
  omega

/-- The widths of the columns, as the header lays them out. -/
def columnWidths : List Nat := [10, 11, 11, 13, 10, 10]

/-- What a row's numbers need to fit their columns: a symbol of at most ten
characters, a close below `10 ^ 8` (above `-10 ^ 7` when negative), a change
below `10 ^ 7` in magnitude, a percent change below `10 ^ 8` when it is
shown, and MACD percents below `10 ^ 4` when they are shown, each rounded to
the places shown. -/
structure Fits (r : Row) (s : Quote.Summary) : Prop where
  symbol : ∃ t, s.symbol = .str t ∧ t.length ≤ 10
  lastClose : FitsDigits s.lastClose 2 (if s.lastClose < 0.0 then 7 else 8)
  change : FitsDigits s.change 2 7
  changePercent : s.changePercentValid = true → FitsDigits s.changePercent 2 8
  percents : ∀ m, r.macd = some m → m.valid = true → m.percentValid = true →
    FitsDigits m.macdPercent 3 4 ∧ FitsDigits m.signalPercent 3 4

/-- Without color, a row whose numbers fit is laid out in the header's
columns: six cells of the header's widths, joined by ` | `. -/
theorem quoteLine_columns {r : Row} {s : Quote.Summary} (hfit : Fits r s) :
    ∃ cells, quoteLine r s false = .ok (" | ".intercalate cells) ∧ cells.map String.length = columnWidths := by
  obtain ⟨t, hsym, ht⟩ := hfit.symbol
  have hticker : (Text.alignLeft 10 t).length = 10 := by
    rw [Text.length_alignLeft]
    omega
  have hprice : (Text.alignRight 11 (fixedText s.lastClose 2 false)).length = 11 := by
    have := length_fixedText_close hfit.lastClose
    rw [Text.length_alignRight]
    omega
  have hchange : (signed s.change 10 2).length = 11 :=
    length_signed hfit.change (by decide) (by decide) (by decide) ""
  have hpct : (if s.changePercentValid = true then signed s.changePercent 11 2 "%"
      else Text.alignRight 13 "N/A").length = 13 := by
    split
    · next hv => exact length_signed (hfit.changePercent hv) (by decide) (by decide) (by decide) "%"
    · rfl
  unfold quoteLine
  simp only [hsym, leftCell_str]
  refine ⟨_, rfl, ?_⟩
  simp only [Bool.false_eq_true, if_false, paint_plain, List.map_cons, List.map_nil, hticker, hprice,
    hchange, hpct, columnWidths]
  -- the MACD cells show both percents or neither
  cases hm : r.macd with
  | none => rfl
  | some m =>
    dsimp only
    split
    · next hshow =>
      rw [Bool.and_eq_true] at hshow
      obtain ⟨hmacd, hsignal⟩ := hfit.percents m hm hshow.1 hshow.2
      rw [length_percentCell hmacd, length_percentCell hsignal]
    · rfl

/-! ## Separators -/

/-- Whether a text has the column separator ` | ` at offset `i`. -/
def SeparatorAt (s : String) (i : Nat) : Prop := (s.toList.drop i).take 3 = " | ".toList

instance (s : String) : DecidablePred (SeparatorAt s) := fun _ => inferInstanceAs (Decidable (_ = _))

/-- The offsets of the separators between cells of the given widths. -/
def joints : List Nat → List Nat
  | w :: v :: ws => w :: (joints (v :: ws)).map (w + 3 + ·)
  | _ => []

theorem separatorAt_append (a t : String) : SeparatorAt (a ++ " | " ++ t) a.length := by
  rw [SeparatorAt, String.toList_append, String.toList_append, List.append_assoc, ← String.length_toList,
    List.drop_left]
  exact List.take_left' rfl

/-- Past a cell and its separator, separators are those of the rest. -/
theorem separatorAt_append_iff (a t : String) (i : Nat) :
    SeparatorAt (a ++ " | " ++ t) (a.length + 3 + i) ↔ SeparatorAt t i := by
  have hlen : a.length + 3 = (a.toList ++ " | ".toList).length := by
    rw [List.length_append, String.length_toList]
    rfl
  rw [SeparatorAt, SeparatorAt, String.toList_append, String.toList_append, hlen,
    List.drop_length_add_append]

/-- Cells joined by ` | ` have a separator after each cell but the last. -/
theorem separatorAt_intercalate : ∀ (cs : List String), ∀ j ∈ joints (cs.map String.length),
    SeparatorAt (" | ".intercalate cs) j
  | a :: b :: rest => by
    intro j hj
    rw [String.intercalate_cons_cons]
    simp only [List.map_cons, joints, List.mem_cons, List.mem_map] at hj
    rcases hj with rfl | ⟨i, hi, rfl⟩
    · exact separatorAt_append a _
    · exact (separatorAt_append_iff a _ i).mpr (separatorAt_intercalate (b :: rest) i hi)
  | [] | [_] => by
    intro j hj
    simp [joints] at hj

/-- Cells joined by ` | ` take their widths and three characters between
each two. -/
theorem length_intercalate : ∀ (cs : List String),
    (" | ".intercalate cs).length = (cs.map String.length).sum + 3 * (cs.length - 1)
  | [] => rfl
  | [a] => by simp
  | a :: b :: rest => by
    have hsep : " | ".length = 3 := rfl
    rw [String.intercalate_cons_cons, String.length_append, String.length_append,
      length_intercalate (b :: rest), hsep]
    simp only [List.map_cons, List.sum_cons, List.length_cons]
    omega

/-- The header is laid out in its columns. -/
theorem header_columns : ∃ cells, header = " | ".intercalate cells ∧ cells.map String.length = columnWidths :=
  ⟨_, rfl, by decide⟩

/-- The header's separators stand between its cells, and nowhere else. -/
theorem header_separators (i : Nat) (h : SeparatorAt header i) : i ∈ joints columnWidths := by
  have hlt : i < header.length := by
    by_contra hge
    rw [← String.length_toList] at hge
    simp [SeparatorAt, List.drop_of_length_le (Nat.le_of_not_lt hge)] at h
  have hall : ∀ i < header.length, SeparatorAt header i → i ∈ joints columnWidths := by decide +kernel
  exact hall i hlt h

/-- **A row lines up with the header.** Printed without color, a row that
polled well and whose symbol and numbers fit their columns is a line as long
as the header, with a separator wherever the header has one, whichever of its
percent cells show numbers and which show `N/A`. -/
theorem row_lines_up_with_header {r : Row} {s : Quote.Summary} (hst : r.status = .ok)
    (hs : r.summary = some s) (hfit : Fits r s) :
    ∃ line, rowLine r false = .ok line ∧ line.length = header.length ∧
      ∀ i, SeparatorAt header i → SeparatorAt line i := by
  obtain ⟨cells, hline, hwidths⟩ := quoteLine_columns hfit
  obtain ⟨hcells, hheader, hhwidths⟩ := header_columns
  have hlen (cs : List String) (h : cs.map String.length = columnWidths) :
      (" | ".intercalate cs).length = 80 := by
    have hn : cs.length = 6 := by simpa [columnWidths] using congrArg List.length h
    rw [length_intercalate, h, hn]
    rfl
  refine ⟨_, (rowLine_of_quote hst hs false).trans hline, ?_, fun i hi => ?_⟩
  · rw [hheader, hlen cells hwidths, hlen hcells hhwidths]
  · exact separatorAt_intercalate cells i (hwidths ▸ header_separators i hi)

/-- A summary at the edges of its columns: a ten-character symbol, a close and
a change just above `-10 ^ 7`, and no percent change against a zero close. -/
def edgeSummary : Quote.Summary :=
  ⟨.str "ABCDEFGHIJ", -9999999.99, 0.0, -9999999.99, 0.0, false, [0.0, -9999999.99]⟩

/-- A row of that summary whose MACD percents lie just inside `±10 ^ 4`. -/
def edgeRow : Row where
  symbol := .str "ABCDEFGHIJ"
  status := .ok
  summary := some edgeSummary
  macd := some ⟨0.0, 0.0, 0.0, 0.0, -9999.999, 9999.999, true, false, false, true⟩

/-- The row at the edges of its columns lines up with the header. -/
theorem edge_row_lines_up :
    Fits edgeRow edgeSummary ∧ ∃ line, rowLine edgeRow false = .ok line ∧ line.length = header.length ∧
      ∀ i, SeparatorAt header i → SeparatorAt line i :=
  have hfit : Fits edgeRow edgeSummary :=
    ⟨⟨"ABCDEFGHIJ", rfl, by decide⟩, by decide +kernel, by decide +kernel,
      fun h => absurd h Bool.false_ne_true,
      fun m hm _ _ => by
        cases hm
        exact ⟨by decide +kernel, by decide +kernel⟩⟩
  ⟨hfit, row_lines_up_with_header rfl rfl hfit⟩

end Display

end QuoteMomentum
