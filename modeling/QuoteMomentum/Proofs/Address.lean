import Mathlib
import QuoteMomentum.Proofs.Poll

/-!
# Reading a chart address back

A chart address is `base/SEGMENT?QUERY`. Here both quoted parts are read back
the way a server reads them. The segment is percent-decoded: `%XX` is the byte
`XX` and any other character stands for its UTF-8 bytes. The query is
form-decoded: it is split at `&`, each part at its first `=`, and each side is
percent-decoded after `+` is read as a space.

The segment of a symbol is made only of unreserved characters and `%XX`
escapes with upper-case hex (`Quoted`), and it decodes to the UTF-8 bytes of
the symbol. The query of a watchlist decodes to its three pairs: the range,
the interval and whether to include the hours around the session. Each value
is the bytes of its display text, or of its own bytes for a byte string. So
the symbol never reaches past its segment, and two symbols never share an
address (`chartUrl_reads_back`).

A text with a surrogate has no UTF-8 form, so it is never written; a range
holding one leaves every symbol without an address (`chartUrl_surrogate_range`).
-/

namespace QuoteMomentum.Feed

/-! ## The bytes of a text -/

theorem toList_loop (bs : ByteArray) (i : Nat) (r : List UInt8) :
    ByteArray.toList.loop bs i r = r.reverse ++ bs.data.toList.drop i := by
  fun_induction ByteArray.toList.loop bs i r with
  | case1 i r h ih =>
    have hi : i < bs.data.toList.length := by simpa using h
    rw [ih, List.drop_eq_getElem_cons hi]
    simp [ByteArray.get!, h]
  | case2 i r h =>
    rw [List.drop_eq_nil_of_le (by simpa using Nat.le_of_not_lt h)]
    simp

theorem toList_eq_data_toList (bs : ByteArray) : bs.toList = bs.data.toList := by
  simp [ByteArray.toList, toList_loop]

theorem toList_toByteArray (l : List UInt8) : l.toByteArray.toList = l := by
  rw [toList_eq_data_toList, List.toList_data_toByteArray]

/-- The UTF-8 form of a text is the UTF-8 forms of its characters in turn. -/
theorem utf8_toList (s : String) :
    s.toUTF8.toList = s.toList.flatMap String.utf8EncodeChar := by
  rw [String.toUTF8_eq_toByteArray, ← String.utf8Encode_toList, List.utf8Encode,
    toList_toByteArray]

theorem utf8_singleton (c : Char) :
    (String.singleton c).toUTF8.toList = String.utf8EncodeChar c := by
  rw [utf8_toList]
  simp

/-- Texts with the same UTF-8 form are equal. -/
theorem eq_of_utf8_eq {s t : String} (h : s.toUTF8.toList = t.toUTF8.toList) : s = t := by
  rw [String.toUTF8_eq_toByteArray, String.toUTF8_eq_toByteArray, toList_eq_data_toList,
    toList_eq_data_toList, Array.toList_inj] at h
  exact String.toByteArray_inj.1 (ByteArray.ext h)

/-- An ASCII character is one byte, its code. -/
theorem utf8EncodeChar_ascii {c : Char} (h : c.toNat < 128) :
    String.utf8EncodeChar c = [UInt8.ofNat c.toNat] := by
  simp [String.utf8EncodeChar, Char.toNat_val, show c.toNat ≤ 127 by omega]

/-! ## Percent-decoding -/

/-- The value of a hex digit, of either case. -/
def hexDigit? (c : Char) : Option Nat :=
  if '0' ≤ c ∧ c ≤ '9' then some (c.toNat - '0'.toNat)
  else if 'A' ≤ c ∧ c ≤ 'F' then some (c.toNat - 'A'.toNat + 10)
  else if 'a' ≤ c ∧ c ≤ 'f' then some (c.toNat - 'a'.toNat + 10)
  else none

theorem hexDigit?_hexUpper : ∀ d, d < 16 → hexDigit? (hexUpper d) = some d := by
  decide

/-- Percent-decoding: `%` and two hex digits is one byte, and every other
character stands for its UTF-8 bytes, a `%` that starts no escape included. -/
def percentDecode : List Char → List UInt8
  | '%' :: tail@(h :: l :: rest) =>
    match hexDigit? h, hexDigit? l with
    | some a, some b => UInt8.ofNat (16 * a + b) :: percentDecode rest
    | _, _ => String.utf8EncodeChar '%' ++ percentDecode tail
  | c :: rest => String.utf8EncodeChar c ++ percentDecode rest
  | [] => []

theorem percentDecode_cons {c : Char} (hc : c ≠ '%') (rest : List Char) :
    percentDecode (c :: rest) = String.utf8EncodeChar c ++ percentDecode rest := by
  rw [percentDecode.eq_2]
  intro h l rest' hc' _
  exact hc hc'

/-- An escape reads back as its byte. -/
theorem percentDecode_percentByte (b : UInt8) (rest : List Char) :
    percentDecode ((percentByte b).toList ++ rest) = b :: percentDecode rest := by
  have hb : b.toNat < 256 := b.toNat_lt_size
  have hhi := hexDigit?_hexUpper (b.toNat / 16) (by omega)
  have hlo := hexDigit?_hexUpper (b.toNat % 16) (by omega)
  rw [percentByte, String.toList_ofList, List.cons_append, List.cons_append, List.cons_append,
    List.nil_append, percentDecode.eq_1, hhi, hlo]
  dsimp only
  rw [show 16 * (b.toNat / 16) + b.toNat % 16 = b.toNat by omega, UInt8.ofNat_toNat]

theorem percentDecode_percentBytes (bs : List UInt8) (rest : List Char) :
    percentDecode ((String.join (bs.map percentByte)).toList ++ rest) = bs ++ percentDecode rest := by
  induction bs with
  | nil => simp
  | cons b bs ih =>
    rw [List.map_cons, String.join_cons, String.toList_append, List.append_assoc,
      percentDecode_percentByte, ih, List.cons_append]

theorem ne_percent_of_isUnreserved {c : Char} (hc : isUnreserved c = true) : c ≠ '%' := by
  rintro rfl
  exact absurd hc (by decide)

/-- A quoted character reads back as its UTF-8 bytes. -/
theorem percentDecode_quoteChar (c : Char) (rest : List Char) :
    percentDecode ((quoteChar c).toList ++ rest) = String.utf8EncodeChar c ++ percentDecode rest := by
  unfold quoteChar
  split
  · next hc =>
    rw [String.toList_singleton, List.singleton_append,
      percentDecode_cons (ne_percent_of_isUnreserved hc)]
  · rw [percentDecode_percentBytes, utf8_singleton]

theorem percentDecode_quoteChars (cs : List Char) (rest : List Char) :
    percentDecode ((String.join (cs.map quoteChar)).toList ++ rest) =
      cs.flatMap String.utf8EncodeChar ++ percentDecode rest := by
  induction cs with
  | nil => simp
  | cons c cs ih =>
    rw [List.map_cons, String.join_cons, String.toList_append, List.append_assoc,
      percentDecode_quoteChar, ih, List.flatMap_cons, List.append_assoc]

/-! ## Quoted segments -/

/-- An upper-case hex digit. -/
def isHexUpper (c : Char) : Bool :=
  ('0' ≤ c && c ≤ '9') || ('A' ≤ c && c ≤ 'F')

/-- A quoted segment: unreserved characters, and `%` escapes with two
upper-case hex digits. -/
inductive Quoted : List Char → Prop
  | nil : Quoted []
  | plain {c : Char} {cs : List Char} : isUnreserved c = true → Quoted cs → Quoted (c :: cs)
  | escape {h l : Char} {cs : List Char} :
    isHexUpper h = true → isHexUpper l = true → Quoted cs → Quoted ('%' :: h :: l :: cs)

theorem Quoted.append {cs ds : List Char} (hc : Quoted cs) (hd : Quoted ds) : Quoted (cs ++ ds) := by
  induction hc with
  | nil => exact hd
  | plain hu _ ih => exact .plain hu ih
  | escape hh hl _ ih => exact .escape hh hl ih

theorem isHexUpper_hexUpper : ∀ d, d < 16 → isHexUpper (hexUpper d) = true := by
  decide

theorem isUnreserved_of_isHexUpper {c : Char} (hc : isHexUpper c = true) : isUnreserved c = true := by
  simp only [isHexUpper, isUnreserved, Bool.or_eq_true, Bool.and_eq_true, decide_eq_true_eq] at hc ⊢
  rcases hc with hc | hc
  · simp [hc]
  · simp [hc.1, Char.le_trans hc.2 (by decide : 'F' ≤ 'Z')]

theorem quoted_percentByte (b : UInt8) : Quoted (percentByte b).toList := by
  have hb : b.toNat < 256 := b.toNat_lt_size
  rw [percentByte, String.toList_ofList]
  exact .escape (isHexUpper_hexUpper _ (by omega)) (isHexUpper_hexUpper _ (by omega)) .nil

theorem quoted_join {l : List String} (h : ∀ t ∈ l, Quoted t.toList) : Quoted (String.join l).toList := by
  induction l with
  | nil => exact .nil
  | cons t l ih =>
    rw [String.join_cons, String.toList_append]
    exact (h t List.mem_cons_self).append (ih fun t' ht' => h t' (List.mem_cons_of_mem _ ht'))

theorem quoted_quoteChar (c : Char) : Quoted (quoteChar c).toList := by
  unfold quoteChar
  split
  · next hc =>
    rw [String.toList_singleton]
    exact .plain hc .nil
  · exact quoted_join fun t ht => by
      obtain ⟨b, -, rfl⟩ := List.mem_map.1 ht
      exact quoted_percentByte b

/-- Every character of a quoted segment is unreserved or starts an escape. -/
theorem Quoted.mem {cs : List Char} (h : Quoted cs) {c : Char} (hc : c ∈ cs) :
    isUnreserved c = true ∨ c = '%' := by
  induction h with
  | nil => simp at hc
  | plain hu _ ih =>
    rcases List.mem_cons.1 hc with rfl | hc
    · exact .inl hu
    · exact ih hc
  | escape hh hl _ ih =>
    simp only [List.mem_cons] at hc
    rcases hc with rfl | rfl | rfl | hc
    · exact .inr rfl
    · exact .inl (isUnreserved_of_isHexUpper hh)
    · exact .inl (isUnreserved_of_isHexUpper hl)
    · exact ih hc

/-- A reserved character other than `%` never stands in a quoted segment. -/
theorem Quoted.not_mem {cs : List Char} (h : Quoted cs) {d : Char} (hd : isUnreserved d = false)
    (hp : d ≠ '%') : d ∉ cs := fun hm => by
  rcases h.mem hm with hu | rfl
  · simp [hd] at hu
  · exact hp rfl

/-! ## The segment of a symbol -/

theorem encodable_error {s : String} (h : ¬NoSurrogate s) : ∃ f, encodable s = .error f := by
  unfold encodable
  dsimp only
  split
  · next hnone => exact absurd (findIdx?_surrogate_eq_none_iff.1 hnone) h
  · exact ⟨_, rfl⟩

/-- A segment that was written is the quoted characters of the symbol. -/
theorem quoteSegment_eq {s Q : String} (h : quoteSegment s = .ok Q) :
    Q = String.join ((Text.plain s).toList.map quoteChar) := by
  unfold quoteSegment at h
  cases he : encodable s with
  | error f => simp [he, bind, Except.bind] at h
  | ok u => simpa [he, bind, Except.bind, pure, Except.pure] using h.symm

theorem quoteSegment_of_noSurrogate {s : String} (hs : NoSurrogate s) :
    quoteSegment s = .ok (String.join ((Text.plain s).toList.map quoteChar)) := by
  simp [quoteSegment, encodable_of_text hs, bind, Except.bind, pure, Except.pure]

/-- **The segment reads back.** A written segment is quoted, and it
percent-decodes to the UTF-8 bytes of the symbol's characters. -/
theorem quoteSegment_reads {s Q : String} (h : quoteSegment s = .ok Q) :
    Quoted Q.toList ∧ percentDecode Q.toList = (Text.plain s).toUTF8.toList := by
  rw [quoteSegment_eq h]
  refine ⟨quoted_join fun t ht => ?_, ?_⟩
  · obtain ⟨c, -, rfl⟩ := List.mem_map.1 ht
    exact quoted_quoteChar c
  · have hdec := percentDecode_quoteChars (Text.plain s).toList []
    rw [List.append_nil, percentDecode.eq_3, List.append_nil] at hdec
    rw [hdec, utf8_toList]

/-- A symbol that has a segment holds no lone surrogate. -/
theorem noSurrogate_of_quoteSegment {s Q : String} (h : quoteSegment s = .ok Q) : NoSurrogate s := by
  by_contra hs
  obtain ⟨f, hf⟩ := encodable_error hs
  simp [quoteSegment, hf, bind, Except.bind] at h

/-- Two symbols with one segment are one symbol: their characters agree, and
a text without lone surrogates is told by its characters. -/
theorem quoteSegment_injective {s s' Q : String} (h : quoteSegment s = .ok Q)
    (h' : quoteSegment s' = .ok Q) : s = s' :=
  Text.eq_of_plain_eq (noSurrogate_of_quoteSegment h) (noSurrogate_of_quoteSegment h')
    (eq_of_utf8_eq ((quoteSegment_reads h).2.symm.trans (quoteSegment_reads h').2))

/-! ## Form-decoding -/

/-- `+` read as a space, as in a form. -/
def plusToSpace (cs : List Char) : List Char :=
  cs.map fun c => if c = '+' then ' ' else c

/-- One side of a form pair, read back. -/
def formValue (cs : List Char) : List UInt8 :=
  percentDecode (plusToSpace cs)

/-- A form pair, read back: the sides of its first `=`. -/
def formPair (part : List Char) : List UInt8 × List UInt8 :=
  (formValue (part.takeWhile (· != '=')), formValue ((part.dropWhile (· != '=')).drop 1))

/-- A form query, read back: its pairs are the parts between `&`s. -/
def formDecode (q : List Char) : List (List UInt8 × List UInt8) :=
  (q.splitOn '&').map formPair

/-- A character of a written form key or value: unreserved, the `%` of an
escape, or the `+` of a space. -/
def isFormChar (c : Char) : Bool :=
  isUnreserved c || c == '%' || c == '+'

/-- The bytes a query value stands for: a byte string its own bytes, any other
value the UTF-8 form of the characters of its display text, which a text with
a lone surrogate lacks. -/
def queryBytes? : Value → Option (List UInt8)
  | .bytes bs => some bs
  | v => if NoSurrogate v.display then some (Text.plain v.display).toUTF8.toList else none

theorem plusToSpace_append (a b : List Char) :
    plusToSpace (a ++ b) = plusToSpace a ++ plusToSpace b :=
  List.map_append

theorem plusToSpace_quoted {cs : List Char} (h : Quoted cs) : plusToSpace cs = cs := by
  have hplus : '+' ∉ cs := h.not_mem (by decide) (by decide)
  calc plusToSpace cs = cs.map id := List.map_congr_left fun c hc => if_neg fun (e : c = '+') => hplus (e ▸ hc)
    _ = cs := List.map_id cs

theorem isFormChar_of_quoted {cs : List Char} (h : Quoted cs) : ∀ c ∈ cs, isFormChar c = true := by
  intro c hc
  rcases h.mem hc with hu | rfl
  · simp [isFormChar, hu]
  · rfl

theorem isFormChar_join {l : List String} (h : ∀ t ∈ l, ∀ c ∈ t.toList, isFormChar c = true) :
    ∀ c ∈ (String.join l).toList, isFormChar c = true := by
  intro c hc
  rw [String.toList_join, List.mem_flatMap] at hc
  obtain ⟨t, ht, hct⟩ := hc
  exact h t ht c hct

theorem isFormChar_plus : ∀ c ∈ ("+" : String).toList, isFormChar c = true := by
  intro c hc
  rw [show ("+" : String).toList = ['+'] from rfl, List.mem_singleton] at hc
  subst hc
  rfl

theorem ne_of_isFormChar {c d : Char} (hc : isFormChar c = true) (hd : isFormChar d = false) :
    c ≠ d := by
  rintro rfl
  simp [hd] at hc

/-- A character of a text value reads back as its UTF-8 bytes: a space
through its `+`, anything else through its quoted form. -/
theorem formValue_queryChar (c : Char) (rest : List Char) :
    percentDecode (plusToSpace (if c == ' ' then "+" else quoteChar c).toList ++ rest) =
      String.utf8EncodeChar c ++ percentDecode rest := by
  by_cases hc : c = ' '
  · subst hc
    exact percentDecode_cons (by decide) rest
  · rw [if_neg (by simpa using hc), plusToSpace_quoted (quoted_quoteChar c), percentDecode_quoteChar]

theorem formValue_queryChars (cs rest : List Char) :
    percentDecode (plusToSpace
        (String.join (cs.map fun c => if c == ' ' then "+" else quoteChar c)).toList ++ rest) =
      cs.flatMap String.utf8EncodeChar ++ percentDecode rest := by
  induction cs with
  | nil => simp [plusToSpace]
  | cons c cs ih =>
    rw [List.map_cons, String.join_cons, String.toList_append, plusToSpace_append,
      List.append_assoc, formValue_queryChar, ih, List.flatMap_cons, List.append_assoc]

/-- **A text value reads back.** Written as a query value, a text without
surrogates form-decodes to its UTF-8 bytes. -/
theorem quoteQuery_reads {s : String} (hs : NoSurrogate s) :
    ∃ q, quoteQuery s = .ok q ∧ formValue q.toList = (Text.plain s).toUTF8.toList ∧
      ∀ c ∈ q.toList, isFormChar c = true := by
  have hq : quoteQuery s =
      .ok (String.join ((Text.plain s).toList.map fun c => if c == ' ' then "+" else quoteChar c)) := by
    simp [quoteQuery, encodable_of_text hs, bind, Except.bind, pure, Except.pure]
  refine ⟨_, hq, ?_, ?_⟩
  · have hdec := formValue_queryChars (Text.plain s).toList []
    rw [List.append_nil, percentDecode.eq_3, List.append_nil] at hdec
    rw [formValue, hdec, utf8_toList]
  · refine isFormChar_join fun t ht => ?_
    obtain ⟨c, -, rfl⟩ := List.mem_map.1 ht
    by_cases hc : c = ' '
    · subst hc
      exact isFormChar_plus
    · rw [if_neg (by simpa using hc)]
      exact isFormChar_of_quoted (quoted_quoteChar c)

theorem quoteQuery_error {s : String} (hs : ¬NoSurrogate s) : ∃ f, quoteQuery s = .error f := by
  obtain ⟨f, hf⟩ := encodable_error hs
  exact ⟨f, by simp [quoteQuery, hf, bind, Except.bind]⟩

/-- A byte of a byte-string value reads back as itself: a space through its
`+`, an unreserved ASCII character as itself, any other byte through its
escape. -/
theorem formValue_queryByte (b : UInt8) (rest : List Char) :
    percentDecode (plusToSpace (if b == 32 then "+"
        else if b.toNat < 128 && isUnreserved (Char.ofNat b.toNat) then
          String.singleton (Char.ofNat b.toNat)
        else percentByte b).toList ++ rest) = b :: percentDecode rest := by
  split_ifs with hsp hu
  · obtain rfl : b = 32 := by simpa using hsp
    exact percentDecode_cons (by decide) rest
  · obtain ⟨hlt, hu⟩ : b.toNat < 128 ∧ isUnreserved (Char.ofNat b.toNat) = true := by simpa using hu
    have hc : (Char.ofNat b.toNat).toNat = b.toNat := by
      rw [Char.toNat_ofNat, if_pos (Or.inl (by omega))]
    rw [String.toList_singleton, plusToSpace_quoted (.plain hu .nil), List.singleton_append,
      percentDecode_cons (ne_percent_of_isUnreserved hu), utf8EncodeChar_ascii (by rw [hc]; exact hlt), hc,
      UInt8.ofNat_toNat, List.singleton_append]
  · rw [plusToSpace_quoted (quoted_percentByte b), percentDecode_percentByte]

theorem formValue_queryBytes (bs : List UInt8) (rest : List Char) :
    percentDecode (plusToSpace (quoteQueryBytes bs).toList ++ rest) = bs ++ percentDecode rest := by
  unfold quoteQueryBytes
  induction bs with
  | nil => simp [plusToSpace]
  | cons b bs ih =>
    rw [List.map_cons, String.join_cons, String.toList_append, plusToSpace_append,
      List.append_assoc, formValue_queryByte, ih, List.cons_append]

theorem isFormChar_queryBytes (bs : List UInt8) :
    ∀ c ∈ (quoteQueryBytes bs).toList, isFormChar c = true := by
  refine isFormChar_join fun t ht => ?_
  obtain ⟨b, -, rfl⟩ := List.mem_map.1 ht
  split_ifs with hsp hu
  · exact isFormChar_plus
  · obtain ⟨-, hu⟩ : b.toNat < 128 ∧ isUnreserved (Char.ofNat b.toNat) = true := by simpa using hu
    rw [String.toList_singleton]
    exact isFormChar_of_quoted (.plain hu .nil)
  · exact isFormChar_of_quoted (quoted_percentByte b)

theorem queryValue_of_not_bytes {v : Value} (hv : ∀ bs, v ≠ .bytes bs) :
    queryValue v = quoteQuery v.display := by
  unfold queryValue
  split
  · next bs => exact absurd rfl (hv bs)
  · rfl

theorem queryBytes?_of_not_bytes {v : Value} (hv : ∀ bs, v ≠ .bytes bs) :
    queryBytes? v = if NoSurrogate v.display then some (Text.plain v.display).toUTF8.toList else none := by
  unfold queryBytes?
  split
  · next bs => exact absurd rfl (hv bs)
  · rfl

/-- **A query value reads back** as the bytes it stands for. -/
theorem queryValue_reads {v : Value} {bs : List UInt8} (h : queryBytes? v = some bs) :
    ∃ q, queryValue v = .ok q ∧ formValue q.toList = bs ∧ ∀ c ∈ q.toList, isFormChar c = true := by
  by_cases hv : ∃ bs', v = .bytes bs'
  · obtain ⟨bs', rfl⟩ := hv
    obtain rfl : bs' = bs := Option.some.inj h
    have hdec := formValue_queryBytes bs' []
    rw [List.append_nil, percentDecode.eq_3, List.append_nil] at hdec
    exact ⟨quoteQueryBytes bs', rfl, hdec, isFormChar_queryBytes bs'⟩
  · have hv' : ∀ bs', v ≠ .bytes bs' := fun bs' e => hv ⟨bs', e⟩
    rw [queryBytes?_of_not_bytes hv'] at h
    split_ifs at h with hs
    obtain rfl := Option.some.inj h
    rw [queryValue_of_not_bytes hv']
    exact quoteQuery_reads hs

/-- A value that stands for no bytes is refused. -/
theorem queryValue_error {v : Value} (h : queryBytes? v = none) : ∃ f, queryValue v = .error f := by
  by_cases hv : ∃ bs', v = .bytes bs'
  · obtain ⟨bs', rfl⟩ := hv
    exact absurd h (Option.some_ne_none bs')
  · have hv' : ∀ bs', v ≠ .bytes bs' := fun bs' e => hv ⟨bs', e⟩
    rw [queryBytes?_of_not_bytes hv'] at h
    split_ifs at h with hs
    rw [queryValue_of_not_bytes hv']
    exact quoteQuery_error hs

/-- A pair whose key holds no `=` splits at the `=` after its key. -/
theorem formPair_append {k : List Char} (hk : ∀ c ∈ k, isFormChar c = true) (v : List Char) :
    formPair (k ++ '=' :: v) = (formValue k, formValue v) := by
  have hne : ∀ c ∈ k, (c != '=') = true := fun c hc =>
    bne_iff_ne.2 (ne_of_isFormChar (hk c hc) (by decide))
  unfold formPair
  rw [List.takeWhile_append_of_pos hne, List.dropWhile_append_of_pos hne]
  simp

theorem mapM_pairs_reads {ps : List (String × Value)} (hk : ∀ p ∈ ps, NoSurrogate p.1)
    (hv : ∀ p ∈ ps, (queryBytes? p.2).isSome) :
    ∃ parts, (ps.mapM fun p => do return (← quoteQuery p.1) ++ "=" ++ (← queryValue p.2)) =
        .ok parts ∧
      parts.map (fun part => formPair part.toList) =
        ps.map (fun p => ((Text.plain p.1).toUTF8.toList, (queryBytes? p.2).getD [])) ∧
      ∀ part ∈ parts, '&' ∉ part.toList := by
  induction ps with
  | nil => exact ⟨[], rfl, rfl, by simp⟩
  | cons p ps ih =>
    obtain ⟨k, hkq, hkv, hkc⟩ := quoteQuery_reads (hk p List.mem_cons_self)
    obtain ⟨bs, hbs⟩ := Option.isSome_iff_exists.1 (hv p List.mem_cons_self)
    obtain ⟨v, hvq, hvv, hvc⟩ := queryValue_reads hbs
    obtain ⟨parts, hparts, hmap, hamp⟩ := ih (fun p' h' => hk p' (List.mem_cons_of_mem _ h'))
      (fun p' h' => hv p' (List.mem_cons_of_mem _ h'))
    refine ⟨(k ++ "=" ++ v) :: parts, ?_, ?_, ?_⟩
    · rw [List.mapM_cons, hparts]
      simp only [hkq, hvq, bind, Except.bind, pure, Except.pure]
    · rw [List.map_cons, List.map_cons, hmap, String.toList_append, String.toList_append,
        show ("=" : String).toList = ['='] from rfl, List.append_assoc, List.singleton_append,
        formPair_append hkc, hkv, hvv, hbs, Option.getD_some]
    · intro part hpart
      rcases List.mem_cons.1 hpart with rfl | hpart
      · simp only [String.toList_append, List.mem_append, not_or]
        exact ⟨⟨fun h => ne_of_isFormChar (hkc _ h) (by decide) rfl, by decide⟩,
          fun h => ne_of_isFormChar (hvc _ h) (by decide) rfl⟩
      · exact hamp part hpart

/-- **A query reads back.** Keys without lone surrogates and values that stand
for bytes are written so that form-decoding gives back the UTF-8 bytes of each
key's characters and the bytes of its value, pair by pair. -/
theorem query_reads {ps : List (String × Value)} (hne : ps ≠ [])
    (hk : ∀ p ∈ ps, NoSurrogate p.1) (hv : ∀ p ∈ ps, (queryBytes? p.2).isSome) :
    ∃ P, query ps = .ok P ∧
      formDecode P.toList = ps.map fun p => ((Text.plain p.1).toUTF8.toList, (queryBytes? p.2).getD []) := by
  obtain ⟨parts, hparts, hmap, hamp⟩ := mapM_pairs_reads hk hv
  have hnil : parts.map String.toList ≠ [] := by
    intro h
    rw [List.map_eq_nil_iff] at h
    subst h
    exact hne (List.map_eq_nil_iff.1 hmap.symm)
  refine ⟨"&".intercalate parts, by rw [query, hparts]; rfl, ?_⟩
  rw [formDecode, String.toList_intercalate, show ("&" : String).toList = ['&'] from rfl,
    List.splitOn_intercalate '&' (by simpa using hamp) hnil, List.map_map]
  exact hmap

/-- The query of a chart reads back as its three pairs, when the range and the
interval stand for bytes. -/
theorem chartQuery_reads {w : Settings.Watchlist} {range interval : List UInt8}
    (hr : queryBytes? w.chartRange = some range) (hi : queryBytes? w.chartInterval = some interval) :
    ∃ P, chartQuery w = .ok P ∧ formDecode P.toList =
      [("range".toUTF8.toList, range), ("interval".toUTF8.toList, interval),
        ("includePrePost".toUTF8.toList,
          (if w.includePrePost.truthy then "true" else "false").toUTF8.toList)] := by
  have hflag : queryBytes? (.str (if w.includePrePost.truthy then "true" else "false")) =
      some (if w.includePrePost.truthy then "true" else "false").toUTF8.toList := by
    rw [queryBytes?_of_not_bytes (fun _ h => Value.noConfusion h), if_pos (by split <;> decide)]
    split <;> rw [Text.plain_of_unmarked (by decide)] <;> rfl
  -- the keys are ASCII, so their characters are themselves
  have hkeys : Text.plain "range" = "range" ∧ Text.plain "interval" = "interval" ∧
      Text.plain "includePrePost" = "includePrePost" :=
    ⟨Text.plain_of_unmarked (by decide), Text.plain_of_unmarked (by decide),
      Text.plain_of_unmarked (by decide)⟩
  obtain ⟨P, hP, hdec⟩ := @query_reads
    [("range", w.chartRange), ("interval", w.chartInterval),
      ("includePrePost", .str (if w.includePrePost.truthy then "true" else "false"))]
    (by simp) (by simp only [List.mem_cons, List.not_mem_nil, or_false, forall_eq_or_imp, forall_eq]; decide)
    (by simp [hr, hi, hflag])
  exact ⟨P, hP, by rw [hdec]; simp [hr, hi, hflag, hkeys]⟩

/-- A range that stands for no bytes is refused, before any symbol is read. -/
theorem chartQuery_error_of_range {w : Settings.Watchlist} (hr : queryBytes? w.chartRange = none) :
    ∃ f, chartQuery w = .error f := by
  obtain ⟨f, hf⟩ := queryValue_error hr
  obtain ⟨k, hk, -, -⟩ := quoteQuery_reads (s := "range") (by decide)
  exact ⟨f, by simp [chartQuery, query, List.mapM_cons, hk, hf, bind, Except.bind]⟩

/-! ## The address -/

/-- What an address is made of: a text base without trailing slashes, the
segment of the symbol and the query of the watchlist. -/
theorem chartUrl_inv {feed : Settings.Feed} {w : Settings.Watchlist} {s url : String}
    (h : chartUrl feed w (.str s) = .ok url) :
    ∃ b Q P, feed.baseUrl = .str b ∧ quoteSegment s = .ok Q ∧ chartQuery w = .ok P ∧
      url = dropTrailing b '/' ++ "/" ++ Q ++ "?" ++ P := by
  unfold chartUrl at h
  cases hP : chartQuery w with
  | error f => simp [hP, bind, Except.bind] at h
  | ok P =>
    cases hQ : quoteSegment s with
    | error f => simp [hP, hQ, bind, Except.bind] at h
    | ok Q =>
      simp only [hP, hQ, bind, Except.bind] at h
      -- a base that is not a text has no trailing slashes to drop
      split at h
      · next b hb => exact ⟨b, Q, P, hb, rfl, rfl, by simpa [pure, Except.pure] using h.symm⟩
      all_goals simp [throw, throwThe, MonadExceptOf.throw] at h

theorem chartUrl_eq {feed : Settings.Feed} {w : Settings.Watchlist} {b s Q P : String}
    (hb : feed.baseUrl = .str b) (hQ : quoteSegment s = .ok Q) (hP : chartQuery w = .ok P) :
    chartUrl feed w (.str s) = .ok (dropTrailing b '/' ++ "/" ++ Q ++ "?" ++ P) := by
  simp [chartUrl, hP, hQ, hb, bind, Except.bind, pure, Except.pure]

theorem chartUrl_error_of_range {feed : Settings.Feed} {w : Settings.Watchlist}
    (hr : queryBytes? w.chartRange = none) (symbol : Value) : ∃ f, chartUrl feed w symbol = .error f := by
  obtain ⟨f, hf⟩ := chartQuery_error_of_range hr
  exact ⟨f, by simp [chartUrl, hf, bind, Except.bind]⟩

/-- The base without its trailing slashes: what is dropped is a run of the
character, and what is left does not end with it. -/
theorem dropTrailing_spec (s : String) (c : Char) :
    (∃ n, s.toList = (dropTrailing s c).toList ++ List.replicate n c) ∧
      (dropTrailing s c).toList.getLast? ≠ some c := by
  have hrun : s.toList.reverse.takeWhile (· == c) =
      List.replicate (s.toList.reverse.takeWhile (· == c)).length c :=
    List.eq_replicate_iff.2 ⟨rfl, fun d hd => by simpa using List.mem_takeWhile_imp hd⟩
  rw [dropTrailing, String.toList_ofList]
  constructor
  · refine ⟨(s.toList.reverse.takeWhile (· == c)).length, ?_⟩
    conv_lhs => rw [← List.reverse_reverse s.toList, ← List.takeWhile_append_dropWhile (p := (· == c)) (l := s.toList.reverse)]
    rw [List.reverse_append, hrun, List.reverse_replicate, List.length_replicate]
  · rw [List.getLast?_reverse]
    intro h
    have hhead := List.head?_dropWhile_not (· == c) s.toList.reverse
    rw [h] at hhead
    simp at hhead

/-- A query after the first `?`: with no `?` before it, the text splits there. -/
theorem split_at_query {Q : List Char} (hQ : '?' ∉ Q) (P : List Char) :
    (Q ++ '?' :: P).takeWhile (· != '?') = Q ∧ (Q ++ '?' :: P).dropWhile (· != '?') = '?' :: P := by
  have hne : ∀ c ∈ Q, (c != '?') = true := fun c hc =>
    bne_iff_ne.2 fun e => hQ (e ▸ hc)
  rw [List.takeWhile_append_of_pos hne, List.dropWhile_append_of_pos hne]
  simp

theorem address_toList (B Q P : String) :
    (B ++ "/" ++ Q ++ "?" ++ P).toList = (B.toList ++ ['/'] ++ Q.toList) ++ '?' :: P.toList := by
  simp only [String.toList_append, List.append_assoc]
  rfl

/-- **An address names one symbol.** -/
theorem chartUrl_injective {feed : Settings.Feed} {w : Settings.Watchlist} {s s' url : String}
    (h : chartUrl feed w (.str s) = .ok url) (h' : chartUrl feed w (.str s') = .ok url) : s = s' := by
  obtain ⟨b, Q, P, hb, hQ, hP, rfl⟩ := chartUrl_inv h
  obtain ⟨b', Q', P', hb', hQ', hP', heq⟩ := chartUrl_inv h'
  obtain rfl : b = b' := Value.str.inj (hb.symm.trans hb')
  obtain rfl : P = P' := Except.ok.inj (hP.symm.trans hP')
  have hq := (quoteSegment_reads hQ).1.not_mem (d := '?') (by decide) (by decide)
  have hq' := (quoteSegment_reads hQ').1.not_mem (d := '?') (by decide) (by decide)
  -- after the common base, the segments run up to the first `?`
  have hsame := congrArg (fun u : String => u.toList) heq
  simp only [address_toList, List.append_assoc, List.append_cancel_left_eq] at hsame
  have hQQ : Q.toList = Q'.toList := by
    rw [← (split_at_query hq P.toList).1, ← (split_at_query hq' P.toList).1, hsame]
  rw [String.toList_inj.1 hQQ] at hQ
  exact quoteSegment_injective hQ hQ'

/-! ## The law of chart addresses -/

/-- **The address of a chart reads back.** For a text base without `?` and a
range and an interval that stand for bytes: the base loses exactly its
trailing slashes; the query, which depends on the watchlist only, form-decodes
to the range, the interval and the flag for the hours around the session, in
that order; every symbol without lone surrogates gets the address
`base/SEGMENT?QUERY`, whose segment depends on the symbol only, is quoted and
percent-decodes to the UTF-8 bytes of the symbol's characters, so that
everything from the first `?` on is the query; and an address names one
symbol. -/
theorem chartUrl_reads_back {feed : Settings.Feed} {w : Settings.Watchlist} {b : String}
    {range interval : List UInt8} (hb : feed.baseUrl = .str b) (hq : '?' ∉ b.toList)
    (hr : queryBytes? w.chartRange = some range)
    (hi : queryBytes? w.chartInterval = some interval) :
    ((∃ n, b.toList = (dropTrailing b '/').toList ++ List.replicate n '/') ∧
      (dropTrailing b '/').toList.getLast? ≠ some '/') ∧
    (∃ P, chartQuery w = .ok P ∧
      formDecode P.toList =
        [("range".toUTF8.toList, range), ("interval".toUTF8.toList, interval),
          ("includePrePost".toUTF8.toList,
            (if w.includePrePost.truthy then "true" else "false").toUTF8.toList)] ∧
      ∀ s, NoSurrogate s → ∃ Q, quoteSegment s = .ok Q ∧ Quoted Q.toList ∧
        percentDecode Q.toList = (Text.plain s).toUTF8.toList ∧
        chartUrl feed w (.str s) = .ok (dropTrailing b '/' ++ "/" ++ Q ++ "?" ++ P) ∧
        (dropTrailing b '/' ++ "/" ++ Q ++ "?" ++ P).toList.dropWhile (· != '?') =
          '?' :: P.toList) ∧
    ∀ s s' url, chartUrl feed w (.str s) = .ok url → chartUrl feed w (.str s') = .ok url →
      s = s' := by
  obtain ⟨P, hP, hdec⟩ := chartQuery_reads hr hi
  refine ⟨dropTrailing_spec b '/', ⟨P, hP, hdec, fun s hs => ?_⟩,
    fun s s' url h h' => chartUrl_injective h h'⟩
  have hQ := quoteSegment_of_noSurrogate hs
  obtain ⟨hquoted, hread⟩ := quoteSegment_reads hQ
  refine ⟨_, hQ, hquoted, hread, chartUrl_eq hb hQ hP, ?_⟩
  -- no `?` in the base, none in the segment: the first one opens the query
  obtain ⟨⟨n, hn⟩, -⟩ := dropTrailing_spec b '/'
  have hbase : '?' ∉ (dropTrailing b '/').toList := fun hm =>
    hq (hn ▸ List.mem_append_left _ hm)
  have hpre : '?' ∉ (dropTrailing b '/').toList ++ ['/'] ++
      (String.join ((Text.plain s).toList.map quoteChar)).toList := by
    simp only [List.mem_append, List.mem_singleton, not_or]
    exact ⟨⟨hbase, by decide⟩, hquoted.not_mem (by decide) (by decide)⟩
  rw [address_toList]
  exact (split_at_query hpre P.toList).2

/-- A watchlist that asks for five-minute bars by a byte string. -/
def byteIntervalWatchlist : Settings.Watchlist :=
  { Settings.Watchlist.standard with chartInterval := .bytes [53, 109] }

theorem byte_interval_reads_back :
    Settings.Feed.standard.baseUrl = .str "https://query1.finance.yahoo.com/v8/finance/chart" ∧
    '?' ∉ "https://query1.finance.yahoo.com/v8/finance/chart".toList ∧
    queryBytes? byteIntervalWatchlist.chartRange = some "1y".toUTF8.toList ∧
    queryBytes? byteIntervalWatchlist.chartInterval = some [53, 109] ∧
    ((∃ n, "https://query1.finance.yahoo.com/v8/finance/chart".toList =
        (dropTrailing "https://query1.finance.yahoo.com/v8/finance/chart" '/').toList ++
          List.replicate n '/') ∧
      (dropTrailing "https://query1.finance.yahoo.com/v8/finance/chart" '/').toList.getLast? ≠
        some '/') ∧
    (∃ P, chartQuery byteIntervalWatchlist = .ok P ∧
      formDecode P.toList =
        [("range".toUTF8.toList, "1y".toUTF8.toList), ("interval".toUTF8.toList, [53, 109]),
          ("includePrePost".toUTF8.toList,
            (if byteIntervalWatchlist.includePrePost.truthy then "true" else "false").toUTF8.toList)] ∧
      ∀ s, NoSurrogate s → ∃ Q, quoteSegment s = .ok Q ∧ Quoted Q.toList ∧
        percentDecode Q.toList = (Text.plain s).toUTF8.toList ∧
        chartUrl Settings.Feed.standard byteIntervalWatchlist (.str s) =
          .ok (dropTrailing "https://query1.finance.yahoo.com/v8/finance/chart" '/' ++ "/" ++ Q ++
            "?" ++ P) ∧
        (dropTrailing "https://query1.finance.yahoo.com/v8/finance/chart" '/' ++ "/" ++ Q ++ "?" ++
          P).toList.dropWhile (· != '?') = '?' :: P.toList) ∧
    ∀ s s' url, chartUrl Settings.Feed.standard byteIntervalWatchlist (.str s) = .ok url →
      chartUrl Settings.Feed.standard byteIntervalWatchlist (.str s') = .ok url → s = s' := by
  have hrange : queryBytes? byteIntervalWatchlist.chartRange = some "1y".toUTF8.toList := by
    have hs : NoSurrogate "1y" := by decide
    rw [queryBytes?_of_not_bytes (fun _ h => Value.noConfusion h)]
    exact if_pos hs
  have hq : '?' ∉ "https://query1.finance.yahoo.com/v8/finance/chart".toList := by simp
  exact ⟨rfl, hq, hrange, rfl, chartUrl_reads_back rfl hq hrange rfl⟩

/-- A range holding a lone surrogate has no UTF-8 form: the watchlist gives no
symbol an address. -/
theorem chartUrl_surrogate_range :
    ∃ f, chartUrl Settings.Feed.standard
      { Settings.Watchlist.standard with
        chartRange := .str (String.ofList (Text.keepPoint 0xD800)) } (.str "A") = .error f := by
  refine chartUrl_error_of_range ?_ _
  have hs : ¬NoSurrogate (String.ofList (Text.keepPoint 0xD800)) := by decide
  rw [queryBytes?_of_not_bytes (fun _ h => Value.noConfusion h)]
  exact if_neg hs

end QuoteMomentum.Feed
