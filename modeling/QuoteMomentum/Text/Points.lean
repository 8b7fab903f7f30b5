/-!
# Texts as code points

A text of the program is a sequence of code points, and a lone surrogate
(`U+D800` to `U+DFFF`) may stand among them: a JSON escape, a document escape
or a decoder that lets surrogates through can make one, though no encoding can
write it. A character is never a surrogate, so a text is *kept* as characters
in which one character, the mark `U+10FFFF`, opens a pair:

* the surrogate `n` is kept as the mark and the character `n - 0xD800` places
  after `U+10F800` (`surrogateChar`);
* the code point `U+10FFFF` is kept as the mark and `U+10F7FF`;
* every other code point is kept as its own character.

`points` reads a kept text back as its code points. A text without the mark is
its own characters (`points_of_unmarked`), and a kept text whose code points
hold no surrogate is the kept form of them (`keepPoints_points`): such texts
are told apart by their code points, or by the characters those are
(`keep_plain`). A mark that opens no pair (at the end, or before a character
below `U+10F7FF`) reads as a surrogate; nothing writes one, and reading it so
keeps the last law true of every text.

Texts come into the program kept (`keep`) and leave it as their characters
(`plain`), where a surrogate, which no character is, becomes `U+FFFD`.
Widths count kept characters, so a text holding a surrogate or `U+10FFFF`
counts one more for each.
-/

namespace QuoteMomentum.Text

/-- The character that opens a pair. -/
def mark : Char := Char.ofNat 0x10FFFF

/-- The character after the mark that stands for the mark's own code point. -/
def markSelf : Char := Char.ofNat 0x10F7FF

/-- The first character after the mark that stands for a surrogate. -/
def surrogateBase : Nat := 0x10F800

/-- Whether a code point is a surrogate. -/
def isSurrogate (n : Nat) : Bool := 0xD800 ≤ n && n ≤ 0xDFFF

/-- The character after the mark that stands for the surrogate `n`. -/
def surrogateChar (n : Nat) : Char := Char.ofNat (surrogateBase + (n - 0xD800))

/-- The surrogate that the mark followed by `c` stands for, if `c` stands for
one. -/
def surrogateOf? (c : Char) : Option Nat :=
  if surrogateBase ≤ c.toNat then some (c.toNat - surrogateBase + 0xD800) else none

/-- The kept form of a code point. -/
def keepPoint (n : Nat) : List Char :=
  if isSurrogate n then [mark, surrogateChar n]
  else if n = mark.toNat then [mark, markSelf]
  else [Char.ofNat n]

/-- The kept form of a list of code points. -/
def keepPoints (ns : List Nat) : List Char := ns.flatMap keepPoint

/-- The code points of a kept text. -/
def points : List Char → List Nat
  | [] => []
  | [c] => if c = mark then [0xDFFF] else [c.toNat]
  | c :: d :: rest =>
    if c = mark then
      (if d = markSelf then mark.toNat else (surrogateOf? d).getD 0xDFFF) :: points rest
    else c.toNat :: points (d :: rest)

/-- A text from outside the program, kept. -/
def keep (s : String) : String := String.ofList (keepPoints (s.toList.map Char.toNat))

/-- The character of a code point as the program writes it out: a surrogate
becomes `U+FFFD`. -/
def plainChar (n : Nat) : Char := if isSurrogate n then '\uFFFD' else Char.ofNat n

/-- A kept text as the characters of its code points. -/
def plain (s : String) : String := String.ofList ((points s.toList).map plainChar)

/-- Whether a kept text holds a lone surrogate, which UTF-8 cannot encode. -/
def hasSurrogate (s : String) : Bool := (points s.toList).any isSurrogate

/-! ## Reading kept texts back -/

@[simp] theorem points_nil : points [] = [] := rfl

theorem points_cons_of_ne {c : Char} (hc : c ≠ mark) (cs : List Char) :
    points (c :: cs) = c.toNat :: points cs := by
  cases cs with
  | nil => simp [points, hc]
  | cons d rest => simp [points, hc]

theorem points_mark_cons (d : Char) (rest : List Char) :
    points (mark :: d :: rest) =
      (if d = markSelf then mark.toNat else (surrogateOf? d).getD 0xDFFF) :: points rest := by
  simp [points]

/-- A text without the mark is its own characters. -/
theorem points_of_unmarked {cs : List Char} (h : mark ∉ cs) : points cs = cs.map Char.toNat := by
  induction cs with
  | nil => rfl
  | cons c cs ih =>
    have hc : c ≠ mark := fun hc => h (hc ▸ List.mem_cons_self)
    rw [points_cons_of_ne hc, ih (fun hm => h (List.mem_cons_of_mem _ hm)), List.map_cons]

/-- A character is a code point that is no surrogate. -/
theorem toNat_valid (c : Char) : c.toNat < 0xD800 ∨ (0xDFFF < c.toNat ∧ c.toNat < 0x110000) :=
  c.valid

theorem isSurrogate_toNat (c : Char) : isSurrogate c.toNat = false := by
  have := toNat_valid c
  simp only [isSurrogate, Bool.and_eq_false_iff, decide_eq_false_iff_not]
  omega

theorem isSurrogate_surrogateOf? {d : Char} {n : Nat} (h : surrogateOf? d = some n) :
    isSurrogate n = true := by
  have hd := toNat_valid d
  unfold surrogateOf? at h
  by_cases hb : surrogateBase ≤ d.toNat
  · rw [if_pos hb] at h
    cases h
    have hbase : surrogateBase = 0x10F800 := rfl
    simp only [isSurrogate, Bool.and_eq_true, decide_eq_true_eq]
    omega
  · rw [if_neg hb] at h
    cases h

/-- Every code point of a kept text is one: none lies past `U+10FFFF`. -/
theorem le_of_mem_points {cs : List Char} {n : Nat} (h : n ∈ points cs) : n ≤ 0x10FFFF := by
  induction cs using points.induct with
  | case1 => simp at h
  | case2 => simp [points] at h; omega
  | case3 c hc =>
    simp only [points, hc, if_false, List.mem_singleton] at h
    have := toNat_valid c
    omega
  | case4 d rest ih =>
    rw [points_mark_cons] at h
    rcases List.mem_cons.1 h with rfl | h
    · split
      · decide
      · cases hs : surrogateOf? d with
        | none => decide
        | some k =>
          have := isSurrogate_surrogateOf? hs
          simp only [isSurrogate, Bool.and_eq_true, decide_eq_true_eq] at this
          simp only [Option.getD_some]
          omega
    · exact ih h
  | case5 c d rest hc ih =>
    rw [points_cons_of_ne hc] at h
    rcases List.mem_cons.1 h with rfl | h
    · have := toNat_valid c
      omega
    · exact ih h

/-! ## Kept forms -/

theorem keepPoint_of_char {c : Char} (hc : c ≠ mark) : keepPoint c.toNat = [c] := by
  have hm : c.toNat ≠ mark.toNat := fun h => hc (Char.toNat_inj.1 h)
  simp [keepPoint, isSurrogate_toNat, hm]

/-- **A kept text without lone surrogates is the kept form of its code points.**
The pairs are read back as the code points they stand for, and a mark that
opens no pair reads as a surrogate, which the hypothesis rules out. -/
theorem keepPoints_points {cs : List Char} (h : ∀ n ∈ points cs, isSurrogate n = false) :
    keepPoints (points cs) = cs := by
  induction cs using points.induct with
  | case1 => rfl
  | case2 => exact absurd (h 0xDFFF (by simp [points])) (by decide)
  | case3 c hc => simp [points, hc, keepPoints, keepPoint_of_char hc]
  | case4 d rest ih =>
    rw [points_mark_cons] at h ⊢
    have hrest := ih fun n hn => h n (List.mem_cons_of_mem _ hn)
    by_cases hd : d = markSelf
    · subst hd
      have hself : keepPoint mark.toNat = [mark, markSelf] := by decide
      simp only [if_true, keepPoints, List.flatMap_cons, hself] at hrest ⊢
      rw [hrest]
      rfl
    · -- the mark before any other character stands for a surrogate
      have hhead := h _ List.mem_cons_self
      rw [if_neg hd] at hhead
      cases hs : surrogateOf? d with
      | none => simp [hs, isSurrogate] at hhead
      | some k => simp [hs, isSurrogate_surrogateOf? hs] at hhead
  | case5 c d rest hc ih =>
    rw [points_cons_of_ne hc] at h ⊢
    have hrest := ih fun n hn => h n (List.mem_cons_of_mem _ hn)
    simp only [keepPoints, List.flatMap_cons, keepPoint_of_char hc] at hrest ⊢
    rw [hrest]
    rfl

/-- A valid code point is the code point of its character. -/
theorem toNat_ofNat_of_isValidChar {n : Nat} (hv : n.isValidChar) : (Char.ofNat n).toNat = n := by
  have hlt : n < UInt32.size := by
    have hsize : UInt32.size = 4294967296 := rfl
    simp only [Nat.isValidChar] at hv
    omega
  let c : Char := ⟨UInt32.ofNatLT n hlt, hv⟩
  have hc : c.toNat = n := Char.toNat_mk.trans UInt32.toNat_ofNatLT
  rw [← hc, Char.ofNat_toNat]

theorem plainChar_toNat {n : Nat} (hn : n ≤ 0x10FFFF) (hs : isSurrogate n = false) :
    (plainChar n).toNat = n := by
  have hv : n.isValidChar := by
    simp only [isSurrogate, Bool.and_eq_false_iff, decide_eq_false_iff_not] at hs
    simp only [Nat.isValidChar]
    omega
  simp only [plainChar, hs, Bool.false_eq_true, if_false]
  exact toNat_ofNat_of_isValidChar hv

/-- **A kept text without lone surrogates is the kept form of its characters.**
So two such texts whose characters agree are one text. -/
theorem keep_plain {s : String} (h : hasSurrogate s = false) : keep (plain s) = s := by
  have hs : ∀ n ∈ points s.toList, isSurrogate n = false := by
    simpa [hasSurrogate] using h
  have hmap : ((points s.toList).map plainChar).map Char.toNat = points s.toList := by
    rw [List.map_map]
    calc (points s.toList).map (Char.toNat ∘ plainChar) = (points s.toList).map id :=
          List.map_congr_left fun n hn => plainChar_toNat (le_of_mem_points hn) (hs n hn)
      _ = points s.toList := List.map_id _
  rw [keep, plain, String.toList_ofList, hmap, keepPoints_points hs, String.ofList_toList]

/-- A text without the mark is written out as itself. -/
theorem plain_of_unmarked {s : String} (h : mark ∉ s.toList) : plain s = s := by
  have hchar : ∀ c : Char, (plainChar ∘ Char.toNat) c = c := fun c => by
    simp [plainChar, isSurrogate_toNat]
  rw [plain, points_of_unmarked h, List.map_map, List.map_id'' hchar, String.ofList_toList]

/-- Two kept texts without lone surrogates with the same characters are equal. -/
theorem eq_of_plain_eq {s t : String} (hs : hasSurrogate s = false) (ht : hasSurrogate t = false)
    (h : plain s = plain t) : s = t := by
  rw [← keep_plain hs, ← keep_plain ht, h]

/-! An ASCII symbol is kept as itself. -/

example : points "GC=F".toList = "GC=F".toList.map Char.toNat ∧ hasSurrogate "GC=F" = false := by
  decide

end QuoteMomentum.Text
