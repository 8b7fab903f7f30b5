import QuoteMomentum.Decimal.Shortest
import QuoteMomentum.Decimal.Fixed

/-!
# How doubles are written

Two notations. The *short* one writes the shortest digits that read back
(`Binary.shortest`): positionally when the decimal exponent lies in
`[-4, 15]`, always with a point and at least one digit after it (`1.0`,
`0.0001`, `1e+16` is the first exponent form), and otherwise as a mantissa
and an exponent of at least two digits with its sign (`1e-05`, `1.5e+300`).
The *fixed* one writes a given number of places (`Decimal.Fixed`).

NaN is `nan` and never carries a sign; infinities are `inf` and `-inf`. The
zero of negative sign is `-0.0`.
-/

namespace QuoteMomentum.Decimal

/-- The choices that fix the short notation. -/
structure Notation where
  /-- Least decimal exponent written positionally. -/
  lowest : Int
  /-- Greatest decimal exponent written positionally. -/
  highest : Int
  /-- Least number of digits in a written exponent. -/
  expDigits : Nat

/-- Positional from `1e-4` up to below `1e16`; exponents of two or more digits. -/
def Notation.standard : Notation := ⟨-4, 15, 2⟩

/-- `n` zeros. -/
def zeros (n : Nat) : String := String.ofList (List.replicate n '0')

/-- The text of the decimal `s` under notation `nt`, without sign. -/
def Notation.body (nt : Notation) (s : Sci) : String :=
  let ds := (toString s.digits).toList
  let n := ds.length
  let e : Int := s.exp + n - 1
  if nt.lowest ≤ e ∧ e ≤ nt.highest then
    if 0 ≤ s.exp then String.ofList ds ++ zeros s.exp.toNat ++ ".0"
    else if 0 ≤ e then
      String.ofList (ds.take (e + 1).toNat) ++ "." ++ String.ofList (ds.drop (e + 1).toNat)
    else "0." ++ zeros (-e - 1).toNat ++ String.ofList ds
  else
    let mant := if n = 1 then String.ofList ds
      else String.ofList (ds.take 1) ++ "." ++ String.ofList (ds.drop 1)
    let ex := toString e.natAbs
    mant ++ "e" ++ (if e < 0 then "-" else "+") ++ zeros (nt.expDigits - ex.length) ++ ex

/-- The short text of a double: the fewest digits that read back. -/
def shortText (x : Float) : String :=
  match Kind.ofFloat x with
  | .nan => "nan"
  | .inf neg => if neg then "-inf" else "inf"
  | .finite b => (if b.neg then "-" else "") ++ Notation.standard.body b.shortest

/-- A double with `places` digits after the point; `plus` asks for a sign on a
value that is not negative. The sign of zero is kept, so `-0.0` shows as
`-0.00`; NaN has no sign of its own. -/
def fixedText (x : Float) (places : Nat) (plus : Bool) : String :=
  let mark (neg : Bool) : String := if neg then "-" else if plus then "+" else ""
  match Kind.ofFloat x with
  | .nan => mark false ++ "nan"
  | .inf neg => mark neg ++ "inf"
  | .finite b => mark b.neg ++ pointText (b.scaled places) places

/-! The ends of the positional range, and places rounded on the double's exact
value: `0.125` and `0.375` are ties and go to the even digit, `2.675` lies
below its tie. -/

example : shortText 0.0001 = "0.0001" ∧ shortText 0.00001 = "1e-05" := by decide +kernel

example : shortText 1e15 = "1000000000000000.0" ∧ shortText 1e16 = "1e+16" := by decide +kernel

example : shortText (0.1 + 0.2) = "0.30000000000000004" := by decide +kernel

example : fixedText 0.125 2 true = "+0.12" ∧ fixedText 0.375 2 false = "0.38" := by decide +kernel

example : fixedText 2.675 2 false = "2.67" ∧ fixedText (-0.0) 2 false = "-0.00" := by decide +kernel

end QuoteMomentum.Decimal
