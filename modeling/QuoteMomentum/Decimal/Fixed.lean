import QuoteMomentum.Decimal.Binary

/-!
# Doubles at a fixed number of places

A double shown with `p` places is its exact binary value times `10^p`, rounded
to the nearest whole number, a tie going to the even neighbour, and written
with a point before the last `p` digits. Because the rounding is of the exact
value, `2.675` (stored just below) shows as `2.67` and `0.125` as `0.12`.
-/

namespace QuoteMomentum.Decimal

/-- `num / den` rounded to the nearest natural number, a tie to the even one. -/
def roundHalfEven (num den : Nat) : Nat :=
  let q := num / den
  let r := num % den
  if den < 2 * r then q + 1
  else if 2 * r = den ∧ q % 2 = 1 then q + 1
  else q

/-- The magnitude of a finite double times `10^places`, rounded half to even. -/
def Binary.scaled (b : Binary) (places : Nat) : Nat :=
  roundHalfEven (b.sig * Nat.pow 2 b.exp.toNat * Nat.pow 10 places) (Nat.pow 2 (-b.exp).toNat)

/-- The digits of `n` with a point before the last `places` of them, padded with
leading zeros so that one digit stands before the point. -/
def pointText (n : Nat) (places : Nat) : String :=
  let ds := (toString n).toList
  let ds := List.replicate (places + 1 - ds.length) '0' ++ ds
  if places = 0 then String.ofList ds
  else String.ofList (ds.take (ds.length - places)) ++ "." ++ String.ofList (ds.drop (ds.length - places))

end QuoteMomentum.Decimal
