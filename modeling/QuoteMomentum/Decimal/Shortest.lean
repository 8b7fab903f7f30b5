import QuoteMomentum.Decimal.Binary

/-!
# Shortest decimal digits of a double

The reals that round to a finite double `m · 2^e` form an interval around it;
its ends are the midpoints to the neighbouring doubles, and they belong to it
exactly when `m` is even, since a tie rounds to the even significand. The
digits chosen for the double are those of the decimal with the fewest
significant digits inside that interval; among those, the one nearest the
double, and of two equally near, the one with an even last digit.

The search tries grids `10^k` from coarse to fine. On each grid only the two
neighbours of the double can be nearest, and if any point of the grid lies in
the interval, so does one of them (the interval is convex and holds the
double). Seventeen significant digits always suffice.
-/

namespace QuoteMomentum.Decimal

/-- The decimal `digits · 10^exp`. -/
structure Sci where
  digits : Nat
  exp : Int
  deriving Repr, DecidableEq

/-- Drops trailing zeros of the digits into the exponent; the value is unchanged. -/
def Sci.trim (d : Nat) (k : Int) : Sci :=
  if h : d ≠ 0 ∧ d % 10 = 0 then Sci.trim (d / 10) (k + 1) else ⟨d, k⟩
termination_by d
decreasing_by omega

namespace Binary

/-- The lower end of the rounding interval, in units of `2^(exp-2)`. -/
def lowEnd (b : Binary) : Nat := if b.edge then 4 * b.sig - 1 else 4 * b.sig - 2

/-- The upper end of the rounding interval, in units of `2^(exp-2)`. -/
def highEnd (b : Binary) : Nat := 4 * b.sig + 2

/-- The ends belong to the interval when the significand is even. -/
def closed (b : Binary) : Bool := b.sig % 2 == 0

/-- Whether `c · 10^k` reads back as the double: it lies in the rounding interval. -/
def readsBack (b : Binary) (c : Nat) (k : Int) : Bool :=
  let lo := cmpPow c k b.lowEnd (b.exp - 2)
  let hi := cmpPow c k b.highEnd (b.exp - 2)
  if b.closed then lo != .lt && hi != .gt else lo == .gt && hi == .lt

/-- The magnitude divided by `10^k`, rounded down. -/
def floorAt (b : Binary) (k : Int) : Nat :=
  b.sig * Nat.pow 2 b.exp.toNat * Nat.pow 10 (-k).toNat /
    (Nat.pow 2 (-b.exp).toNat * Nat.pow 10 k.toNat)

/-- Moves a guess of the decimal exponent until `10^g ≤ value < 10^(g+1)`. -/
def settleExp (b : Binary) : Nat → Int → Int
  | 0, g => g
  | fuel + 1, g =>
    if cmpPow 1 g b.sig b.exp == .gt then settleExp b fuel (g - 1)
    else if cmpPow 1 (g + 1) b.sig b.exp != .gt then settleExp b fuel (g + 1)
    else g

/-- The decimal exponent of a nonzero magnitude: `10^E ≤ value < 10^(E+1)`. It
starts from the binary exponent times `log10 2`, which is off by at most two. -/
def decExp (b : Binary) : Int :=
  b.settleExp 4 ((((Nat.log2 b.sig : Nat) : Int) + b.exp) * 30103 / 100000)

/-- The significand on grid `10^k` that reads back, if either neighbour of the
magnitude does: the nearer one, and of two equally near the even one. -/
def onGrid (b : Binary) (k : Int) : Option Nat :=
  let c := b.floorAt k
  match b.readsBack c k, b.readsBack (c + 1) k with
  | true, true =>
    match cmpPow (2 * c + 1) k b.sig (b.exp + 1) with
    | .gt => some c
    | .lt => some (c + 1)
    | .eq => some (if c % 2 == 0 then c else c + 1)
  | true, false => some c
  | false, true => some (c + 1)
  | false, false => none

/-- The shortest decimal that reads back as the magnitude of the double. -/
def shortest (b : Binary) : Sci :=
  if b.sig = 0 then ⟨0, 0⟩
  else
    let e := b.decExp
    match (List.range 17).findSome? (fun (i : Nat) => (b.onGrid (e - i)).map (fun c => (c, e - i))) with
    | some (c, k) => Sci.trim c k
    | none => Sci.trim (b.floorAt (e - 16)) (e - 16)

end Binary

end QuoteMomentum.Decimal
