import Offload.Floating.Rounding

/-!
The shortest decimal that reads back as a given number.

The reals that round to `m · 2 ^ q` form an interval, closed when `m` is even. The shortest
decimal lies on the coarsest grid of multiples of a power of ten that meets the interval; on
that grid the point nearest to the number is taken.
-/

namespace Offload.Floating

/-- Where a number goes that lies halfway between two grid points that both read back. -/
inductive Tie
  | up
  | even
  deriving DecidableEq, Repr

/-- The number and the two ends of its interval, as natural numbers over one unit. -/
structure Interval where
  low : Nat
  value : Nat
  high : Nat
  closed : Bool

variable (f : Format)

/-- The interval of `m · 2 ^ q` in units of `2 ^ (q - 2)`. -/
def interval (m : Nat) (q : Int) : Interval where
  low := if m = f.fractionSize ∧ f.lowestExponent < q then 4 * m - 1 else 4 * m - 2
  value := 4 * m
  high := 4 * m + 2
  closed := m % 2 = 0

/-- Whether the grid point `c`, worth `c * step`, lies in the interval, whose ends are worth
`scale` a unit. -/
def Interval.holds (i : Interval) (scale step c : Nat) : Bool :=
  if i.closed then i.low * scale ≤ c * step && c * step ≤ i.high * scale
  else i.low * scale < c * step && c * step < i.high * scale

/-- The best point of the grid of step `10 ^ k`, if one reads back. -/
def gridPoint? (tie : Tie) (i : Interval) (q k : Int) : Option Nat :=
  let scale := twoTo (q - 2).toNat * tenTo (-k).toNat
  let step := tenTo k.toNat * twoTo (2 - q).toNat
  let below := i.value * scale / step
  let lower := i.holds scale step below
  let upper := i.holds scale step (below + 1)
  match lower, upper with
  | false, false => none
  | true, false => some below
  | false, true => some (below + 1)
  | true, true =>
    let twice := 2 * (i.value * scale - below * step)
    if twice < step then some below
    else if step < twice then some (below + 1)
    else match tie with
      | .up => some (below + 1)
      | .even => some (below + below % 2)

/-- Searches the grids from `10 ^ k` downward. -/
def searchGrids (tie : Tie) (i : Interval) (q : Int) : Nat → Int → Nat × Int
  | 0, k => (0, k)
  | fuel + 1, k =>
    match gridPoint? tie i q k with
    | some c => (c, k)
    | none => searchGrids tie i q fuel (k - 1)

/-- `(c, k)` with `c · 10 ^ k` the shortest decimal of `m · 2 ^ q`, for positive `m`. -/
def shortest (tie : Tie) (m : Nat) (q : Int) : Nat × Int :=
  let bits : Int := bitLength m + q
  -- `10 ^ k` exceeds the number; every interval is met within the digits of a significand
  searchGrids tie (interval f m q) q (f.precision + 2) (bits * 30103 / 100000 + 1)

end Offload.Floating
