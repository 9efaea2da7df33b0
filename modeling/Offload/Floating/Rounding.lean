import Offload.Floating.Format

/-!
The bit pattern nearest to a quotient of natural numbers; a tie goes to the even pattern.

The quotient is scaled by a power of two so that its whole part fills the significand, or
stops at the format's lowest exponent; what the division leaves decides the last place.
-/

namespace Offload.Floating

/-- Nearest natural number to `num / den`, a half going to the even one. -/
def roundQuotient (num den : Nat) : Nat :=
  let whole := num / den
  let rest := 2 * (num % den)
  if rest < den then whole
  else if den < rest then whole + 1
  else whole + whole % 2

/-- The number of binary digits of a natural number. -/
def bitLength (n : Nat) : Nat := if n = 0 then 0 else n.log2 + 1

variable (f : Format)

/-- The exponent at which `num / den` has a whole part of `precision` binary digits. -/
def quotientExponent (num den : Nat) : Int :=
  let q : Int := (bitLength num : Int) - bitLength den - f.precision
  -- the estimate is exact or one too low
  let tooLow :=
    if 0 ≤ q then den * twoTo (q.toNat + f.precision) ≤ num
    else den * twoTo f.precision ≤ num * twoTo (-q).toNat
  max (if tooLow then q + 1 else q) f.lowestExponent

/-- Magnitude bits of the number nearest to `num / den`. -/
def nearest (num den : Nat) : Nat :=
  if num = 0 then 0
  else
    let q := quotientExponent f num den
    let m :=
      if 0 ≤ q then roundQuotient num (den * twoTo q.toNat)
      else roundQuotient (num * twoTo (-q).toNat) den
    -- a significand that rounds up to the next power of two carries into the exponent field
    let bits := (q - f.lowestExponent).toNat * f.fractionSize + m
    min bits f.infinity

/-- Magnitude bits of the number nearest to `m · 2 ^ q`. -/
def nearestScaled (m : Nat) (q : Int) : Nat :=
  if 0 ≤ q then nearest f (m * twoTo q.toNat) 1 else nearest f m (twoTo (-q).toNat)

end Offload.Floating
