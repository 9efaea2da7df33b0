/-!
Binary floating-point numbers as bit patterns.

A pattern is a sign, a biased exponent and a fraction. A finite number is read as `m · 2 ^ q`
with `m` a natural number below `2 ^ precision` and `q` at least the format's lowest exponent.
-/

namespace Offload.Floating

/-- A power of two. -/
def twoTo (n : Nat) : Nat := 1 <<< n

/-- A power of ten. -/
def tenTo (n : Nat) : Nat := Nat.pow 10 n

/-- Bits of the significand (the hidden one included) and of the exponent field. -/
structure Format where
  precision : Nat
  exponentBits : Nat
  deriving DecidableEq, Repr

namespace Format

def single : Format := ⟨24, 8⟩

def double : Format := ⟨53, 11⟩

variable (f : Format)

def fractionSize : Nat := twoTo (f.precision - 1)

/-- The exponent field of infinities and of patterns that are no number. -/
def topExponent : Nat := twoTo f.exponentBits - 1

/-- The exponent of the last place of the smallest numbers. -/
def lowestExponent : Int := 3 - twoTo (f.exponentBits - 1) - f.precision

def signBit : Nat := f.fractionSize * twoTo f.exponentBits

def infinity : Nat := f.topExponent * f.fractionSize

def quietNaN : Nat := f.infinity + f.fractionSize / 2

end Format

inductive Datum
  | nan
  | infinite (negative : Bool)
  | finite (negative : Bool) (m : Nat) (q : Int)
  deriving DecidableEq, Repr

variable (f : Format)

def isNegative (bits : Nat) : Bool := f.signBit ≤ bits

def read (bits : Nat) : Datum :=
  let fraction := bits % f.fractionSize
  let exponent := bits / f.fractionSize % twoTo f.exponentBits
  if exponent = f.topExponent then
    if fraction = 0 then .infinite (isNegative f bits) else .nan
  else if exponent = 0 then
    .finite (isNegative f bits) fraction f.lowestExponent
  else
    .finite (isNegative f bits) (f.fractionSize + fraction)
      (f.lowestExponent + (exponent - 1 : Nat))

/-- Equality of numbers: nothing equals a pattern that is no number, and the two zeros agree. -/
def sameNumber (a b : Nat) : Bool :=
  match read f a, read f b with
  | .nan, _ | _, .nan => false
  | .finite _ 0 _, .finite _ 0 _ => true
  | x, y => x = y

def withSign (negative : Bool) (magnitude : Nat) : Nat :=
  if negative then f.signBit + magnitude else magnitude

end Offload.Floating
