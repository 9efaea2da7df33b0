import Offload.Floating.Rounding

/-!
Reading a decimal number as the nearest binary one.

A number is a sign, digits with at most one point among or around them, and an exponent. The
words for infinity and for no number are read in any case.
-/

namespace Offload.Floating

inductive ReadFault
  | empty
  | invalid
  deriving DecidableEq, Repr

def ReadFault.message : ReadFault → String
  | .empty => "cannot parse float from empty string"
  | .invalid => "invalid float literal"

/-- The number `digits · 10 ^ exponent`, its digits without leading zeros. -/
structure Decimal where
  digits : List Char
  exponent : Int

def digitsValue (cs : List Char) : Nat :=
  cs.foldl (fun n c => 10 * n + (c.toNat - '0'.toNat)) 0

/-- The exponent that a text after the letter stands for. -/
def exponent? (cs : List Char) : Option Int :=
  let (negative, digits) :=
    match cs with
    | '-' :: r => (true, r)
    | '+' :: r => (false, r)
    | r => (false, r)
  if digits.isEmpty || !digits.all Char.isDigit then none
  else some (if negative then -(digitsValue digits : Int) else digitsValue digits)

def decimal? (cs : List Char) : Option Decimal :=
  let whole := cs.takeWhile Char.isDigit
  let rest := cs.dropWhile Char.isDigit
  let (fraction, rest) :=
    match rest with
    | '.' :: r => (r.takeWhile Char.isDigit, r.dropWhile Char.isDigit)
    | r => ([], r)
  if whole.isEmpty && fraction.isEmpty then none
  else
    let digits := (whole ++ fraction).dropWhile (· = '0')
    match rest with
    | [] => some ⟨digits, -fraction.length⟩
    | c :: r =>
      if c = 'e' ∨ c = 'E' then
        (exponent? r).map fun e => ⟨digits, e - fraction.length⟩
      else none

variable (f : Format)

/-- Magnitude bits of the number nearest to a decimal. No format here reaches four hundred
places to either side of the point. -/
def Decimal.nearest (d : Decimal) : Nat :=
  let top := d.digits.length + d.exponent
  if d.digits.isEmpty then 0
  else if 400 < top then f.infinity
  else if top < -400 then 0
  else if 0 ≤ d.exponent then
    Floating.nearest f (digitsValue d.digits * tenTo d.exponent.toNat) 1
  else Floating.nearest f (digitsValue d.digits) (tenTo (-d.exponent).toNat)

def word? (cs : List Char) : Option Nat :=
  let lower := String.ofList (cs.map Char.toLower)
  if lower = "inf" ∨ lower = "infinity" then some f.infinity
  else if lower = "nan" then some f.quietNaN
  else none

/-- The bit pattern that a text stands for. -/
def parse (cs : List Char) : Except ReadFault Nat :=
  match cs with
  | [] => .error .empty
  | c :: r =>
    let negative := c = '-'
    let unsigned := if c = '-' ∨ c = '+' then r else cs
    match (decimal? unsigned).map (Decimal.nearest f) <|> word? f unsigned with
    | some magnitude => .ok (withSign f negative magnitude)
    | none => .error .invalid

end Offload.Floating
