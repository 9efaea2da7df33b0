/-!
Reading integers of a bounded range.

Digits are taken from the left: the first character that is no digit, or the first digit that
leaves the range, decides the fault. A plus sign may lead any number, a minus sign only a signed
one; a sign alone is no number.
-/

namespace Offload.Text

inductive IntegerFault
  | empty
  | invalidDigit
  | tooLarge
  | tooSmall
  deriving DecidableEq, Repr

def IntegerFault.message : IntegerFault → String
  | .empty => "cannot parse integer from empty string"
  | .invalidDigit => "invalid digit found in string"
  | .tooLarge => "number too large to fit in target type"
  | .tooSmall => "number too small to fit in target type"

/-- The value of a digit, letters of either case counting from ten. -/
def digit? (radix : Nat) (c : Char) : Option Nat :=
  let value :=
    if '0' ≤ c ∧ c ≤ '9' then c.toNat - '0'.toNat
    else if 'a' ≤ c ∧ c ≤ 'f' then c.toNat - 'a'.toNat + 10
    else if 'A' ≤ c ∧ c ≤ 'F' then c.toNat - 'A'.toNat + 10
    else radix
  if value < radix then some value else none

/-- Reads the digits after `acc`; a value above `limit` is the fault `beyond`. -/
def readDigits (radix limit : Nat) (beyond : IntegerFault) :
    Nat → List Char → Except IntegerFault Nat
  | acc, [] => .ok acc
  | acc, c :: cs =>
    match digit? radix c with
    | none => .error .invalidDigit
    | some d =>
      if acc * radix + d ≤ limit then readDigits radix limit beyond (acc * radix + d) cs
      else .error beyond

/-- Reads a natural number below `size`. -/
def readUnsigned (radix size : Nat) : List Char → Except IntegerFault Nat
  | [] => .error .empty
  | ['+'] => .error .invalidDigit
  | '+' :: cs => readDigits radix (size - 1) .tooLarge 0 cs
  | cs => readDigits radix (size - 1) .tooLarge 0 cs

/-- Reads a decimal integer in the range of two's complement with `size` values. -/
def readSigned (size : Nat) : List Char → Except IntegerFault Int
  | [] => .error .empty
  | ['+'] | ['-'] => .error .invalidDigit
  | '-' :: cs => (readDigits 10 (size / 2) .tooSmall 0 cs).map fun n => -(n : Int)
  | '+' :: cs => (readDigits 10 (size / 2 - 1) .tooLarge 0 cs).map fun n => (n : Int)
  | cs => (readDigits 10 (size / 2 - 1) .tooLarge 0 cs).map fun n => (n : Int)

@[simp] theorem readDigits_nil (radix limit : Nat) (beyond : IntegerFault) (acc : Nat) :
    readDigits radix limit beyond acc [] = .ok acc := rfl

end Offload.Text
