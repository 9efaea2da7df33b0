import Offload.Kind
import Offload.Text.Address
import Offload.Floating.Text

/-!
Typed kernel arguments.

An object is its address in the host's memory, zero being the null reference. A float or a double
is its bit pattern, so that every pattern, also one that is no number, is carried unchanged.
-/

namespace Offload

inductive Value
  | object (address : UInt64)
  | boolean (v : Bool)
  | byte (v : Int8)
  | short (v : Int16)
  | char (unit : UInt16)
  | int (v : Int32)
  | long (v : Int64)
  | float (bits : UInt32)
  | double (bits : UInt64)
  deriving DecidableEq

namespace Value

def null : Value := .object 0

def kind : Value → Kind
  | .object _ => .object
  | .boolean _ => .boolean
  | .byte _ => .byte
  | .short _ => .short
  | .char _ => .char
  | .int _ => .int
  | .long _ => .long
  | .float _ => .float
  | .double _ => .double

def address? : Value → Option UInt64
  | .object a => some a
  | _ => none

/-- Equality of arguments of one kind; floats and doubles compare as numbers. -/
def same : Value → Value → Bool
  | .float a, .float b => Floating.sameNumber .single a.toNat b.toNat
  | .double a, .double b => Floating.sameNumber .double a.toNat b.toNat
  | a, b => a = b

def addressText (a : UInt64) : String :=
  if a = 0 then "null" else "@" ++ Text.address a.toNat

/-- The payload without its kind. -/
def payload : Value → String
  | .object a => addressText a
  | .boolean v => if v then "true" else "false"
  | .byte v => toString v.toInt
  | .short v => toString v.toInt
  | .char u => toString u.toNat
  | .int v => toString v.toInt
  | .long v => toString v.toInt
  | .float b => Floating.argumentText .single b.toNat
  | .double b => Floating.argumentText .double b.toNat

def text (v : Value) : String := v.kind.name ++ " " ++ v.payload

@[simp] theorem kind_null : null.kind = .object := rfl

end Value

end Offload
