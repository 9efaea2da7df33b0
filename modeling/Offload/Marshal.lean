import Offload.Value
import Offload.Signature
import Offload.Region
import Offload.Fault

/-!
Arguments against a signature, and in the form a device's queue takes them.

Checking comes first and calls nothing. The leftmost slot at fault decides, and in a slot the kind
comes before the receiver, and the receiver before the heap.
-/

namespace Offload

/-- A value as one of the seven pushes delivers it. -/
inductive Pushed
  | object (address : UInt64)
  | boolean (v : Bool)
  | byte (v : Int8)
  | int (v : Int32)
  | long (v : Int64)
  | float (bits : UInt32)
  | double (bits : UInt64)
  deriving DecidableEq

def Pushed.kind : Pushed → PushKind
  | .object _ => .object
  | .boolean _ => .boolean
  | .byte _ => .byte
  | .int _ => .int
  | .long _ => .long
  | .float _ => .float
  | .double _ => .double

/-- A short is widened with its sign, a char with zeros. -/
def Value.pushed : Value → Pushed
  | .object a => .object a
  | .boolean v => .boolean v
  | .byte v => .byte v
  | .short v => .int v.toInt32
  | .char u => .int (Int32.ofNat u.toNat)
  | .int v => .int v
  | .long v => .long v
  | .float b => .float b
  | .double b => .double b

namespace Marshal

/-- What is wrong with a value in a slot. -/
def slotFault? (s : Signature) (heap : Region) (verify : Bool) (i : Nat) (expected : Kind)
    (v : Value) : Option Fault :=
  if v.kind ≠ expected then some (.argumentMismatch i expected v.kind)
  else
    match v.address? with
    | none => none
    | some a =>
      if i = 0 ∧ s.hasReceiver ∧ a = 0 then some .nullReceiver
      else if verify ∧ a ≠ 0 ∧ !heap.contains a then some (.unregisteredObject i a)
      else none

def validate (s : Signature) (args : List Value) (heap : Region) (verify : Bool) :
    Except Fault Unit :=
  if args.length ≠ s.arity then .error (.argumentCount s.arity args.length)
  else
    match (s.slots.zip args).zipIdx.findSome? fun ((expected, v), i) =>
        slotFault? s heap verify i expected v with
    | some fault => .error fault
    | none => .ok ()

end Marshal

/-- A value goes through the push of its kind. -/
@[simp] theorem Value.kind_pushed (v : Value) : v.pushed.kind = v.kind.push := by
  cases v <;> rfl

end Offload
