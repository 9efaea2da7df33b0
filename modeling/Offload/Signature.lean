import Offload.Descriptor

/-!
The parameter layout of a kernel method.

An instance method has one more slot than parameters: the receiver, an object, comes first.
-/

namespace Offload

structure Signature where
  params : List Kind
  hasReceiver : Bool
  /-- No kind stands for a void result. -/
  returns : Option Kind
  deriving DecidableEq, Repr

namespace Signature

def void (params : List Kind) (hasReceiver : Bool) : Signature := ⟨params, hasReceiver, none⟩

def parse (descriptor : String) (isStatic : Bool) : Except Descriptor.Flaw Signature :=
  (Descriptor.parse descriptor.toList).map fun (params, returns) =>
    ⟨params, !isStatic, returns⟩

variable (s : Signature)

def isVoid : Bool := s.returns.isNone

/-- The number of values a caller supplies. -/
def arity : Nat := s.params.length + s.hasReceiver.toNat

/-- The kinds of the slots in push order. -/
def slots : List Kind := if s.hasReceiver then .object :: s.params else s.params

@[simp] theorem length_slots : s.slots.length = s.arity := by
  unfold slots arity
  cases s.hasReceiver <;> simp

@[simp] theorem isVoid_void (params : List Kind) (hasReceiver : Bool) :
    (void params hasReceiver).isVoid = true := rfl

end Signature

end Offload
