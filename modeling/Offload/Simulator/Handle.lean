/-!
Handles of simulated contexts and kernels.

A handle is a 64-bit word with two fields: the slot of the instance that issued it, counted from
one, above twenty bits for a kernel's index, counted from one too; a context has index zero there.
-/

namespace Offload.Simulator

abbrev slotCount : Nat := 32

abbrev Slot := Fin slotCount

def slot? (n : Nat) : Option Slot := if h : n < slotCount then some ⟨n, h⟩ else none

@[simp] theorem slot?_val (slot : Slot) : slot? slot.val = some slot := by simp [slot?]

/-- The number of values of the index field, which is twenty bits wide. -/
abbrev indexSpan : Nat := 1048576

/-- How many kernels an instance can hold: the indices that fit the field. -/
def capacity : Nat := indexSpan - 1

structure Handle where
  bits : UInt64
  deriving DecidableEq, Repr

/-- What a handle names within its slot. -/
inductive Target
  | context
  | kernel (index : Nat)
  deriving DecidableEq, Repr

def Target.field : Target → Nat
  | .context => 0
  | .kernel i => i + 1

namespace Handle

def null : Handle := ⟨0⟩

def isNull (h : Handle) : Bool := h.bits = 0

def encode (slot : Slot) (target : Target) : Handle :=
  ⟨UInt64.ofNat ((slot.val + 1) * indexSpan + target.field)⟩

def decode? (h : Handle) : Option (Slot × Target) :=
  let high := h.bits.toNat / indexSpan
  let low := h.bits.toNat % indexSpan
  if high = 0 then none
  else (slot? (high - 1)).map fun slot => (slot, if low = 0 then .context else .kernel (low - 1))

/-- The slot of a context handle. -/
def contextSlot? (h : Handle) : Option Slot :=
  match h.decode? with
  | some (slot, .context) => some slot
  | _ => none

/-- The slot and index of a kernel handle. -/
def kernelIndex? (h : Handle) : Option (Slot × Nat) :=
  match h.decode? with
  | some (slot, .kernel i) => some (slot, i)
  | _ => none

/-- The index field alone. -/
def lowField (h : Handle) : Nat := h.bits.toNat % indexSpan

theorem toNat_encode {slot : Slot} {target : Target} (h : target.field < indexSpan) :
    (encode slot target).bits.toNat = (slot.val + 1) * indexSpan + target.field := by
  have hs := slot.isLt
  rw [encode, UInt64.toNat_ofNat_of_lt']
  simp only [indexSpan, slotCount, UInt64.size] at *
  omega

theorem decode?_encode {slot : Slot} {target : Target} (h : target.field < indexSpan) :
    (encode slot target).decode? = some (slot, target) := by
  have hs := slot.isLt
  have h1 : ((slot.val + 1) * indexSpan + target.field) / indexSpan = slot.val + 1 := by
    simp only [indexSpan] at *
    omega
  have h2 : ((slot.val + 1) * indexSpan + target.field) % indexSpan = target.field := by
    simp only [indexSpan] at *
    omega
  rw [decode?, toNat_encode h, h1, h2]
  cases target <;> simp [Target.field]

end Handle

end Offload.Simulator
