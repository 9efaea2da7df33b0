import Offload.Text.Address

/-!
The extent of the host's heap that a device may reach.

The end of a region that would pass the top of the address space stops at the last address.
-/

namespace Offload

structure Region where
  base : UInt64
  size : UInt64
  deriving DecidableEq, Repr

namespace Region

variable (r : Region)

def isEmpty : Bool := r.size = 0

/-- One past the last byte, or the last address where that is out of reach. -/
def stop : UInt64 := UInt64.ofNat (min (r.base.toNat + r.size.toNat) (UInt64.size - 1))

def contains (a : UInt64) : Bool := r.base ≤ a && a < r.stop

def text : String :=
  "[" ++ Text.address r.base.toNat ++ ", " ++ Text.address r.stop.toNat ++ ")"

theorem toNat_stop : r.stop.toNat = min (r.base.toNat + r.size.toNat) (UInt64.size - 1) := by
  rw [stop, UInt64.toNat_ofNat_of_lt']
  have := Nat.min_le_right (r.base.toNat + r.size.toNat) (UInt64.size - 1)
  simp only [UInt64.size] at this ⊢
  omega

theorem contains_iff {a : UInt64} :
    r.contains a = true ↔ r.base.toNat ≤ a.toNat ∧ a.toNat < r.stop.toNat := by
  simp [contains, UInt64.le_iff_toNat_le, UInt64.lt_iff_toNat_lt]

end Region

end Offload
