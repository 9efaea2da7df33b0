import Offload.Fault

/-!
The extent of a launch: a positive number of work items along one dimension.
-/

namespace Offload

structure Range where
  dim : Int32
  positive : 0 < dim

namespace Range

def of (dim : Int32) : Except Fault Range :=
  if h : 0 < dim then .ok ⟨dim, h⟩ else .error (.invalidRange dim)

variable (r : Range)

def size : Nat := r.dim.toInt.toNat

def text : String := "[" ++ toString r.dim.toInt ++ "]"

theorem of_pos {dim : Int32} (h : 0 < dim) : of dim = .ok ⟨dim, h⟩ := dif_pos h

theorem of_not_pos {dim : Int32} (h : ¬ 0 < dim) : of dim = .error (.invalidRange dim) := dif_neg h

theorem of_eq_error_iff {dim : Int32} {e : Fault} :
    of dim = .error e ↔ ¬ 0 < dim ∧ e = .invalidRange dim := by
  unfold of
  split <;> simp_all [eq_comm]

end Range

end Offload
