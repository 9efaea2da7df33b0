import Offload.Proofs.Bridge.Stepwise
import Offload.Proofs.Session.Courses

/-!
What loading a kernel comes to in a session: the one call that is made, the bytes it hands over,
its answer, and the session after it.

The entry point is told no length. It sees the code up to the first zero in it, whether that zero
was in the code or was added to end it, and takes what it sees unless it is nothing.
-/

namespace Offload

open Simulator

/-! ### The bytes that are handed over -/

namespace Code

variable (c : Code)

variable {c} {c' : Code}

end Code

/-! ### The call -/

namespace Simulator

/-- An instance that has been handed these bytes under a name, and has recorded how far the first
zero of them is. -/
def Instance.asked (d : Instance) (bytes : List UInt8) (name : String) : Instance :=
  d.record (.createKernel name (bytes.idxOf 0))

end Simulator

namespace Bridge

variable {device : Device} {slot : Slot} {sim : Nat} {d : Instance} {f : Fleet}

end Bridge

/-! ### The step -/

namespace Session

variable {s : Session} {i : Nat} {seat : Seat} {device : Device} {bytes : List UInt8}
  {name : String} {code : Code} (hi : s.seat? i = some seat)
  (hd : seat.bridge.device = .ready device) (hc : Code.of bytes name = .ok code)

include hi hd hc

omit hi hd hc

end Session

end Offload
