import Offload.Bridge.Connect

/-!
Registering the host's heap with the device.

The newest registration replaces the one before. One that fails leaves no region registered, so
that launches stop instead of reaching memory the device was not told of.
-/

namespace Offload.Bridge

/-- What to report about a registration that the device accepted. -/
def registrationNotice? (previous : Option Region) (region : Region) : Option Notice :=
  match previous with
  | none => some (.heapRegistered region)
  | some old => if old = region then none else some (.heapMoved old region)

/-- Registers a region on a connected device. -/
def registerOn (d : Device) (region : Region) : Action Region := do
  if region.isEmpty then
    Action.setHeap none
    throw (.heapRegistration region.base region.size)
  let accepted ← Action.call fun f => f.registerHeap d.table.registerHeap region.base region.size
  if !accepted then
    Action.setHeap none
    Action.report (.heapRejected region)
    throw (.heapRegistration region.base region.size)
  Action.setHeap (some region)
  if let some n := registrationNotice? d.heap region then Action.report n
  return region

def registerHeap (region : Region) : Action Region := do
  registerOn (← requireDevice "register_heap") region

end Offload.Bridge
