import Offload.Bridge.Heap

/-!
Loading kernels and launching them.

A launch checks everything it can without the device, then clears the kernel's queue, pushes the
arguments in slot order and executes. The first failing step ends it; only the last one may have
run the kernel.
-/

namespace Offload.Bridge

open Simulator (Fleet)

/-- Loads a kernel on a connected device. -/
def loadOn (d : Device) (code : Code) : Action Kernel := do
  match code.terminatedName with
  | .error e => throw e
  | .ok name =>
    let handle ← Action.call fun f =>
      f.createKernel d.table.createKernel d.handle (some code.terminated) (some name)
    if handle.isNull then
      Action.report (.kernelRejected code.name code.size)
      throw (.kernelLoad code.name)
    Action.report (.kernelCreated code.name code.size)
    return ⟨(← get).bridge.id, handle, code.name, 0⟩

def loadKernel (code : Code) : Action Kernel := do
  loadOn (← requireDevice "generate_kernel") code

/-- Checks a launch without calling the device: its range, or the first thing wrong with it. -/
def checkLaunch (heap : Option Region) (verify : Bool) (kernel : String) (dim : Int32)
    (args : List Value) (signature : Signature) : Except Fault Range := do
  let range ← Range.of dim
  if !signature.isVoid then
    throw (.unsupportedSignature
      ("kernel '" ++ kernel ++ "' returns a value; only void kernels can be launched"))
  match heap with
  | none => throw .heapNotRegistered
  | some region =>
    Marshal.validate signature args region verify
    return range

def pushOne (d : Device) (k : Kernel) (i : Nat) (v : Value) : Action Unit := do
  let pushed ← Action.call fun f => f.push (d.table.push v.pushed.kind) k.handle v.pushed
  if !pushed then
    Action.report (.pushFailed k.name i v)
    throw (.argumentPush i v.kind)

/-- Pushes the arguments from slot `i` on. -/
def pushAll (d : Device) (k : Kernel) : Nat → List Value → Action Unit
  | _, [] => pure ()
  | i, v :: vs => do
    pushOne d k i v
    pushAll d k (i + 1) vs

/-- Executes a kernel over its queue; the kernel counts the launch. -/
def execute (d : Device) (k : Kernel) (range : Range) : Action Kernel := do
  let ran ← Action.call fun f => f.execute d.table.execute k.handle range.dim
  if !ran then
    Action.report (.launchFailed k.name range)
    throw (.execution k.name)
  Action.report (.launched k.name range)
  return { k with launches := k.launches + 1 }

/-- Launches a kernel on its own device. -/
def launchOn (d : Device) (k : Kernel) (dim : Int32) (args : List Value)
    (signature : Signature) : Action Kernel := do
  let s ← get
  match checkLaunch s.bridge.heap? s.bridge.settings.verifyObjects k.name dim args signature with
  | .error e => throw e
  | .ok range =>
    let cleared ← Action.call fun f => f.clearArgs d.table.clearArgs k.handle
    if !cleared then throw (.clearArgs k.name)
    pushAll d k 0 args
    execute d k range

/-- Launches a kernel through a bridge, which must be the one that loaded it. -/
def launch (k : Kernel) (dim : Int32) (args : List Value) (signature : Signature) :
    Action Kernel := do
  let d ← requireDevice "execute_kernel_void_1d"
  if (← get).bridge.id ≠ k.owner then
    throw (.invalidKernel ("kernel '" ++ k.name ++ "' was created on another context"))
  launchOn d k dim args signature

/-- Everything needed to run one kernel from scratch. -/
structure Request where
  code : Code
  signature : Signature
  args : List Value
  dim : Int32

/-- Connects, registers the heap unless a region is registered, loads and launches. -/
def offload (request : Request) (heap : Region) : Action Unit := do
  match Range.of request.dim with
  | .error e => throw e
  | .ok _ =>
    let d ← connect
    if d.heap.isNone then
      let _ ← registerOn d heap
    let k ← loadOn d request.code
    let _ ← launchOn d k request.dim request.args request.signature

end Offload.Bridge
