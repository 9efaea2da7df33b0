import Offload.Marshal
import Offload.Code
import Offload.Text.Utf8
import Offload.Simulator.Handle

/-!
One simulated device: its options, the journal of the calls it received, and its kernels, each
with a queue of arguments.

A queue outlives the launch it was filled for, also one that failed; only clearing empties it.
-/

namespace Offload.Simulator

/-- Capabilities, and which calls are made to fail. -/
structure Options where
  /-- Names that the device pretends not to export. -/
  hidden : List String := []
  failContext : Bool := false
  rejectKernels : Bool := false
  failClear : Bool := false
  /-- The push that finds this many arguments queued fails. -/
  failPushAt : Option Nat := none
  failExecute : Bool := false
  failHeap : Bool := false
  /-- Without a number the query for it is not exported. -/
  totalCores : Option UInt32 := none
  deriving DecidableEq, Repr

/-- A call as it arrived. -/
inductive Call
  | createContext
  | totalCores
  | registerHeap (base size : UInt64)
  | createKernel (name : String) (codeLength : Nat)
  | clearArgs (kernel : String)
  | push (kernel : String) (arg : Pushed)
  | execute (kernel : String) (dim : Int32) (args : List Pushed)
  deriving DecidableEq

structure Loaded where
  name : String
  queue : Array Pushed
  deriving DecidableEq

structure Instance where
  options : Options
  journal : Array Call
  kernels : Array Loaded
  deriving DecidableEq

namespace Instance

def fresh (options : Options) : Instance := ⟨options, #[], #[]⟩

variable (d : Instance)

def record (call : Call) : Instance := { d with journal := d.journal.push call }

def createContext : Bool × Instance := (!d.options.failContext, d.record .createContext)

def totalCores : UInt32 × Instance := (d.options.totalCores.getD 0, d.record .totalCores)

def registerHeap (base size : UInt64) : Bool × Instance :=
  (!d.options.failHeap, d.record (.registerHeap base size))

/-- The index of the new kernel. Code and name arrive as bytes that a zero ends. -/
def createKernel (code name : List UInt8) : Option Nat × Instance :=
  let length := (upToZero code).length
  let text := Text.ofUtf8 (upToZero name)
  let d' := d.record (.createKernel text length)
  if d'.options.rejectKernels ∨ length = 0 ∨ capacity ≤ d'.kernels.size then (none, d')
  else (some d'.kernels.size, { d' with kernels := d'.kernels.push ⟨text, #[]⟩ })

def clearArgs (i : Nat) : Bool × Instance :=
  match d.kernels[i]? with
  | none => (false, d)
  | some k =>
    let d' := d.record (.clearArgs k.name)
    if d'.options.failClear then (false, d')
    else (true, { d' with kernels := d'.kernels.modify i fun k => { k with queue := #[] } })

def push (i : Nat) (arg : Pushed) : Bool × Instance :=
  match d.kernels[i]? with
  | none => (false, d)
  | some k =>
    let d' := d.record (.push k.name arg)
    if d'.options.failPushAt = some k.queue.size then (false, d')
    else
      let kernels := d'.kernels.modify i fun k => { k with queue := k.queue.push arg }
      (true, { d' with kernels })

def execute (i : Nat) (dim : Int32) : Bool × Instance :=
  match d.kernels[i]? with
  | none => (false, d)
  | some k =>
    (0 < dim && !d.options.failExecute, d.record (.execute k.name dim k.queue.toList))

end Instance

end Offload.Simulator
