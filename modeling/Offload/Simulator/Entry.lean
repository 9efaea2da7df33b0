import Offload.Linkage.Table
import Offload.Simulator.Fleet

/-!
The entry points that simulated devices export, and what calling one does.

The two that take no handle belong to a slot; all others are shared and find their instance
through the handle. A handle that no live instance issued, and an entry point called as what it
is not, answer failure and leave every instance alone.
-/

namespace Offload.Simulator

inductive EntryPoint
  | createContext (slot : Slot)
  | registerHeap (slot : Slot)
  | createKernel
  | push (kind : PushKind)
  | execute
  | clearArgs
  | totalCores
  deriving DecidableEq, Repr

/-- The entry point that an instance in a slot exports for a symbol. -/
def EntryPoint.ofSymbol (slot : Slot) : Symbol → EntryPoint
  | .createContext => .createContext slot
  | .createKernel => .createKernel
  | .push kind => .push kind
  | .execute => .execute
  | .clearArgs => .clearArgs
  | .registerHeap => .registerHeap slot
  | .totalCores => .totalCores

namespace Fleet

variable (f : Fleet)

/-- What an instance exports under a name, by its options of the moment. -/
def exported? (id : Nat) (name : String) : Option EntryPoint := do
  let cell ← f.cells[id]?
  let s ← Symbol.ofName? name
  if name ∈ cell.state.options.hidden then none
  else if s = .totalCores ∧ cell.state.options.totalCores.isNone then none
  else some (.ofSymbol cell.slot s)

def createContext (p : EntryPoint) : Handle × Fleet :=
  match p with
  | .createContext slot =>
    f.onSlot slot
      (fun d => (if d.createContext.1 then .encode slot .context else .null, d.createContext.2))
      .null
  | _ => (.null, f)

def registerHeap (p : EntryPoint) (base size : UInt64) : Bool × Fleet :=
  match p with
  | .registerHeap slot => f.onSlot slot (fun d => d.registerHeap base size) false
  | _ => (false, f)

def totalCores (p : EntryPoint) (context : Handle) : UInt32 × Fleet :=
  match p, context.contextSlot? with
  | .totalCores, some slot => f.onSlot slot Instance.totalCores 0
  | _, _ => (0, f)

/-- Code and name are bytes in memory, or missing. -/
def createKernel (p : EntryPoint) (context : Handle) (code name : Option (List UInt8)) :
    Handle × Fleet :=
  match p, context.contextSlot?, code, name with
  | .createKernel, some slot, some code, some name =>
    f.onSlot slot
      (fun d =>
        let (index, d') := d.createKernel code name
        (match index with
          | some i => .encode slot (.kernel i)
          | none => .null, d'))
      .null
  | _, _, _, _ => (.null, f)

def clearArgs (p : EntryPoint) (kernel : Handle) : Bool × Fleet :=
  match p, kernel.kernelIndex? with
  | .clearArgs, some (slot, i) => f.onSlot slot (fun d => d.clearArgs i) false
  | _, _ => (false, f)

def push (p : EntryPoint) (kernel : Handle) (arg : Pushed) : Bool × Fleet :=
  match p, kernel.kernelIndex? with
  | .push kind, some (slot, i) =>
    if kind = arg.kind then f.onSlot slot (fun d => d.push i arg) false else (false, f)
  | _, _ => (false, f)

def execute (p : EntryPoint) (kernel : Handle) (dim : Int32) : Bool × Fleet :=
  match p, kernel.kernelIndex? with
  | .execute, some (slot, i) => f.onSlot slot (fun d => d.execute i dim) false
  | _, _ => (false, f)

end Fleet

end Offload.Simulator
