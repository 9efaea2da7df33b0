import Offload.Kind

/-!
The entry points of a device library, by the names they are exported under.

Twelve of them are required; the query for the number of cores is optional.
-/

namespace Offload

inductive Symbol
  | createContext
  | createKernel
  | push (kind : PushKind)
  | execute
  | clearArgs
  | registerHeap
  | totalCores
  deriving DecidableEq, Repr

namespace Symbol

def name : Symbol → String
  | .createContext => "okra_create_context"
  | .createKernel => "okra_create_kernel"
  | .push kind => "okra_push_" ++ kind.name
  | .execute => "okra_execute_with_range"
  | .clearArgs => "okra_clearargs"
  | .registerHeap => "okra_register_heap"
  | .totalCores => "okra_total_cores"

/-- The required entry points in table order. -/
def required : List Symbol :=
  [.createContext, .createKernel, .push .object, .push .boolean, .push .byte, .push .double,
    .push .float, .push .int, .push .long, .execute, .clearArgs, .registerHeap]

def all : List Symbol := required ++ [.totalCores]

def ofName? (name : String) : Option Symbol := all.find? fun s => s.name = name

theorem mem_all (s : Symbol) : s ∈ all := by
  cases s with
  | push kind => cases kind <;> decide
  | _ => decide

@[simp] theorem ofName?_name (s : Symbol) : ofName? s.name = some s := by
  cases s with
  | push kind => cases kind <;> decide +kernel
  | _ => decide +kernel

end Symbol

end Offload
