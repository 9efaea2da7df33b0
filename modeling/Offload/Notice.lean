import Offload.Fault
import Offload.Range
import Offload.Region
import Offload.Value

/-!
What a bridge and its devices report while they work, apart from results.
-/

namespace Offload

inductive Level
  | debug
  | info
  | warn
  deriving DecidableEq, Repr

def Level.name : Level → String
  | .debug => "DEBUG"
  | .info => "INFO"
  | .warn => "WARN"

inductive Notice
  | libraryLoaded (path : String)
  | libraryFailed (path : String)
  | linked
  | linkageFailed (fault : Fault)
  | contextCreated (cores : UInt32) (reported : Bool)
  | contextFailed
  | heapRegistered (region : Region)
  | heapMoved (old new : Region)
  | heapRejected (region : Region)
  | kernelCreated (name : String) (size : Nat)
  | kernelRejected (name : String) (size : Nat)
  | pushFailed (kernel : String) (index : Nat) (value : Value)
  | launched (kernel : String) (range : Range)
  | launchFailed (kernel : String) (range : Range)
  | slotTaken

namespace Notice

def level : Notice → Level
  | .kernelCreated _ _ | .launched _ _ => .debug
  | .libraryLoaded _ | .linked | .contextCreated _ _ | .heapRegistered _ | .heapMoved _ _ => .info
  | .libraryFailed _ | .linkageFailed _ | .contextFailed | .heapRejected _ | .kernelRejected _ _
  | .pushFailed _ _ _ | .launchFailed _ _ | .slotTaken => .warn

def sized (name : String) (size : Nat) : String :=
  "'" ++ name ++ "' (" ++ toString size ++ " bytes)"

def message : Notice → String
  | .libraryLoaded path => "loaded okra runtime from " ++ path
  | .libraryFailed path => "failed to load okra runtime " ++ path
  | .linked => "okra entry points bound"
  | .linkageFailed fault => "okra linkage failed: " ++ fault.message
  | .contextCreated cores reported =>
    "okra device context created (" ++ toString cores.toNat ++ " cores" ++
      (if reported then "" else ", fallback") ++ ")"
  | .contextFailed =>
    "okra context creation failed, GPU offload disabled: " ++ Fault.context.message
  | .heapRegistered region =>
    "heap registered " ++ region.text ++ " (" ++ toString region.size.toNat ++ " bytes)"
  | .heapMoved old new => "heap registration moved " ++ old.text ++ " -> " ++ new.text
  | .heapRejected region => "okra rejected heap registration " ++ region.text
  | .kernelCreated name size => "created kernel " ++ sized name size
  | .kernelRejected name size => "okra rejected kernel " ++ sized name size
  | .pushFailed kernel index value =>
    "kernel '" ++ kernel ++ "': push of argument " ++ toString index ++ " (" ++ value.text ++
      ") failed"
  | .launched kernel range => "kernel '" ++ kernel ++ "' ran over " ++ range.text
  | .launchFailed kernel range => "kernel '" ++ kernel ++ "' failed over " ++ range.text
  | .slotTaken => "all 32 simulated runtime slots in use, reusing one"

def text (n : Notice) : String := n.level.name ++ " " ++ n.message

end Notice

end Offload
