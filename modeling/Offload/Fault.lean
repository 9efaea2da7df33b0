import Offload.Kind
import Offload.Descriptor
import Offload.Text.Address

/-!
What can fail between a host and its device.

A fatal fault ends offloading until the next successful registration; any other one fails a single
call. Only a failed execution may have run the kernel.
-/

namespace Offload

inductive Fault
  | linkage (missing : List String)
  | context
  | notInitialized (operation : String)
  | heapRegistration (base size : UInt64)
  | heapNotRegistered
  | invalidKernel (reason : String)
  | kernelLoad (name : String)
  | invalidSignature (descriptor reason : String)
  | unsupportedSignature (reason : String)
  | invalidRange (dim : Int32)
  | argumentCount (expected found : Nat)
  | argumentMismatch (index : Nat) (expected found : Kind)
  | nullReceiver
  | unregisteredObject (index : Nat) (address : UInt64)
  | clearArgs (kernel : String)
  | argumentPush (index : Nat) (kind : Kind)
  | execution (kernel : String)
  | config (reason : String)
  deriving DecidableEq, Repr

namespace Fault

def message : Fault → String
  | .linkage missing =>
    "okra backend linkage failed, unresolved entry points: " ++ ", ".intercalate missing
  | .context => "okra device context creation failed"
  | .notInitialized operation =>
    operation ++ " called before the device context was initialized"
  | .heapRegistration base size =>
    "heap registration rejected for base " ++ Text.address base.toNat ++ " size " ++
      toString size.toNat
  | .heapNotRegistered => "no heap region registered with the device"
  | .invalidKernel reason => "invalid kernel binary: " ++ reason
  | .kernelLoad name => "backend rejected kernel '" ++ name ++ "'"
  | .invalidSignature descriptor reason =>
    "invalid method descriptor '" ++ descriptor ++ "': " ++ reason
  | .unsupportedSignature reason => "unsupported kernel signature: " ++ reason
  | .invalidRange dim =>
    "invalid launch range: dimX=" ++ toString dim.toInt ++ " (must be > 0)"
  | .argumentCount expected found =>
    "argument count mismatch: signature expects " ++ toString expected ++ ", got " ++
      toString found
  | .argumentMismatch index expected found =>
    "argument " ++ toString index ++ ": expected " ++ expected.name ++ ", got " ++ found.name
  | .nullReceiver => "receiver argument is null"
  | .unregisteredObject index address =>
    "argument " ++ toString index ++ ": object " ++ Text.address address.toNat ++
      " lies outside the registered heap"
  | .clearArgs kernel => "clearing arguments failed on kernel '" ++ kernel ++ "'"
  | .argumentPush index kind =>
    "push of argument " ++ toString index ++ " (" ++ kind.name ++ ") failed"
  | .execution kernel => "GPU execution failed for kernel '" ++ kernel ++ "'"
  | .config reason => "config error: " ++ reason

/-- Whether offloading is over until the next successful registration. -/
def isFatal : Fault → Bool
  | .linkage _ | .context | .heapRegistration _ _ => true
  | _ => false

/-- Whether the kernel surely did not run. -/
def notExecuted : Fault → Bool
  | .execution _ => false
  | _ => true

/-- The fault of a text that is no descriptor. -/
def ofFlaw (descriptor : String) (flaw : Descriptor.Flaw) : Fault :=
  .invalidSignature descriptor flaw.message

end Fault

end Offload
