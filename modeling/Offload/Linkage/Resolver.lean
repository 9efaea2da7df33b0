import Offload.Simulator.Entry
import Offload.Notice

/-!
Where a bridge looks for entry points.

A resolver may answer each attempt to link differently. It is either a simulated device, such a
device behind a script, or a shared library.
-/

namespace Offload

open Simulator (Fleet EntryPoint)

/-- One attempt: what is reported while the library is opened, and what it answers. -/
structure Attempt where
  notices : List Notice := []
  answers : Answers EntryPoint

structure Resolver where
  /-- The attempt after so many earlier ones. -/
  attempt : Fleet → Nat → Attempt

namespace Resolver

/-- The entry points of a simulated device. -/
def simulated (id : Nat) : Resolver where
  attempt fleet _ := { answers := ⟨true, fun name => (fleet.exported? id name).map some⟩ }

/-- A simulated device whose openings follow a list, the last answer repeating, and some of whose
names have no address. -/
def scripted (id : Nat) (opens : List Bool) (withoutAddress : List String) : Resolver where
  attempt fleet n :=
    { answers :=
        { opened := (opens[n]?.or opens.getLast?).getD true
          find := fun name =>
            if name ∈ withoutAddress then some none else (fleet.exported? id name).map some } }

/-- A shared library that exports no entry point. It is loaded once, at the first attempt. -/
def library (path : String) (loads : Bool) : Resolver where
  attempt _ n :=
    { notices :=
        if !loads then [.libraryFailed path]
        else if n = 0 then [.libraryLoaded path]
        else []
      answers := ⟨loads, fun _ => none⟩ }

end Resolver

end Offload
