import Offload.Linkage.Resolver
import Offload.Settings.Basic

/-!
A bridge between a host and one device, and the scene it works in.

Two things about a bridge are settled once: its table, at the first attempt to link that succeeds,
and its device, at the first attempt to create a context, whether that succeeds or not. The
registered heap is the only part that moves afterwards.
-/

namespace Offload

open Simulator (Fleet EntryPoint Handle)

/-- A context on a device. -/
structure Device where
  table : Table EntryPoint
  handle : Handle
  cores : UInt32
  /-- The region of the last registration, if that succeeded. -/
  heap : Option Region

inductive DeviceState
  | undecided
  | unavailable
  | ready (device : Device)

structure Bridge where
  /-- Tells this bridge from all others; its context is known by the same number. -/
  id : Nat
  resolver : Resolver
  settings : Settings
  /-- How often linking has been tried. -/
  attempts : Nat
  table : Option (Table EntryPoint)
  device : DeviceState

/-- A kernel loaded on a context. -/
structure Kernel where
  owner : Nat
  handle : Handle
  name : String
  launches : Nat
  deriving DecidableEq

/-- A bridge at work: the devices it reaches, and what it has reported and asked. -/
structure Scene where
  bridge : Bridge
  fleet : Fleet
  notices : Array Notice
  queries : Array Query

namespace Bridge

def of (id : Nat) (resolver : Resolver) (settings : Settings) : Bridge :=
  ⟨id, resolver, settings, 0, none, .undecided⟩

variable (b : Bridge)

def isLinked : Bool := b.table.isSome

def device? : Option Device :=
  match b.device with
  | .ready d => some d
  | _ => none

def heap? : Option Region := b.device?.bind Device.heap

end Bridge

namespace Scene

def of (bridge : Bridge) (fleet : Fleet) : Scene := ⟨bridge, fleet, #[], #[]⟩

variable (s : Scene)

def withHeap (heap : Option Region) : Scene :=
  match s.bridge.device with
  | .ready d => { s with bridge := { s.bridge with device := .ready { d with heap } } }
  | _ => s

end Scene

/-- A step of a bridge; what a failing step has done stays done. -/
abbrev Action := EStateM Fault Scene

namespace Action

/-- Calls an entry point. -/
def call {β : Type} (f : Fleet → β × Fleet) : Action β := fun s =>
  let ⟨bridge, fleet, notices, queries⟩ := s
  let (answer, fleet) := f fleet
  .ok answer ⟨bridge, fleet, notices, queries⟩

def report (n : Notice) : Action Unit := modify fun s => { s with notices := s.notices.push n }

def setHeap (heap : Option Region) : Action Unit := modify fun s => s.withHeap heap

end Action

end Offload
