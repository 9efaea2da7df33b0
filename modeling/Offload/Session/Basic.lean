import Offload.Bridge.Launch

/-!
A session: simulated devices, bridges over them, kernels and bare tables, each numbered in the
order it was made.

A simulated device lives as long as the session holds it or a bridge on it exists. A bridge that
is dropped takes its kernels with it.
-/

namespace Offload

open Simulator

/-- A bridge of a session, and the simulated device it is on, if any. -/
structure Seat where
  bridge : Bridge
  sim : Option Nat
  /-- Whether what its resolver is asked is part of the report. -/
  watched : Bool

/-- A table used without a bridge, and what its last attempt to create a context gave. -/
structure BareTable where
  table : Table EntryPoint
  context : Handle

structure Session where
  fleet : Fleet
  /-- Whether the session still holds each simulated device. -/
  held : Array Bool
  seats : Array (Option Seat)
  kernels : Array (Option Kernel)
  tables : Array BareTable

namespace Session

def empty : Session := ⟨.empty, #[], #[], #[], #[]⟩

variable (s : Session)

def holds (sim : Nat) : Bool := (s.held[sim]?).getD false

def seat? (i : Nat) : Option Seat := (s.seats[i]?).join

def kernel? (i : Nat) : Option Kernel := (s.kernels[i]?).join

/-- Whether anything keeps a simulated device alive. -/
def keeps (sim : Nat) : Bool :=
  s.holds sim || s.seats.any fun seat => seat.any fun x => x.sim = some sim

/-- Ends a simulated device that nothing keeps alive. -/
def release (sim : Nat) : Session :=
  if s.keeps sim then s else { s with fleet := s.fleet.retire sim }

def install (options : Options) : Session :=
  { s with fleet := s.fleet.install options, held := s.held.push true }

/-- What an installation reports. -/
def installNotices : List Notice := if s.fleet.freeSlot?.isNone then [.slotTaken] else []

def dropSim (sim : Nat) : Session :=
  release { s with held := s.held.setIfInBounds sim false } sim

def addBridge (resolver : Resolver) (settings : Settings) (sim : Option Nat) (watched : Bool) :
    Session :=
  { s with seats := s.seats.push (some ⟨.of s.seats.size resolver settings, sim, watched⟩) }

def dropBridge (i : Nat) : Session :=
  let sim := (s.seat? i).bind Seat.sim
  let s' : Session := { s with
    seats := s.seats.setIfInBounds i none
    kernels := s.kernels.map fun k => k.filter fun k => k.owner ≠ i }
  match sim with
  | some sim => s'.release sim
  | none => s'

/-- Runs a step of a bridge; the session keeps what the step has done, also a failing one. -/
def run {β : Type} (i : Nat) (action : Action β) :
    Option (Except Fault β × Array Notice × Array Query) × Session :=
  match s.seat? i with
  | none => (none, s)
  | some seat =>
    let ⟨fleet, held, seats, kernels, tables⟩ := s
    let finish (scene : Scene) : Session :=
      ⟨scene.fleet, held, seats.setIfInBounds i (some { seat with bridge := scene.bridge }),
        kernels, tables⟩
    match action (.of seat.bridge fleet) with
    | .ok answer scene => (some (.ok answer, scene.notices, scene.queries), finish scene)
    | .error e scene => (some (.error e, scene.notices, scene.queries), finish scene)

end Session

end Offload
