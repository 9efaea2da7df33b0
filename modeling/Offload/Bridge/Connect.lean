import Offload.Bridge.Basic

/-!
Linking a bridge and creating its context.

Linking is tried again until it succeeds once. The context is tried once, and only with a table;
a device that could not be had then is not asked again.
-/

namespace Offload.Bridge

open Simulator (EntryPoint)

/-- The table, linked now if it was not before. -/
def ensureTable : Action (Table EntryPoint) := do
  let s ← get
  match s.bridge.table with
  | some t => return t
  | none =>
    let attempt := s.bridge.resolver.attempt s.fleet s.bridge.attempts
    let (outcome, asked) := attempt.answers.link
    modify fun s => { s with
      bridge := { s.bridge with attempts := s.bridge.attempts + 1 }
      notices := s.notices ++ attempt.notices
      queries := s.queries ++ asked }
    match outcome with
    | .ok t =>
      modify fun s => { s with bridge := { s.bridge with table := some t } }
      Action.report .linked
      return t
    | .error e =>
      Action.report (.linkageFailed e)
      throw e

def link : Action Unit := do
  let _ ← ensureTable

/-- The number of cores: what the device reports, if it reports any. -/
def coreCount (reported : Option UInt32) (fallback : UInt32) : UInt32 × Bool :=
  match reported with
  | some n => if n = 0 then (fallback, false) else (n, true)
  | none => (fallback, false)

/-- Creates the context; the bridge keeps what comes of it. -/
def createDevice (t : Table EntryPoint) : Action Device := do
  let handle ← Action.call fun f => f.createContext t.createContext
  if handle.isNull then
    modify fun s => { s with bridge := { s.bridge with device := .unavailable } }
    Action.report .contextFailed
    throw .context
  else
    let reported ←
      match t.totalCores with
      | some query => some <$> Action.call fun f => f.totalCores query handle
      | none => pure none
    let (cores, isReported) := coreCount reported (← get).bridge.settings.fallbackCores
    let d : Device := ⟨t, handle, cores, none⟩
    modify fun s => { s with bridge := { s.bridge with device := .ready d } }
    Action.report (.contextCreated cores isReported)
    return d

/-- The device, connected now if that was not decided before. -/
def connect : Action Device := do
  let t ← ensureTable
  match (← get).bridge.device with
  | .ready d => return d
  | .unavailable => throw .context
  | .undecided => createDevice t

/-- The device that an operation needs to be connected before. -/
def requireDevice (operation : String) : Action Device := do
  match (← get).bridge.device with
  | .ready d => return d
  | .unavailable => throw .context
  | .undecided => throw (.notInitialized operation)

def totalCores : Action UInt32 := do
  return (← requireDevice "total_cores").cores

end Offload.Bridge
