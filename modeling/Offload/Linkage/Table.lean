import Offload.Linkage.Symbol
import Offload.Fault

/-!
Linking: the table of entry points, filled whole or not at all.

A single missing push would shift every later argument, so a table lacking a required entry is
never made. The optional entry is asked for last, and only when the table is sure.
-/

namespace Offload

/-- The addresses of the entry points, each under its own name. -/
structure Table (α : Type) where
  createContext : α
  createKernel : α
  pushObject : α
  pushBoolean : α
  pushByte : α
  pushDouble : α
  pushFloat : α
  pushInt : α
  pushLong : α
  execute : α
  clearArgs : α
  registerHeap : α
  totalCores : Option α
  deriving DecidableEq, Repr

namespace Table

variable {α : Type} (t : Table α)

/-- The entry that carries a push. -/
def push : PushKind → α
  | .object => t.pushObject
  | .boolean => t.pushBoolean
  | .byte => t.pushByte
  | .int => t.pushInt
  | .long => t.pushLong
  | .float => t.pushFloat
  | .double => t.pushDouble

def entry? : Symbol → Option α
  | .createContext => some t.createContext
  | .createKernel => some t.createKernel
  | .push kind => some (t.push kind)
  | .execute => some t.execute
  | .clearArgs => some t.clearArgs
  | .registerHeap => some t.registerHeap
  | .totalCores => t.totalCores

end Table

/-- What a library answers during one attempt to link. -/
structure Answers (α : Type) where
  opened : Bool
  /-- Nothing for a name that is not exported; an exported name may still have no address. -/
  find : String → Option (Option α)

/-- What is asked of a library. -/
inductive Query
  | open_
  | lookUp (name : String)
  deriving DecidableEq, Repr

/-- Questions to a library, one after another, and what comes of the answers. -/
abbrev Inquiry := StateM (List Query)

def Inquiry.ask (q : Query) : Inquiry Unit := modify fun asked => asked ++ [q]

namespace Answers

variable {α : Type} (a : Answers α)

/-- The address of a symbol; one without an address counts as missing. -/
def address? (s : Symbol) : Option α := (a.find s.name).join

def openLibrary : Inquiry Bool := do
  Inquiry.ask .open_
  return a.opened

def lookUp (s : Symbol) : Inquiry (Option α) := do
  Inquiry.ask (.lookUp s.name)
  return a.address? s

/-- Looks symbols up in order: the addresses that are found, and the names of the rest. -/
def lookUpAll : List Symbol → Inquiry (List α × List String)
  | [] => return ([], [])
  | s :: rest => do
    let answer ← a.lookUp s
    let (found, missing) ← lookUpAll rest
    match answer with
    | some address => return (address :: found, missing)
    | none => return (found, s.name :: missing)

/-- Completes a table from the addresses found, taken in table order, unless a name is missing. -/
def complete (found : List α) (missing : List String) : Inquiry (Except Fault (Table α)) := do
  match missing, found with
  | [], [createContext, createKernel, pushObject, pushBoolean, pushByte, pushDouble, pushFloat,
      pushInt, pushLong, execute, clearArgs, registerHeap] =>
    let totalCores ← a.lookUp .totalCores
    return .ok {
      createContext, createKernel, pushObject, pushBoolean, pushByte, pushDouble, pushFloat,
      pushInt, pushLong, execute, clearArgs, registerHeap, totalCores }
  | _, _ => return .error (.linkage missing)

def fill : Inquiry (Except Fault (Table α)) := do
  if ← a.openLibrary then
    let (found, missing) ← a.lookUpAll Symbol.required
    a.complete found missing
  else return .error (.linkage (Symbol.required.map Symbol.name))

/-- Links: the outcome, and what was asked on the way. -/
def link : Except Fault (Table α) × List Query := a.fill.run []

end Answers

end Offload
