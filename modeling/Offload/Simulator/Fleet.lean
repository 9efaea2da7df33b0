import Offload.Simulator.Instance

/-!
All simulated devices of a run and the slots they are reached through.

An installation takes the first free slot, cyclically from a counter that moves by one each time;
with none free it takes over the slot at the counter. A slot yields the instance installed there
last, while it is live, and nothing otherwise.
-/

namespace Offload.Simulator

structure Cell where
  state : Instance
  slot : Slot
  live : Bool
  deriving DecidableEq

structure Fleet where
  /-- Every instance ever installed, in order. -/
  cells : Array Cell
  /-- The instance each slot was last given to. -/
  owners : Vector (Option Nat) slotCount
  next : Nat
  deriving DecidableEq

namespace Fleet

def empty : Fleet := ⟨#[], Vector.replicate slotCount none, 0⟩

variable (f : Fleet)

def isLive (id : Nat) : Bool := (f.cells[id]?.map Cell.live).getD false

/-- The live instance that a slot yields. -/
def owner? (slot : Slot) : Option Nat := (f.owners[slot]).filter f.isLive

def isFree (slot : Slot) : Bool := (f.owner? slot).isNone

def slotAt (n : Nat) : Slot := ⟨n % slotCount, Nat.mod_lt _ (by decide)⟩

/-- The slots cyclically from the counter. -/
def candidates : List Slot := (List.range slotCount).map fun i => slotAt (f.next + i)

def freeSlot? : Option Slot := f.candidates.find? f.isFree

/-- The slot that the next installation takes. -/
def nextSlot : Slot := f.freeSlot?.getD (slotAt f.next)

/-- Installs an instance, whose number is the count of those before it. -/
def install (options : Options) : Fleet :=
  let slot := f.nextSlot
  { cells := f.cells.push ⟨.fresh options, slot, true⟩
    owners := f.owners.set slot (some f.cells.size)
    next := f.next + 1 }

/-- Ends an instance. Its slot is cleared unless a live instance has taken it over. -/
def retire (id : Nat) : Fleet :=
  match f.cells[id]? with
  | none => f
  | some cell =>
    let cells := f.cells.modify id fun c => { c with live := false }
    let f' : Fleet := { f with cells }
    { f' with owners := f'.owners.set cell.slot (f'.owner? cell.slot) }

def instance? (id : Nat) : Option Instance := f.cells[id]?.map Cell.state

/-- Takes an instance out of its place, so that a call can work on the only copy. -/
@[noinline] def vacate (cells : Array Cell) (id : Nat) (h : id < cells.size) :
    Instance × Array Cell :=
  (cells[id].state, cells.set id { cells[id] with state := .fresh {} })

/-- Runs a call on an instance. -/
def onInstance {β : Type} (id : Nat) (call : Instance → β × Instance) (otherwise : β) :
    β × Fleet :=
  if h : id < f.cells.size then
    let (state, cells) := vacate f.cells id h
    let (answer, state) := call state
    (answer, { f with cells := cells.modify id fun c => { c with state } })
  else (otherwise, f)

/-- Runs a call on the live instance that a slot yields. -/
def onSlot {β : Type} (slot : Slot) (call : Instance → β × Instance) (otherwise : β) :
    β × Fleet :=
  match f.owner? slot with
  | some id => f.onInstance id call otherwise
  | none => (otherwise, f)

def configure (id : Nat) (change : Options → Options) : Fleet :=
  (f.onInstance id (fun d => ((), { d with options := change d.options })) ()).2

/-- Takes the journal of an instance and leaves it empty. -/
def drain (id : Nat) : Array Call × Fleet :=
  f.onInstance id (fun d => (d.journal, { d with journal := #[] })) #[]

def journal (id : Nat) : Array Call := ((f.instance? id).map Instance.journal).getD #[]

theorem onInstance_of_lt {β : Type} {id : Nat} (h : id < f.cells.size)
    (call : Instance → β × Instance) (otherwise : β) :
    f.onInstance id call otherwise =
      let (answer, state) := call f.cells[id].state
      (answer, { f with cells := f.cells.set id { f.cells[id] with state } }) := by
  simp only [onInstance, h, dif_pos, vacate, Prod.mk.injEq, Fleet.mk.injEq, and_true, true_and]
  apply Array.ext
  · simp
  · intro i _ _
    by_cases hi : id = i <;> simp [hi, Array.getElem_modify, Array.getElem_set]

end Fleet

end Offload.Simulator
