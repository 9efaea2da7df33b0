import Offload.Proofs.Simulator.Calls
import Offload.Proofs.Simulator.Handles

/-!
What an instance that has its slot exports and answers when its context is created, by its options
of the moment.
-/

namespace Offload.Simulator

namespace Options

variable (o : Options)

/-- Whether a device with these options exports a symbol. -/
def exports (s : Symbol) : Bool :=
  s.name ∉ o.hidden && (s ≠ .totalCores || o.totalCores.isSome)

/-- Whether all that is required is exported. -/
def isWhole : Bool := Symbol.required.all o.exports

/-- The number of cores that the device reports. -/
def reported : UInt32 := o.totalCores.getD 0

end Options

namespace Fleet

/-- The options of an instance. -/
def optionsOf (f : Fleet) (id : Nat) : Options := ((f.instance? id).map Instance.options).getD {}

/-- An instance is in this slot, and the slot yields it. -/
structure Keeps (f : Fleet) (id : Nat) (slot : Slot) : Prop where
  placed : f.cells[id]?.map Cell.slot = some slot
  owner : f.owner? slot = some id

namespace Keeps

variable {f f' : Fleet} {id : Nat} {slot : Slot}

lemma of_kept (h : f.Keeps id slot) (hk : Kept f f') : f'.Keeps id slot :=
  ⟨by rw [hk.slot, h.placed], by rw [hk.owner, h.owner]⟩

lemma exists_instance (h : f.Keeps id slot) :
    ∃ d, f.instance? id = some d ∧ d.options = f.optionsOf id := by
  obtain ⟨d, hd⟩ := f.exists_instance_of_owner h.owner
  exact ⟨d, hd, by simp [optionsOf, hd]⟩

lemma exported?_eq (h : f.Keeps id slot) (s : Symbol) :
    f.exported? id s.name =
      if (f.optionsOf id).exports s then some (.ofSymbol slot s) else none := by
  obtain ⟨c, hc, rfl⟩ := Option.map_eq_some_iff.1 h.placed
  have ho : f.optionsOf id = c.state.options := by simp [optionsOf, instance?, hc]
  rw [ho]
  simp only [exported?, hc, Symbol.ofName?_name, bind, Option.bind]
  by_cases hhidden : s.name ∈ c.state.options.hidden
  · simp [Options.exports, hhidden]
  · by_cases hs : s = .totalCores
    · subst hs
      rcases hn : c.state.options.totalCores <;> simp [Options.exports, hhidden, hn]
    · simp [Options.exports, hhidden, hs]

lemma through_eq (h : f.Keeps id slot) (calls : List Call) :
    f.through slot calls = calls.map (id, ·) := by
  rw [through, h.owner]

lemma isNull_createContext (h : f.Keeps id slot) :
    (f.createContext (.createContext slot)).1.isNull = (f.optionsOf id).failContext := by
  obtain ⟨d, hd, ho⟩ := h.exists_instance
  have hcontext : (Handle.encode slot .context).isNull = false :=
    Handle.isNull_encode (show Target.context.Fits by decide)
  simp only [Fleet.createContext, f.onSlot_eq h.owner hd, Instance.createContext, ho]
  rcases (f.optionsOf id).failContext
  · exact hcontext
  · rfl

lemma optionsOf_createContext (h : f.Keeps id slot) :
    (f.createContext (.createContext slot)).2.optionsOf id = f.optionsOf id := by
  obtain ⟨d, hd, ho⟩ := h.exists_instance
  simp only [Fleet.createContext, f.onSlot_eq h.owner hd]
  rw [optionsOf, f.instance?_put_self hd]
  exact ho

lemma reported_eq (h : f.Keeps id slot) {context : Handle}
    (hs : context.contextSlot? = some slot) :
    (f.totalCores .totalCores context).1 = (f.optionsOf id).reported := by
  obtain ⟨d, hd, ho⟩ := h.exists_instance
  simp only [Fleet.totalCores, hs, f.onSlot_eq h.owner hd, Instance.totalCores, ho]
  rfl

end Keeps

end Fleet

end Offload.Simulator
