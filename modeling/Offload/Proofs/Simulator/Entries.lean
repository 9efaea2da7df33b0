import Offload.Proofs.Simulator.Calls

/-!
The entry points, called with anything at all.

Whatever a caller hands over, nothing happens but calls through one slot: the one that the entry
point is for, or the one that the handle is of.
-/

namespace Offload.Simulator

/-! ### Calls of one instance -/

namespace Instance

variable (d : Instance) (i : Nat)

lemma exists_received_clearArgs : ∃ calls, d.Received (d.clearArgs i).2 calls := by
  rcases hk : d.kernels[i]? with _ | k
  · rw [clearArgs_of_none hk]
    exact ⟨[], .refl d⟩
  · exact ⟨_, received_clearArgs hk⟩

lemma exists_received_push (arg : Pushed) : ∃ calls, d.Received (d.push i arg).2 calls := by
  rcases hk : d.kernels[i]? with _ | k
  · rw [push_of_none hk]
    exact ⟨[], .refl d⟩
  · exact ⟨_, received_push hk arg⟩

lemma exists_received_execute (dim : Int32) : ∃ calls, d.Received (d.execute i dim).2 calls := by
  rcases hk : d.kernels[i]? with _ | k
  · rw [execute_of_none hk]
    exact ⟨[], .refl d⟩
  · exact ⟨_, received_execute hk dim⟩

end Instance

/-! ### Entry points -/

/-- The slot that an entry point is for, if it is for one. -/
def EntryPoint.slot? : EntryPoint → Option Slot
  | .createContext slot | .registerHeap slot => some slot
  | _ => none

namespace Fleet

/-- All that happens on the way from one fleet to another is calls through this slot. -/
def OnlyThrough (slot : Slot) (f f' : Fleet) : Prop :=
  ∃ calls, Received f f' (f.through slot calls)

variable {f : Fleet} {slot : Slot} {p : EntryPoint} {h : Handle}

lemma OnlyThrough.refl (slot : Slot) (f : Fleet) : OnlyThrough slot f f :=
  ⟨[], by rw [through_nil]; exact .refl f⟩

lemma onlyThrough_onSlot {β : Type} {slot' : Slot} {call : Instance → β × Instance}
    {otherwise : β} (hs : slot' = slot)
    (hcall : ∀ d : Instance, ∃ calls, d.Received (call d).2 calls) :
    OnlyThrough slot f (f.onSlot slot' call otherwise).2 := by
  subst hs
  rcases ho : f.owner? slot' with _ | id
  · rw [f.onSlot_eq_otherwise ho]
    exact .refl slot' f
  · obtain ⟨d, hd⟩ := f.exists_instance_of_owner ho
    obtain ⟨calls, hrec⟩ := hcall d
    rw [f.onSlot_eq ho hd]
    refine ⟨calls, ?_⟩
    rw [through, ho]
    exact received_put hd hrec

lemma onlyThrough_createContext (hp : ∀ s ∈ p.slot?, s = slot) :
    OnlyThrough slot f (f.createContext p).2 := by
  cases p with
  | createContext slot' =>
    exact onlyThrough_onSlot (hp slot' rfl) fun d => ⟨_, d.received_record _⟩
  | _ => exact .refl slot f

lemma onlyThrough_registerHeap (hp : ∀ s ∈ p.slot?, s = slot) (base size : UInt64) :
    OnlyThrough slot f (f.registerHeap p base size).2 := by
  cases p with
  | registerHeap slot' =>
    exact onlyThrough_onSlot (hp slot' rfl) fun d => ⟨_, d.received_record _⟩
  | _ => exact .refl slot f

lemma onlyThrough_totalCores (hh : ∀ s ∈ h.slot?, s = slot) :
    OnlyThrough slot f (f.totalCores p h).2 := by
  unfold totalCores
  split
  · rename_i slot' hs
    exact onlyThrough_onSlot (hh slot' (Handle.slot?_of_contextSlot? hs)) fun d =>
      ⟨_, d.received_record _⟩
  · exact .refl slot f

lemma onlyThrough_createKernel (hh : ∀ s ∈ h.slot?, s = slot) (code name : Option (List UInt8)) :
    OnlyThrough slot f (f.createKernel p h code name).2 := by
  unfold createKernel
  split
  · rename_i slot' code' name' hs
    exact onlyThrough_onSlot (hh slot' (Handle.slot?_of_contextSlot? hs)) fun d =>
      ⟨_, d.received_createKernel code' name'⟩
  · exact .refl slot f

/-- A kernel is created in a context, from code and a name, or not at all. -/
lemma createKernel_cases (f : Fleet) (h : Handle) (code name : Option (List UInt8)) :
    f.createKernel .createKernel h code name = (.null, f) ∨
      ∃ slot code' name', h.contextSlot? = some slot ∧ code = some code' ∧ name = some name' := by
  rcases hs : h.contextSlot? with _ | slot
  · exact .inl (by simp [createKernel, hs])
  rcases code with _ | code'
  · exact .inl (by simp [createKernel])
  rcases name with _ | name'
  · exact .inl (by simp [createKernel])
  exact .inr ⟨slot, code', name', rfl, rfl, rfl⟩

lemma onlyThrough_clearArgs (hh : ∀ s ∈ h.slot?, s = slot) :
    OnlyThrough slot f (f.clearArgs p h).2 := by
  unfold clearArgs
  split
  · rename_i slot' i hi
    exact onlyThrough_onSlot (hh slot' (Handle.slot?_of_kernelIndex? hi)) fun d =>
      d.exists_received_clearArgs i
  · exact .refl slot f

lemma onlyThrough_push (hh : ∀ s ∈ h.slot?, s = slot) (arg : Pushed) :
    OnlyThrough slot f (f.push p h arg).2 := by
  unfold push
  split
  · rename_i kind slot' i hi
    split
    · exact onlyThrough_onSlot (hh slot' (Handle.slot?_of_kernelIndex? hi)) fun d =>
        d.exists_received_push i arg
    · exact .refl slot f
  · exact .refl slot f

lemma onlyThrough_execute (hh : ∀ s ∈ h.slot?, s = slot) (dim : Int32) :
    OnlyThrough slot f (f.execute p h dim).2 := by
  unfold execute
  split
  · rename_i slot' i hi
    exact onlyThrough_onSlot (hh slot' (Handle.slot?_of_kernelIndex? hi)) fun d =>
      d.exists_received_execute i dim
  · exact .refl slot f

end Fleet

end Offload.Simulator
