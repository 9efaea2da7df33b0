import Mathlib.Data.List.Basic
import Mathlib.Tactic.Common
import Offload.Simulator.Entry

/-!
What a call leaves behind in a fleet: the journal of one instance grows, and no instance changes
its slot or its life.

A call through a slot reaches the instance that the slot yields; a call on a kernel reaches the
instance that issued the kernel's handle, if that instance has such a kernel.
-/

namespace Offload.Simulator

namespace Fleet

variable (f : Fleet)

/-- A fleet with another state of one instance. -/
def put (id : Nat) (d : Instance) : Fleet :=
  { f with cells := f.cells.modify id fun c => { c with state := d } }

@[simp] lemma size_put (id : Nat) (d : Instance) : (f.put id d).cells.size = f.cells.size := by
  simp [put]

lemma getElem?_put (id : Nat) (d : Instance) (j : Nat) :
    (f.put id d).cells[j]? =
      f.cells[j]?.map fun c => if id = j then { c with state := d } else c := by
  rw [put, Array.getElem?_modify]
  by_cases h : id = j <;> simp [h]

@[simp] lemma slot_put (id : Nat) (d : Instance) (j : Nat) :
    (f.put id d).cells[j]?.map Cell.slot = f.cells[j]?.map Cell.slot := by
  rw [getElem?_put, Option.map_map]
  congr 1
  funext c
  by_cases h : id = j <;> simp [h]

@[simp] lemma isLive_put (id : Nat) (d : Instance) (j : Nat) :
    (f.put id d).isLive j = f.isLive j := by
  rw [isLive, isLive, getElem?_put, Option.map_map]
  congr 2
  funext c
  by_cases h : id = j <;> simp [h]

@[simp] lemma owner?_put (id : Nat) (d : Instance) (slot : Slot) :
    (f.put id d).owner? slot = f.owner? slot := by
  unfold owner?
  congr 1
  funext j
  exact f.isLive_put id d j

lemma instance?_put_self {id : Nat} {d : Instance} (h : f.instance? id = some d)
    (d' : Instance) : (f.put id d').instance? id = some d' := by
  unfold instance? at h ⊢
  obtain ⟨c, hc, -⟩ := Option.map_eq_some_iff.1 h
  rw [getElem?_put, hc]
  simp

lemma instance?_put_of_ne {id j : Nat} (h : id ≠ j) (d : Instance) :
    (f.put id d).instance? j = f.instance? j := by
  unfold instance?
  rw [getElem?_put]
  simp [h]

lemma put_self {id : Nat} {d : Instance} (h : f.instance? id = some d) : f.put id d = f := by
  have hc : (f.put id d).cells = f.cells := by
    refine Array.ext (by simp) fun j hj hj' => ?_
    have hget := f.getElem?_put id d j
    rw [Array.getElem?_eq_getElem hj, Array.getElem?_eq_getElem hj'] at hget
    rw [Option.some.inj hget]
    by_cases hid : id = j
    · subst hid
      unfold instance? at h
      rw [Array.getElem?_eq_getElem hj'] at h
      simp [← Option.some.inj h]
    · simp [hid]
  cases f
  exact congrArg (fun cells => Fleet.mk cells _ _) hc

lemma onInstance_eq {β : Type} {id : Nat} {d : Instance} (h : f.instance? id = some d)
    (call : Instance → β × Instance) (otherwise : β) :
    f.onInstance id call otherwise = ((call d).1, f.put id (call d).2) := by
  obtain ⟨c, hc, rfl⟩ := Option.map_eq_some_iff.1 h
  obtain ⟨hlt, rfl⟩ := Array.getElem?_eq_some_iff.1 hc
  rw [onInstance_of_lt f hlt]
  simp only [put, Prod.mk.injEq, Fleet.mk.injEq, and_true, true_and]
  refine Array.ext (by simp) fun j hj hj' => ?_
  by_cases hid : id = j <;> simp [hid, Array.getElem_modify, Array.getElem_set]

lemma exists_instance_of_owner {slot : Slot} {id : Nat} (h : f.owner? slot = some id) :
    ∃ d, f.instance? id = some d := by
  have hl : f.isLive id = true := (Option.filter_eq_some_iff.1 h).2
  unfold isLive at hl
  rcases hc : f.cells[id]? with _ | c
  · simp [hc] at hl
  · exact ⟨c.state, by simp [instance?, hc]⟩

lemma onSlot_eq {β : Type} {slot : Slot} {id : Nat} {d : Instance}
    (ho : f.owner? slot = some id) (h : f.instance? id = some d)
    (call : Instance → β × Instance) (otherwise : β) :
    f.onSlot slot call otherwise = ((call d).1, f.put id (call d).2) := by
  rw [onSlot, ho]
  exact f.onInstance_eq h call otherwise

lemma onSlot_eq_otherwise {β : Type} {slot : Slot} (ho : f.owner? slot = none)
    (call : Instance → β × Instance) (otherwise : β) :
    f.onSlot slot call otherwise = (otherwise, f) := by
  rw [onSlot, ho]

end Fleet

namespace Fleet

/-! ### Installing, configuring and draining -/

variable (f : Fleet)

lemma getElem?_install (options : Options) :
    (f.install options).cells[f.cells.size]? = some ⟨.fresh options, f.nextSlot, true⟩ := by
  simp [install]

lemma owner?_install (options : Options) :
    (f.install options).owner? f.nextSlot = some f.cells.size := by
  have hlive : (f.install options).isLive f.cells.size = true := by
    rw [isLive, getElem?_install]
    rfl
  rw [owner?, Option.filter_eq_some_iff]
  exact ⟨by simp [install], hlive⟩

lemma configure_eq {id : Nat} {d : Instance} (h : f.instance? id = some d)
    (change : Options → Options) :
    f.configure id change = f.put id { d with options := change d.options } := by
  rw [configure, f.onInstance_eq h]

lemma drain_eq {id : Nat} {d : Instance} (h : f.instance? id = some d) :
    f.drain id = (d.journal, f.put id { d with journal := #[] }) := by
  rw [drain, f.onInstance_eq h]

end Fleet

/-! ### Handles -/

/-- The slot of a handle, whatever it names there. -/
def Handle.slot? (h : Handle) : Option Slot := h.decode?.map Prod.fst

lemma Handle.slot?_of_contextSlot? {h : Handle} {slot : Slot} (hs : h.contextSlot? = some slot) :
    h.slot? = some slot := by
  unfold contextSlot? at hs
  unfold slot?
  split at hs
  · rename_i hd
    simpa [hd] using hs
  · simp at hs

lemma Handle.slot?_of_kernelIndex? {h : Handle} {slot : Slot} {i : Nat}
    (hs : h.kernelIndex? = some (slot, i)) : h.slot? = some slot := by
  unfold kernelIndex? at hs
  unfold slot?
  split at hs
  · rename_i hd
    simp only [Option.some.injEq, Prod.mk.injEq] at hs
    simp [hd, hs.1]
  · simp at hs

lemma Handle.slot?_of_isNull {h : Handle} (hn : h.isNull = true) : h.slot? = none := by
  have hbits : h.bits = 0 := of_decide_eq_true hn
  simp [slot?, decode?, hbits]

@[simp] lemma Handle.contextSlot?_encode (slot : Slot) :
    (Handle.encode slot .context).contextSlot? = some slot := by
  rw [Handle.contextSlot?, Handle.decode?_encode (by decide)]

lemma Handle.kernelIndex?_encode (slot : Slot) {i : Nat} (hi : i < capacity) :
    (Handle.encode slot (.kernel i)).kernelIndex? = some (slot, i) := by
  have hfield : (Target.kernel i).field < indexSpan := by
    simp only [Target.field, capacity, indexSpan] at *
    omega
  rw [Handle.kernelIndex?, Handle.decode?_encode hfield]

/-! ### Received calls -/

/-- The calls among these that one instance received. -/
def callsTo (id : Nat) (got : List (Nat × Call)) : List Call :=
  got.filterMap fun x => if x.1 = id then some x.2 else none

@[simp] lemma callsTo_nil (id : Nat) : callsTo id [] = [] := rfl

@[simp] lemma callsTo_append (id : Nat) (a b : List (Nat × Call)) :
    callsTo id (a ++ b) = callsTo id a ++ callsTo id b := List.filterMap_append ..

lemma mem_callsTo {id : Nat} {got : List (Nat × Call)} {c : Call} :
    c ∈ callsTo id got ↔ (id, c) ∈ got := by
  simp only [callsTo, List.mem_filterMap]
  constructor
  · rintro ⟨⟨j, c'⟩, hmem, hc⟩
    by_cases hj : j = id
    · subst hj
      simp only [if_true, Option.some.injEq] at hc
      exact hc ▸ hmem
    · simp [hj] at hc
  · intro hmem
    exact ⟨(id, c), hmem, by simp⟩

lemma callsTo_map_self (id : Nat) (calls : List Call) :
    callsTo id (calls.map (id, ·)) = calls := by
  simp [callsTo, List.filterMap_map]

lemma callsTo_map_of_ne {id j : Nat} (h : id ≠ j) (calls : List Call) :
    callsTo j (calls.map (id, ·)) = [] := by
  simp [callsTo, List.filterMap_map, h]

/-! ### Calls of one instance -/

namespace Instance

variable {d d' d'' : Instance} {calls calls' : List Call}

/-- The names of the kernels, by their indices. -/
def names (d : Instance) : List String := d.kernels.toList.map Loaded.name

/-- All that happens to an instance on the way to another is that it receives these calls. -/
structure Received (d d' : Instance) (calls : List Call) : Prop where
  journal : d'.journal.toList = d.journal.toList ++ calls
  names : d.names <+: d'.names
  room : d.kernels.size ≤ capacity → d'.kernels.size ≤ capacity
  idle : calls = [] → d' = d

lemma Received.refl (d : Instance) : d.Received d [] :=
  ⟨by simp, List.prefix_refl _, id, fun _ => rfl⟩

lemma Received.trans (h : d.Received d' calls) (h' : d'.Received d'' calls') :
    d.Received d'' (calls ++ calls') where
  journal := by rw [h'.journal, h.journal, List.append_assoc]
  names := h.names.trans h'.names
  room hd := h'.room (h.room hd)
  idle hc := by
    obtain ⟨rfl, rfl⟩ := List.append_eq_nil_iff.1 hc
    rw [h'.idle rfl, h.idle rfl]

/-- A call that is recorded and leaves the names of the kernels as they are. -/
lemma received_of_names_eq {c : Call} (hj : d'.journal = d.journal.push c)
    (hn : d'.names = d.names) : d.Received d' [c] where
  journal := by simp [hj]
  names := hn ▸ List.prefix_refl _
  room hd := by
    have hsize := congrArg List.length hn
    simp only [Instance.names, List.length_map, Array.length_toList] at hsize
    omega
  idle hc := by simp at hc

lemma received_record (d : Instance) (c : Call) : d.Received (d.record c) [c] :=
  received_of_names_eq rfl rfl

lemma names_modify (d : Instance) (journal : Array Call) (i : Nat) (queue : Loaded → Array Pushed) :
    ({ d with
      journal
      kernels := d.kernels.modify i fun k => { k with queue := queue k } } : Instance).names =
      d.names := by
  refine List.ext_getElem (by simp [names]) fun j h1 h2 => ?_
  by_cases hij : i = j <;> simp [names, hij]

lemma received_createKernel (d : Instance) (code name : List UInt8) :
    d.Received (d.createKernel code name).2
      [.createKernel (Text.ofUtf8 (upToZero name)) (upToZero code).length] := by
  unfold createKernel
  simp only
  split
  · exact received_record d _
  · rename_i hfits
    simp only [record, not_or, Nat.not_le] at hfits
    refine ⟨by simp [record], by simp [names, record], fun _ => ?_, by simp⟩
    simp only [record, Array.size_push]
    omega

lemma getElem?_createKernel {code name : List UInt8} {i : Nat}
    (h : (d.createKernel code name).1 = some i) :
    i < capacity ∧
      (d.createKernel code name).2.kernels[i]? = some ⟨Text.ofUtf8 (upToZero name), #[]⟩ := by
  unfold createKernel at h ⊢
  simp only at h ⊢
  split at h
  · simp at h
  · rename_i hfits
    rw [if_neg hfits]
    obtain rfl := Option.some.inj h
    simp only [not_or, Nat.not_le] at hfits
    exact ⟨hfits.2.2, by simp⟩

lemma clearArgs_of_none {i : Nat} (hk : d.kernels[i]? = none) : d.clearArgs i = (false, d) := by
  rw [clearArgs, hk]

lemma push_of_none {i : Nat} (hk : d.kernels[i]? = none) (arg : Pushed) :
    d.push i arg = (false, d) := by
  rw [push, hk]

lemma execute_of_none {i : Nat} (hk : d.kernels[i]? = none) (dim : Int32) :
    d.execute i dim = (false, d) := by
  rw [execute, hk]

variable {i : Nat} {k : Loaded}

lemma received_clearArgs (hk : d.kernels[i]? = some k) :
    d.Received (d.clearArgs i).2 [.clearArgs k.name] := by
  rw [clearArgs, hk]
  by_cases hf : d.options.failClear = true
  · simp only [record, hf, if_true]
    exact received_record d _
  · simp only [record, hf, Bool.false_eq_true, if_false]
    exact received_of_names_eq rfl (d.names_modify _ i fun _ => #[])

lemma received_push (hk : d.kernels[i]? = some k) (arg : Pushed) :
    d.Received (d.push i arg).2 [.push k.name arg] := by
  rw [push, hk]
  by_cases hf : d.options.failPushAt = some k.queue.size
  · simp only [record, hf, if_true]
    exact received_record d _
  · simp only [record, hf, if_false]
    exact received_of_names_eq rfl (d.names_modify _ i fun k => k.queue.push arg)

lemma received_execute (hk : d.kernels[i]? = some k) (dim : Int32) :
    d.Received (d.execute i dim).2 [.execute k.name dim k.queue.toList] := by
  rw [execute, hk]
  exact received_record d _

lemma getElem?_clearArgs (hk : d.kernels[i]? = some k) (hc : (d.clearArgs i).1 = true) :
    (d.clearArgs i).2.kernels[i]? = some ⟨k.name, #[]⟩ := by
  rw [clearArgs, hk] at hc ⊢
  by_cases hf : d.options.failClear = true
  · simp [record, hf] at hc
  · simp [record, hf, Array.getElem?_modify, hk]

lemma getElem?_push (hk : d.kernels[i]? = some k) {arg : Pushed} (hc : (d.push i arg).1 = true) :
    (d.push i arg).2.kernels[i]? = some ⟨k.name, k.queue.push arg⟩ := by
  rw [push, hk] at hc ⊢
  by_cases hf : d.options.failPushAt = some k.queue.size
  · simp [record, hf] at hc
  · simp [record, hf, Array.getElem?_modify, hk]

end Instance

/-! ### Calls of a fleet -/

namespace Fleet

/-- No instance changes its slot or its life, loses a kernel or gets more than it can hold. -/
structure Kept (f f' : Fleet) : Prop where
  owners : f'.owners = f.owners
  slot : ∀ id : Nat, f'.cells[id]?.map Cell.slot = f.cells[id]?.map Cell.slot
  live : ∀ id, f'.isLive id = f.isLive id
  kernels : ∀ id d, f.instance? id = some d → ∃ d', f'.instance? id = some d' ∧
    d.names <+: d'.names ∧ (d.kernels.size ≤ capacity → d'.kernels.size ≤ capacity)

/-- All that happens to the instances of a fleet on the way to another is that they receive these
calls, each given with the number of its instance. -/
structure Received (f f' : Fleet) (got : List (Nat × Call)) : Prop extends Kept f f' where
  known : ∀ x ∈ got, x.1 < f.cells.size
  calls : ∀ id d, f.instance? id = some d →
    ∃ d', f'.instance? id = some d' ∧ d.Received d' (callsTo id got)

variable {f f' f'' : Fleet} {got got' : List (Nat × Call)}

lemma journal_eq {id : Nat} {d : Instance} (h : f.instance? id = some d) :
    f.journal id = d.journal := by
  simp [journal, h]

lemma instance?_eq_none_iff {id : Nat} : f.instance? id = none ↔ f.cells.size ≤ id := by
  simp [instance?]

lemma callsTo_eq_nil_of_known (h : ∀ x ∈ got, x.1 < f.cells.size) {id : Nat}
    (hid : f.cells.size ≤ id) : callsTo id got = [] := by
  refine List.filterMap_eq_nil_iff.2 fun x hx => ?_
  have hlt := h x hx
  rw [if_neg (by omega)]

namespace Kept

lemma refl (f : Fleet) : Kept f f :=
  ⟨rfl, fun _ => rfl, fun _ => rfl, fun _ d hd => ⟨d, hd, List.prefix_refl _, fun hr => hr⟩⟩

lemma trans (h : Kept f f') (h' : Kept f' f'') : Kept f f'' where
  owners := h'.owners.trans h.owners
  slot id := (h'.slot id).trans (h.slot id)
  live id := (h'.live id).trans (h.live id)
  kernels id d hd := by
    obtain ⟨d', hd', hn, hr⟩ := h.kernels id d hd
    obtain ⟨d'', hd'', hn', hr'⟩ := h'.kernels id d' hd'
    exact ⟨d'', hd'', hn.trans hn', fun hd => hr' (hr hd)⟩

lemma size_eq (h : Kept f f') : f'.cells.size = f.cells.size := by
  have hnew : f'.cells[f.cells.size]? = none := by simpa using h.slot f.cells.size
  have hold : f.cells[f'.cells.size]? = none := by simpa using (h.slot f'.cells.size).symm
  rw [Array.getElem?_eq_none_iff] at hnew hold
  omega

lemma owner (h : Kept f f') (slot : Slot) : f'.owner? slot = f.owner? slot := by
  unfold owner?
  rw [h.owners]
  congr 1
  funext id
  exact h.live id

end Kept

/-- A fleet that another may come to: instances keep their slots and their kernels, and a slot
may pass on to a new instance but not back to an old one. -/
structure Later (f f' : Fleet) : Prop where
  slot : ∀ (id : Nat) slot,
    f.cells[id]?.map Cell.slot = some slot → f'.cells[id]?.map Cell.slot = some slot
  owner : ∀ id slot, id < f.cells.size → f'.owner? slot = some id → f.owner? slot = some id
  names : ∀ id d, f.instance? id = some d → ∃ d', f'.instance? id = some d' ∧ d.names <+: d'.names

lemma Kept.later (h : Kept f f') : Later f f' where
  slot id slot hs := by rw [h.slot, hs]
  owner id slot _ ho := by rwa [h.owner] at ho
  names id d hd := by
    obtain ⟨d', hd', hn, -⟩ := h.kernels id d hd
    exact ⟨d', hd', hn⟩

namespace Later

lemma refl (f : Fleet) : Later f f := (Kept.refl f).later

lemma size_le (h : Later f f') : f.cells.size ≤ f'.cells.size := by
  by_contra hlt
  have hid : f'.cells.size < f.cells.size := by omega
  have hs := h.slot f'.cells.size (f.cells[f'.cells.size]).slot (by simp [hid])
  simp at hs

lemma trans (h : Later f f') (h' : Later f' f'') : Later f f'' where
  slot id slot hs := h'.slot id slot (h.slot id slot hs)
  owner id slot hlt ho :=
    h.owner id slot hlt (h'.owner id slot (Nat.lt_of_lt_of_le hlt h.size_le) ho)
  names id d hd := by
    obtain ⟨d', hd', hn⟩ := h.names id d hd
    obtain ⟨d'', hd'', hn'⟩ := h'.names id d' hd'
    exact ⟨d'', hd'', hn.trans hn'⟩

end Later

lemma kept_put {id : Nat} {d d' : Instance} (h : f.instance? id = some d)
    (hn : d.names <+: d'.names) (hr : d.kernels.size ≤ capacity → d'.kernels.size ≤ capacity) :
    Kept f (f.put id d') where
  owners := rfl
  slot := f.slot_put id d'
  live := f.isLive_put id d'
  kernels j e he := by
    by_cases hid : id = j
    · subst hid
      obtain rfl := Option.some.inj (h.symm.trans he)
      exact ⟨d', f.instance?_put_self h d', hn, hr⟩
    · exact ⟨e, by rw [f.instance?_put_of_ne hid, he], List.prefix_refl _, fun hr => hr⟩

/-- What is done to an instance apart from its kernels keeps them. -/
lemma kept_onInstance {β : Type} {call : Instance → β × Instance}
    (hk : ∀ d, (call d).2.kernels = d.kernels) (id : Nat) (otherwise : β) :
    Kept f (f.onInstance id call otherwise).2 := by
  rcases hd : f.instance? id with _ | d
  · have hge : ¬ id < f.cells.size := Nat.not_lt.2 (instance?_eq_none_iff.1 hd)
    rw [onInstance, dif_neg hge]
    exact .refl f
  · rw [f.onInstance_eq hd]
    have hnames : (call d).2.names = d.names := by rw [Instance.names, Instance.names, hk d]
    exact kept_put hd (hnames ▸ List.prefix_refl _) fun hr => hk d ▸ hr

lemma kept_configure (f : Fleet) (id : Nat) (change : Options → Options) :
    Kept f (f.configure id change) :=
  kept_onInstance (fun _ => rfl) id ()

lemma kept_drain (f : Fleet) (id : Nat) : Kept f (f.drain id).2 :=
  kept_onInstance (fun _ => rfl) id #[]

namespace Received

lemma refl (f : Fleet) : Received f f [] where
  toKept := .refl f
  known := by simp
  calls _ d hd := ⟨d, hd, .refl d⟩

lemma trans (h : Received f f' got) (h' : Received f' f'' got') :
    Received f f'' (got ++ got') where
  toKept := h.toKept.trans h'.toKept
  known x hx := by
    rcases List.mem_append.1 hx with hx | hx
    · exact h.known x hx
    · exact h.size_eq ▸ h'.known x hx
  calls id d hd := by
    obtain ⟨d', hd', hrec⟩ := h.calls id d hd
    obtain ⟨d'', hd'', hrec'⟩ := h'.calls id d' hd'
    exact ⟨d'', hd'', callsTo_append id got got' ▸ hrec.trans hrec'⟩

lemma journal (h : Received f f' got) (id : Nat) :
    (f'.journal id).toList = (f.journal id).toList ++ callsTo id got := by
  rcases hd : f.instance? id with _ | d
  · have hsize := instance?_eq_none_iff.1 hd
    have hd' : f'.instance? id = none := instance?_eq_none_iff.2 (h.size_eq ▸ hsize)
    simp [Fleet.journal, hd, hd', callsTo_eq_nil_of_known h.known hsize]
  · obtain ⟨d', hd', hrec⟩ := h.calls id d hd
    rw [journal_eq hd, journal_eq hd', hrec.journal]

/-- An instance that received nothing is as it was. -/
lemma instance?_eq (h : Received f f' got) {id : Nat} (hid : callsTo id got = []) :
    f'.instance? id = f.instance? id := by
  rcases hd : f.instance? id with _ | d
  · exact instance?_eq_none_iff.2 (h.size_eq ▸ instance?_eq_none_iff.1 hd)
  · obtain ⟨d', hd', hrec⟩ := h.calls id d hd
    rw [hd', hrec.idle hid]

end Received

lemma received_put {id : Nat} {d d' : Instance} {calls : List Call} (h : f.instance? id = some d)
    (hd' : d.Received d' calls) : Received f (f.put id d') (calls.map (id, ·)) where
  toKept := kept_put h hd'.names hd'.room
  known x hx := by
    obtain ⟨c, -, rfl⟩ := List.mem_map.1 hx
    by_contra hge
    rw [instance?_eq_none_iff.2 (Nat.le_of_not_lt hge)] at h
    simp at h
  calls j e he := by
    by_cases hid : id = j
    · subst hid
      rw [h] at he
      obtain rfl := Option.some.inj he
      exact ⟨d', f.instance?_put_self h d', by rwa [callsTo_map_self]⟩
    · exact ⟨e, by rw [f.instance?_put_of_ne hid, he], by
        rw [callsTo_map_of_ne hid]
        exact .refl e⟩

/-- Calls that go through a slot, with the number of the instance they reach. -/
def through (f : Fleet) (slot : Slot) (calls : List Call) : List (Nat × Call) :=
  match f.owner? slot with
  | some id => calls.map (id, ·)
  | none => []

lemma mem_through {slot : Slot} {calls : List Call} {x : Nat × Call}
    (hx : x ∈ f.through slot calls) : f.owner? slot = some x.1 ∧ x.2 ∈ calls := by
  unfold through at hx
  split at hx
  · rename_i id ho
    obtain ⟨c, hc, rfl⟩ := List.mem_map.1 hx
    exact ⟨ho, hc⟩
  · simp at hx

lemma through_nil (slot : Slot) : f.through slot [] = [] := by
  unfold through
  cases f.owner? slot <;> rfl

/-- Calls through one slot, one after another. -/
lemma Received.through_trans {slot : Slot} {calls calls' : List Call}
    (h : Received f f' (f.through slot calls)) (h' : Received f' f'' (f'.through slot calls')) :
    Received f f'' (f.through slot (calls ++ calls')) := by
  have heq : f'.through slot calls' = f.through slot calls' := by
    unfold through
    rw [h.owner]
  have hsplit :
      f.through slot (calls ++ calls') = f.through slot calls ++ f.through slot calls' := by
    unfold through
    cases f.owner? slot <;> simp
  rw [hsplit, ← heq]
  exact h.trans h'

lemma received_onSlot {β : Type} {slot : Slot} {call : Instance → β × Instance} {c : Call}
    (hcall : ∀ d : Instance, d.Received (call d).2 [c]) (otherwise : β) :
    Received f (f.onSlot slot call otherwise).2 (f.through slot [c]) := by
  unfold through
  rcases ho : f.owner? slot with _ | id
  · rw [f.onSlot_eq_otherwise ho]
    exact .refl f
  · obtain ⟨d, hd⟩ := f.exists_instance_of_owner ho
    rw [f.onSlot_eq ho hd]
    exact received_put hd (hcall d)

/-! ### Calls through a slot -/

variable (slot : Slot)

lemma received_createContext :
    Received f (f.createContext (.createContext slot)).2 (f.through slot [.createContext]) :=
  received_onSlot (fun d => d.received_record _) _

lemma received_registerHeap (base size : UInt64) :
    Received f (f.registerHeap (.registerHeap slot) base size).2
      (f.through slot [.registerHeap base size]) :=
  received_onSlot (fun d => d.received_record _) _

lemma received_totalCores {h : Handle} (hs : h.contextSlot? = some slot) :
    Received f (f.totalCores .totalCores h).2 (f.through slot [.totalCores]) := by
  unfold totalCores
  rw [hs]
  exact received_onSlot (fun d => d.received_record _) _

lemma received_createKernel {h : Handle} (hs : h.contextSlot? = some slot)
    (code name : List UInt8) :
    Received f (f.createKernel .createKernel h (some code) (some name)).2
      (f.through slot [.createKernel (Text.ofUtf8 (upToZero name)) (upToZero code).length]) := by
  unfold createKernel
  rw [hs]
  refine received_onSlot (fun d => ?_) _
  exact d.received_createKernel code name

lemma isNull_createContext :
    (f.createContext (.createContext slot)).1.isNull = false →
      (f.createContext (.createContext slot)).1 = .encode slot .context := by
  unfold createContext
  rcases ho : f.owner? slot with _ | id
  · simp [f.onSlot_eq_otherwise ho, Handle.isNull, Handle.null]
  · obtain ⟨d, hd⟩ := f.exists_instance_of_owner ho
    simp only [f.onSlot_eq ho hd]
    split
    · simp
    · simp [Handle.isNull, Handle.null]

/-! ### Calls on a kernel -/

/-- The kernel behind a handle, and the instance that has it. -/
def behind? (f : Fleet) (h : Handle) : Option (Nat × Loaded) := do
  let (slot, i) ← h.kernelIndex?
  let id ← f.owner? slot
  let d ← f.instance? id
  let k ← d.kernels[i]?
  return (id, k)

variable {h : Handle} {id : Nat} {k : Loaded}

lemma behind?_eq_some_iff : f.behind? h = some (id, k) ↔ ∃ slot i d,
    h.kernelIndex? = some (slot, i) ∧ f.owner? slot = some id ∧ f.instance? id = some d ∧
      d.kernels[i]? = some k := by
  simp only [behind?, bind, Option.bind_eq_some_iff, pure, Option.some.injEq, Prod.mk.injEq]
  constructor
  · rintro ⟨⟨slot, i⟩, hi, id', ho, d, hd, k', hk, rfl, rfl⟩
    exact ⟨slot, i, d, hi, ho, hd, hk⟩
  · rintro ⟨slot, i, d, hi, ho, hd, hk⟩
    exact ⟨(slot, i), hi, id, ho, d, hd, k, hk, rfl, rfl⟩

lemma behind?_put {slot : Slot} {i : Nat} {d d' : Instance} {k' : Loaded}
    (hi : h.kernelIndex? = some (slot, i)) (ho : f.owner? slot = some id)
    (hd : f.instance? id = some d) (hk : d'.kernels[i]? = some k') :
    (f.put id d').behind? h = some (id, k') :=
  behind?_eq_some_iff.2 ⟨slot, i, d', hi, by rw [owner?_put, ho], f.instance?_put_self hd d', hk⟩

/-- A kernel that is created is the one behind the handle that comes back. -/
lemma behind?_createKernel {slot : Slot} {context : Handle} (hs : context.contextSlot? = some slot)
    {code name : List UInt8}
    (hn : (f.createKernel .createKernel context (some code) (some name)).1.isNull = false) :
    ∃ id i, f.owner? slot = some id ∧
      (f.createKernel .createKernel context (some code) (some name)).1.kernelIndex? =
        some (slot, i) ∧
      (f.createKernel .createKernel context (some code) (some name)).2.behind?
        (f.createKernel .createKernel context (some code) (some name)).1 =
          some (id, ⟨Text.ofUtf8 (upToZero name), #[]⟩) := by
  unfold createKernel at hn ⊢
  simp only [hs] at hn ⊢
  rcases ho : f.owner? slot with _ | id
  · simp [f.onSlot_eq_otherwise ho, Handle.isNull, Handle.null] at hn
  obtain ⟨d, hd⟩ := f.exists_instance_of_owner ho
  rw [f.onSlot_eq ho hd] at hn ⊢
  rcases hc : (d.createKernel code name).1 with _ | i
  · simp [hc, Handle.isNull, Handle.null] at hn
  · obtain ⟨hlt, hk⟩ := Instance.getElem?_createKernel hc
    have hi := Handle.kernelIndex?_encode slot hlt
    exact ⟨id, i, rfl, hi, behind?_put hi ho hd hk⟩

/-- A call on a kernel that is not there fails and changes nothing. -/
lemma onSlot_of_behind?_eq_none {slot : Slot} {i : Nat} (hb : f.behind? h = none)
    (hi : h.kernelIndex? = some (slot, i)) {call : Instance → Bool × Instance}
    (hcall : ∀ d, d.kernels[i]? = none → call d = (false, d)) :
    f.onSlot slot call false = (false, f) := by
  rcases ho : f.owner? slot with _ | id
  · exact f.onSlot_eq_otherwise ho _ _
  obtain ⟨d, hd⟩ := f.exists_instance_of_owner ho
  rw [f.onSlot_eq ho hd]
  rcases hk : d.kernels[i]? with _ | k
  · rw [hcall d hk, f.put_self hd]
  · rw [behind?_eq_some_iff.2 ⟨slot, i, d, hi, ho, hd, hk⟩] at hb
    simp at hb

lemma clearArgs_of_behind?_eq_none (hb : f.behind? h = none) :
    f.clearArgs .clearArgs h = (false, f) := by
  unfold clearArgs
  rcases hi : h.kernelIndex? with _ | ⟨slot, i⟩
  · rfl
  · exact onSlot_of_behind?_eq_none hb hi fun _ hk => Instance.clearArgs_of_none hk

/-- Clearing is recorded, and empties the queue if it succeeds. -/
lemma received_clearArgs (hb : f.behind? h = some (id, k)) :
    Received f (f.clearArgs .clearArgs h).2 [(id, .clearArgs k.name)] ∧
      ((f.clearArgs .clearArgs h).1 = true →
        (f.clearArgs .clearArgs h).2.behind? h = some (id, ⟨k.name, #[]⟩)) := by
  obtain ⟨slot, i, d, hi, ho, hd, hk⟩ := behind?_eq_some_iff.1 hb
  have heq : f.clearArgs .clearArgs h = ((d.clearArgs i).1, f.put id (d.clearArgs i).2) := by
    simp only [clearArgs, hi]
    exact f.onSlot_eq ho hd _ _
  rw [heq]
  exact ⟨received_put hd (Instance.received_clearArgs hk),
    fun hc => behind?_put hi ho hd (Instance.getElem?_clearArgs hk hc)⟩

/-- A push is recorded, and lengthens the queue if it succeeds. -/
lemma received_push (hb : f.behind? h = some (id, k)) (arg : Pushed) :
    Received f (f.push (.push arg.kind) h arg).2 [(id, .push k.name arg)] ∧
      ((f.push (.push arg.kind) h arg).1 = true →
        (f.push (.push arg.kind) h arg).2.behind? h = some (id, ⟨k.name, k.queue.push arg⟩)) := by
  obtain ⟨slot, i, d, hi, ho, hd, hk⟩ := behind?_eq_some_iff.1 hb
  have heq : f.push (.push arg.kind) h arg = ((d.push i arg).1, f.put id (d.push i arg).2) := by
    simp only [push, hi, if_true]
    exact f.onSlot_eq ho hd _ _
  rw [heq]
  exact ⟨received_put hd (Instance.received_push hk arg),
    fun hc => behind?_put hi ho hd (Instance.getElem?_push hk hc)⟩

/-- An execution is recorded with all that is queued. -/
lemma received_execute (hb : f.behind? h = some (id, k)) (dim : Int32) :
    Received f (f.execute .execute h dim).2 [(id, .execute k.name dim k.queue.toList)] := by
  obtain ⟨slot, i, d, hi, ho, hd, hk⟩ := behind?_eq_some_iff.1 hb
  have heq : f.execute .execute h dim = ((d.execute i dim).1, f.put id (d.execute i dim).2) := by
    simp only [execute, hi]
    exact f.onSlot_eq ho hd _ _
  rw [heq]
  exact received_put hd (Instance.received_execute hk dim)

end Fleet

end Offload.Simulator
