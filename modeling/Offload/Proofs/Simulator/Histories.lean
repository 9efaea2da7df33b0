import Offload.Proofs.Simulator.Kernels

/-!
Histories of a fleet: installations, ends, settings and calls of every entry point, with any
handle, in any order.

Whatever happened, the kernels that an instance has are the ones whose creation succeeded, and the
handles that came back count them up. The invariant is that the handles issued so far are those of
the instance's slot with the indices below the number of its kernels; only a creation in a context
of the instance adds one, and the slot of an instance never changes.
-/

namespace Offload.Simulator

namespace Fleet

/-- Anything that can be done to a fleet. -/
inductive Deed
  | install (options : Options)
  | retire (id : Nat)
  | configure (id : Nat) (change : Options → Options)
  | drain (id : Nat)
  | createContext (slot : Slot)
  | registerHeap (slot : Slot) (base size : UInt64)
  | totalCores (context : Handle)
  | createKernel (context : Handle) (code name : Option (List UInt8))
  | callKernel (kernel : Handle) (call : KernelCall)

def perform (f : Fleet) : Deed → Fleet
  | .install options => f.install options
  | .retire id => f.retire id
  | .configure id change => f.configure id change
  | .drain id => (f.drain id).2
  | .createContext slot => (f.createContext (.createContext slot)).2
  | .registerHeap slot base size => (f.registerHeap (.registerHeap slot) base size).2
  | .totalCores context => (f.totalCores .totalCores context).2
  | .createKernel context code name => (f.createKernel .createKernel context code name).2
  | .callKernel kernel call => (f.callKernel kernel call).2

def performAll (f : Fleet) (history : List Deed) : Fleet := history.foldl perform f

/-- The owner of the slot that a context handle is of. -/
def host? (f : Fleet) (context : Handle) : Option Nat := context.contextSlot?.bind f.owner?

/-- The handle of the kernel that is created in an instance, if one is. -/
def created (f : Fleet) (id : Nat) : Deed → List Handle
  | .createKernel context code name =>
    let h := (f.createKernel .createKernel context code name).1
    if f.host? context = some id ∧ h.isNull = false then [h] else []
  | _ => []

/-- The handles of all kernels created in an instance, in order. -/
def createdAll (f : Fleet) (id : Nat) : List Deed → List Handle
  | [] => []
  | deed :: history => f.created id deed ++ (f.perform deed).createdAll id history

variable {f f' : Fleet} {h : Handle} {slot : Slot} {id : Nat}

@[simp] lemma performAll_concat (f : Fleet) (history : List Deed) (deed : Deed) :
    f.performAll (history ++ [deed]) = (f.performAll history).perform deed := by
  simp [performAll, List.foldl_append]

lemma createdAll_concat (f : Fleet) (id : Nat) (history : List Deed) (deed : Deed) :
    f.createdAll id (history ++ [deed]) =
      f.createdAll id history ++ (f.performAll history).created id deed := by
  induction history generalizing f with
  | nil => simp [createdAll, performAll]
  | cons first history ih =>
    rw [List.cons_append, createdAll, createdAll, ih, List.append_assoc]
    rfl

/-! ### What every history keeps -/

lemma OnlyThrough.kept (h : OnlyThrough slot f f') : Kept f f' := by
  obtain ⟨calls, hrec⟩ := h
  exact hrec.toKept

/-- The slot of a handle, or any slot if it has none. -/
lemma eq_getD_slot? (h : Handle) : ∀ s ∈ h.slot?, s = h.slot?.getD 0 := by
  intro s hs
  rw [Option.mem_def.1 hs, Option.getD_some]

/-- Whatever is done but installing and ending keeps slots, lives and kernels. -/
lemma perform_cases (f : Fleet) (deed : Deed) :
    (∃ options, deed = .install options) ∨ (∃ id, deed = .retire id) ∨ Kept f (f.perform deed) := by
  cases deed with
  | install options => exact .inl ⟨options, rfl⟩
  | retire id => exact .inr (.inl ⟨id, rfl⟩)
  | configure id change => exact .inr (.inr (f.kept_configure id change))
  | drain id => exact .inr (.inr (f.kept_drain id))
  | createContext slot => exact .inr (.inr (received_createContext slot).toKept)
  | registerHeap slot base size => exact .inr (.inr (received_registerHeap slot base size).toKept)
  | totalCores context =>
    exact .inr (.inr (onlyThrough_totalCores (eq_getD_slot? context)).kept)
  | createKernel context code name =>
    exact .inr (.inr (onlyThrough_createKernel (eq_getD_slot? context) code name).kept)
  | callKernel kernel call =>
    exact .inr (.inr (onlyThrough_callKernel (eq_getD_slot? kernel) call).kept)

lemma Tracked.perform (ht : f.Tracked) (deed : Deed) : (f.perform deed).Tracked := by
  rcases f.perform_cases deed with ⟨options, rfl⟩ | ⟨id, rfl⟩ | hk
  · exact ht.install options
  · exact ht.retire id
  · exact hk.tracked ht

lemma Bounded.perform (hb : f.Bounded) (deed : Deed) : (f.perform deed).Bounded := by
  rcases f.perform_cases deed with ⟨options, rfl⟩ | ⟨id, rfl⟩ | hk
  · exact hb.install options
  · exact hb.retire id
  · exact hk.bounded hb

lemma Tracked.later_perform (ht : f.Tracked) (deed : Deed) : Later f (f.perform deed) := by
  rcases f.perform_cases deed with ⟨options, rfl⟩ | ⟨id, rfl⟩ | hk
  · exact ht.later_install options
  · exact ht.later_retire id
  · exact hk.later

/-- What every deed keeps, a whole history keeps. -/
lemma performAll_induction {P : Fleet → Prop} (hf : P f)
    (hstep : ∀ f deed, P f → P (f.perform deed)) (history : List Deed) :
    P (f.performAll history) := by
  induction history using List.reverseRecOn with
  | nil => exact hf
  | append_singleton history deed ih =>
    rw [performAll_concat]
    exact hstep _ deed ih

lemma Tracked.performAll (ht : f.Tracked) (history : List Deed) :
    (f.performAll history).Tracked :=
  performAll_induction ht (fun _ deed h => h.perform deed) history

lemma Bounded.performAll (hb : f.Bounded) (history : List Deed) :
    (f.performAll history).Bounded :=
  performAll_induction hb (fun _ deed h => h.perform deed) history

lemma Tracked.later_performAll (ht : f.Tracked) (history : List Deed) :
    Later f (f.performAll history) := by
  have hboth : (f.performAll history).Tracked ∧ Later f (f.performAll history) := by
    refine performAll_induction (P := fun f' => f'.Tracked ∧ Later f f') ⟨ht, .refl f⟩
      (fun f' deed h => ?_) history
    obtain ⟨ht', hlater⟩ := h
    exact ⟨ht'.perform deed, hlater.trans (ht'.later_perform deed)⟩
  exact hboth.2

lemma bounded_vacant (n : Nat) : (vacant n).Bounded := by
  intro id d hd
  have hnone : (vacant n).instance? id = none := instance?_eq_none_iff.2 (Nat.zero_le id)
  rw [hnone] at hd
  simp at hd

/-! ### The handles that an instance has issued -/

/-- The handles of the kernels that an instance has. -/
def issued (f : Fleet) (id : Nat) : List Handle :=
  match f.cells[id]? with
  | none => []
  | some c => (List.range c.state.kernels.size).map fun i => .encode c.slot (.kernel i)

lemma issued_eq {d : Instance} (hs : f.cells[id]?.map Cell.slot = some slot)
    (hd : f.instance? id = some d) :
    f.issued id = (List.range d.kernels.size).map fun i => .encode slot (.kernel i) := by
  obtain ⟨c, hc, rfl⟩ := Option.map_eq_some_iff.1 hs
  obtain rfl : c.state = d := by simpa [instance?, hc] using hd
  rw [issued, hc]

lemma issued_of_size_le (hid : f.cells.size ≤ id) : f.issued id = [] := by
  rw [issued, Array.getElem?_eq_none hid]

/-- Which handles an instance has issued is settled by its slot and the number of its kernels. -/
lemma issued_congr (hs : f'.cells[id]?.map Cell.slot = f.cells[id]?.map Cell.slot)
    (hk : (f'.instance? id).map (·.kernels.size) = (f.instance? id).map (·.kernels.size)) :
    f'.issued id = f.issued id := by
  rcases hd : f.instance? id with _ | d
  · rw [hd, Option.map_none, Option.map_eq_none_iff] at hk
    rw [issued_of_size_le (instance?_eq_none_iff.1 hd),
      issued_of_size_le (instance?_eq_none_iff.1 hk)]
  · rw [hd, Option.map_some] at hk
    obtain ⟨d', hd', hsize⟩ := Option.map_eq_some_iff.1 hk
    obtain ⟨c, hc, -⟩ := Option.map_eq_some_iff.1 hd
    have hslot : f.cells[id]?.map Cell.slot = some c.slot := by rw [hc, Option.map_some]
    rw [issued_eq hslot hd, issued_eq (hs.trans hslot) hd', hsize]

lemma issued_put_of_size_eq {d d' : Instance} (hd : f.instance? id = some d)
    (hsize : d'.kernels.size = d.kernels.size) (j : Nat) :
    (f.put id d').issued j = f.issued j := by
  refine issued_congr (f.slot_put id d' j) ?_
  by_cases hj : id = j
  · subst hj
    rw [f.instance?_put_self hd, hd, Option.map_some, Option.map_some, hsize]
  · rw [f.instance?_put_of_ne hj]

lemma issued_onInstance {β : Type} {call : Instance → β × Instance}
    (hk : ∀ d, (call d).2.kernels.size = d.kernels.size) (id : Nat) (otherwise : β) (j : Nat) :
    (f.onInstance id call otherwise).2.issued j = f.issued j := by
  rcases hd : f.instance? id with _ | d
  · have hge : ¬ id < f.cells.size := Nat.not_lt.2 (instance?_eq_none_iff.1 hd)
    rw [onInstance, dif_neg hge]
  · rw [f.onInstance_eq hd]
    exact issued_put_of_size_eq hd (hk d) j

lemma issued_onSlot {β : Type} {call : Instance → β × Instance}
    (hk : ∀ d, (call d).2.kernels.size = d.kernels.size) (slot : Slot) (otherwise : β) (j : Nat) :
    (f.onSlot slot call otherwise).2.issued j = f.issued j := by
  unfold onSlot
  split
  · exact issued_onInstance hk _ otherwise j
  · rfl

lemma issued_install (options : Options) (id : Nat) :
    (f.install options).issued id = f.issued id := by
  unfold issued
  rw [getElem?_cells_install]
  by_cases hid : id = f.cells.size
  · subst hid
    simp [Instance.fresh]
  · rw [if_neg hid]

lemma issued_retire (id j : Nat) : (f.retire id).issued j = f.issued j :=
  issued_congr (f.slot_retire id j) (by rw [instance?_retire])

lemma issued_callKernel (h : Handle) (c : KernelCall) (id : Nat) :
    (f.callKernel h c).2.issued id = f.issued id := by
  rw [callKernel_apply]
  split
  · rename_i slot i _
    refine issued_onSlot (fun d => ?_) slot false id
    rcases hk : d.kernels[i]? with _ | k
    · rw [Instance.callKernel_of_none hk]
    · rw [Instance.callKernel_eq hk, Instance.withKernel, Array.size_modify]
  · rfl

/-- A creation adds the handle that it answers to those of the instance that it reaches. -/
lemma Tracked.issued_createKernel (ht : f.Tracked) (context : Handle)
    (code name : Option (List UInt8)) (id : Nat) :
    (f.perform (.createKernel context code name)).issued id =
      f.issued id ++ f.created id (.createKernel context code name) := by
  simp only [Fleet.perform, created, host?]
  rcases f.createKernel_cases context code name with heq | ⟨slot, code, name, hs, rfl, rfl⟩
  · simp [heq, Handle.isNull, Handle.null]
  simp only [hs, Option.bind_some, createKernel]
  rcases ho : f.owner? slot with _ | id'
  · simp [f.onSlot_eq_otherwise ho]
  obtain ⟨d, hd⟩ := f.exists_instance_of_owner ho
  rw [f.onSlot_eq ho hd]
  rcases d.createKernel_none_or_some code name with ⟨hnone, hkernels⟩ | ⟨hsome, hlt, hkernels⟩
  · rw [issued_put_of_size_eq hd (by rw [hkernels]), hnone]
    simp [Handle.isNull, Handle.null]
  have hnull : (Handle.encode slot (.kernel d.kernels.size)).isNull = false :=
    Handle.isNull_encode (Target.fits_kernel_iff.2 hlt)
  rw [hsome]
  simp only [Option.some.injEq, hnull, and_true]
  by_cases hid : id' = id
  · subst hid
    have hslot := ht.slot_of_owner? ho
    have hslot' := (f.slot_put id' (d.createKernel code name).2 id').trans hslot
    rw [if_pos rfl, issued_eq hslot hd, issued_eq hslot' (f.instance?_put_self hd _), hkernels,
      Array.size_push, List.range_succ, List.map_append, List.map_singleton]
  · rw [if_neg hid, List.append_nil]
    refine issued_congr (f.slot_put id' _ id) ?_
    rw [f.instance?_put_of_ne hid]

/-- One step of a history issues the handles of what it creates. -/
lemma Tracked.issued_perform (ht : f.Tracked) (deed : Deed) (id : Nat) :
    (f.perform deed).issued id = f.issued id ++ f.created id deed := by
  cases deed with
  | createKernel context code name => exact ht.issued_createKernel context code name id
  | install options => simp [Fleet.perform, created, issued_install]
  | retire j => simp [Fleet.perform, created, issued_retire]
  | callKernel kernel call => simp [Fleet.perform, created, issued_callKernel]
  | configure j change =>
    have hsame : (f.configure j change).issued id = f.issued id :=
      issued_onInstance (fun _ => rfl) j () id
    simpa [Fleet.perform, created] using hsame
  | drain j =>
    have hsame : (f.drain j).2.issued id = f.issued id := issued_onInstance (fun _ => rfl) j #[] id
    simpa [Fleet.perform, created] using hsame
  | createContext slot =>
    have hsame : (f.createContext (.createContext slot)).2.issued id = f.issued id := by
      unfold createContext
      exact issued_onSlot (fun _ => rfl) slot _ id
    simpa [Fleet.perform, created] using hsame
  | registerHeap slot base size =>
    have hsame : (f.registerHeap (.registerHeap slot) base size).2.issued id = f.issued id := by
      unfold registerHeap
      exact issued_onSlot (fun _ => rfl) slot _ id
    simpa [Fleet.perform, created] using hsame
  | totalCores context =>
    have hsame : (f.totalCores .totalCores context).2.issued id = f.issued id := by
      unfold totalCores
      split
      · exact issued_onSlot (fun _ => rfl) _ _ id
      · rfl
    simpa [Fleet.perform, created] using hsame

/-- The handles of what a history created are those of the kernels that are there after it. -/
lemma createdAll_eq_issued (n : Nat) (history : List Deed) (id : Nat) :
    (vacant n).createdAll id history = ((vacant n).performAll history).issued id := by
  induction history using List.reverseRecOn with
  | nil => exact (issued_of_size_le (Nat.zero_le id)).symm
  | append_singleton history deed ih =>
    have ht := (tracked_vacant n).performAll history
    rw [createdAll_concat, performAll_concat, ih, ht.issued_perform]

/-- **Unforgeable handles**: after any history an instance has as many kernels as creations in it
succeeded, never more than the field holds, and the handle that came back from each decodes to the
slot and to the number of creations before it; no later history takes a kernel away. Handles of
different things are different words, none is null, and a word decodes to what it is the handle of
and to nothing else. So a call on a kernel does something exactly with the handle of a kernel of
the owner of its slot, and a call in a context exactly with the handle of the context of a slot
with an owner. -/
theorem handles_unforgeable (n : Nat) (history : List Deed) :
    let f := (vacant n).performAll history
    (∀ id slot d, f.cells[id]?.map Cell.slot = some slot → f.instance? id = some d →
      d.kernels.size ≤ 1048575 ∧
      ((vacant n).createdAll id history).length = d.kernels.size ∧
      (∀ i (h : Handle), ((vacant n).createdAll id history)[i]? = some h →
        h.decode? = some (slot, .kernel i)) ∧
      ∀ later, ∃ d', (f.performAll later).instance? id = some d' ∧ d.names <+: d'.names) ∧
    (∀ (slot slot' : Slot) (target target' : Target), target.Fits → target'.Fits →
      Handle.encode slot target = Handle.encode slot' target' →
        slot = slot' ∧ target = target') ∧
    (∀ (slot : Slot) (target : Target), target.Fits →
      (Handle.encode slot target).isNull = false ∧
      (Handle.encode slot target).bits =
        UInt64.ofNat (slot.val + 1) <<< 20 ||| UInt64.ofNat target.field) ∧
    (∀ (h : Handle) slot target,
      h.decode? = some (slot, target) ↔ target.Fits ∧ h = .encode slot target) ∧
    (∀ h c, f.callKernel h c = (false, f) ↔ ¬ ∃ id i, f.Names h id i) ∧
    (∀ h code name, f.createKernel .createKernel h code name = (.null, f) ↔
      code = none ∨ name = none ∨ ¬ ∃ id, f.Hosts h id) ∧
    ∀ h, f.totalCores .totalCores h = (0, f) ↔ ¬ ∃ id, f.Hosts h id := by
  intro f
  have ht : f.Tracked := (tracked_vacant n).performAll history
  have hb : f.Bounded := (bounded_vacant n).performAll history
  refine ⟨fun id slot d hs hd => ?_, fun _ _ _ _ => Handle.encode_inj,
    fun slot target hfits => ⟨Handle.isNull_encode hfits, Handle.bits_encode hfits⟩,
    fun _ _ _ => Handle.decode?_eq_some_iff, hb.callKernel_eq_iff, createKernel_eq_iff,
    totalCores_eq_iff⟩
  have hsize : d.kernels.size ≤ capacity := hb id d hd
  have hall : (vacant n).createdAll id history =
      (List.range d.kernels.size).map fun i => .encode slot (.kernel i) :=
    (createdAll_eq_issued n history id).trans (issued_eq hs hd)
  refine ⟨hsize, by simp [hall], fun i h hi => ?_, fun later => ?_⟩
  · rw [hall, List.getElem?_map] at hi
    obtain ⟨j, hj, rfl⟩ := Option.map_eq_some_iff.1 hi
    obtain ⟨hlt, rfl⟩ := List.getElem?_eq_some_iff.1 hj
    rw [List.getElem_range]
    rw [List.length_range] at hlt
    exact Handle.decode?_encode (Target.fits_kernel_iff.2 (Nat.lt_of_lt_of_le hlt hsize))
  · exact (ht.later_performAll later).names id d hd

/-- Two kernels of one instance: the second handle decodes to the second index, and the word after
it, which would be a third one's, reaches nothing. -/
theorem handles_unforgeable_second :
    let context := Handle.encode 3 .context
    let history : List Deed := [.install {}, .createContext 3,
      .createKernel context (some [1]) (some [97]), .createKernel context (some [1]) (some [98])]
    let f := (vacant 3).performAll history
    let second : Handle := ⟨4194306⟩
    let third : Handle := ⟨4194307⟩
    second.decode? = some (3, .kernel 1) ∧ f.callKernel third .clearArgs = (false, f) := by
  intro context history f second third
  obtain ⟨htable, -, -, hdecode, hcall, -, -⟩ := handles_unforgeable 3 history
  have hslot : f.cells[0]?.map Cell.slot = some 3 := by decide +kernel
  obtain ⟨d, hd⟩ : ∃ d, f.instance? 0 = some d := Option.isSome_iff_exists.1 (by decide +kernel)
  have hsecond : ((vacant 3).createdAll 0 history)[1]? = some second := by decide +kernel
  refine ⟨(htable 0 3 d hslot hd).2.2.1 1 second hsecond, (hcall third .clearArgs).2 ?_⟩
  rintro ⟨id, i, slot, d', hthird, ho, hd', hlt⟩
  obtain ⟨c, hc, -⟩ := Option.map_eq_some_iff.1 hd'
  have hroom : d'.kernels.size ≤ capacity := (htable id c.slot d' (by rw [hc]; rfl) hd').1
  have hfits : (Target.kernel i).Fits := Target.fits_kernel_iff.2 (Nat.lt_of_lt_of_le hlt hroom)
  have hnamed := (hdecode third slot (.kernel i)).2 ⟨hfits, hthird⟩
  have hthird' : third.decode? = some (3, .kernel 2) := by decide +kernel
  rw [hthird', Option.some.injEq, Prod.mk.injEq, Target.kernel.injEq] at hnamed
  obtain ⟨rfl, rfl⟩ := hnamed
  have howner : f.owner? 3 = some 0 := by decide +kernel
  obtain rfl := Option.some.inj (howner.symm.trans ho)
  have hsize : (f.instance? 0).map (·.kernels.size) = some 2 := by decide +kernel
  rw [hd', Option.map_some, Option.some.injEq] at hsize
  omega

end Fleet

end Offload.Simulator
