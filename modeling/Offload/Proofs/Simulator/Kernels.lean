import Offload.Proofs.Simulator.Handles
import Offload.Proofs.Simulator.Entries
import Offload.Proofs.Simulator.Slots

/-!
Calls on a kernel: what each answers, how it is recorded and what it leaves of the kernel.

All of this is settled by the device's options and the kernel itself. Apart from the journal a call
changes nothing but its own kernel, so calls on different kernels do not see each other.
-/

namespace Offload.Simulator

/-- A call on a kernel. -/
inductive KernelCall
  | clearArgs
  | push (arg : Pushed)
  | execute (dim : Int32)
  deriving DecidableEq

namespace KernelCall

variable (o : Options) (k : Loaded)

/-- What a device answers to the call. -/
def succeeds : KernelCall → Bool
  | .clearArgs => !o.failClear
  | .push _ => o.failPushAt ≠ some k.queue.size
  | .execute dim => 0 < dim && !o.failExecute

/-- The call as it is recorded. -/
def entry : KernelCall → Call
  | .clearArgs => .clearArgs k.name
  | .push arg => .push k.name arg
  | .execute dim => .execute k.name dim k.queue.toList

/-- The queue after the call, if it succeeds. -/
def queue : KernelCall → Array Pushed
  | .clearArgs => #[]
  | .push arg => k.queue.push arg
  | .execute _ => k.queue

/-- The kernel after the call: one that fails leaves it as it is. -/
def leaves (c : KernelCall) : Loaded :=
  if c.succeeds o k then { k with queue := c.queue k } else k

@[simp] lemma name_leaves (c : KernelCall) : (c.leaves o k).name = k.name := by
  unfold leaves
  split <;> rfl

end KernelCall

/-! ### Calls of one instance -/

namespace Instance

variable {d : Instance} {i j : Nat} {k : Loaded}

def callKernel (d : Instance) (i : Nat) : KernelCall → Bool × Instance
  | .clearArgs => d.clearArgs i
  | .push arg => d.push i arg
  | .execute dim => d.execute i dim

/-- An instance that has recorded a call and has this kernel in place of another. -/
def withKernel (d : Instance) (c : Call) (i : Nat) (k : Loaded) : Instance :=
  { d with journal := d.journal.push c, kernels := d.kernels.modify i fun _ => k }

lemma getElem?_withKernel_self (hk : d.kernels[i]? = some k) (c : Call) (k' : Loaded) :
    (d.withKernel c i k').kernels[i]? = some k' := by
  simp [withKernel, Array.getElem?_modify, hk]

lemma getElem?_withKernel_of_ne (hij : i ≠ j) (c : Call) (k' : Loaded) :
    (d.withKernel c i k').kernels[j]? = d.kernels[j]? := by
  simp [withKernel, Array.getElem?_modify, hij]

/-- What is done to a kernel is known from the kernel that is there. -/
lemma modify_eq_of_getElem? {kernels : Array Loaded} (hk : kernels[i]? = some k)
    (change : Loaded → Loaded) : kernels.modify i change = kernels.modify i fun _ => change k := by
  refine Array.ext (by simp) fun j hj hj' => ?_
  by_cases hij : i = j
  · subst hij
    have hlt : i < kernels.size := by simpa using hj
    have hget : kernels[i] = k := by simpa [hlt] using hk
    simp [Array.getElem_modify, hget]
  · simp [Array.getElem_modify, hij]

/-- A kernel that is put where it is already changes nothing. -/
lemma modify_of_getElem? {kernels : Array Loaded} (hk : kernels[i]? = some k) :
    kernels.modify i (fun _ => k) = kernels := by
  rw [← modify_eq_of_getElem? hk fun k => k]
  exact Array.ext (by simp) fun j hj hj' => by simp [Array.getElem_modify]

lemma record_eq_withKernel (hk : d.kernels[i]? = some k) (c : Call) :
    d.record c = d.withKernel c i k := by
  rw [record, withKernel, modify_of_getElem? hk]

lemma callKernel_of_none (hk : d.kernels[i]? = none) (c : KernelCall) :
    d.callKernel i c = (false, d) := by
  cases c with
  | clearArgs => exact clearArgs_of_none hk
  | push arg => exact push_of_none hk arg
  | execute dim => exact execute_of_none hk dim

/-- A call on a kernel answers, records and leaves what the options and the kernel say. -/
lemma callKernel_eq (hk : d.kernels[i]? = some k) (c : KernelCall) :
    d.callKernel i c =
      (c.succeeds d.options k, d.withKernel (c.entry k) i (c.leaves d.options k)) := by
  cases c with
  | clearArgs =>
    change d.clearArgs i = _
    rw [clearArgs, hk]
    by_cases hf : d.options.failClear = true
    · simp only [record_eq_withKernel hk, KernelCall.succeeds, KernelCall.leaves, KernelCall.entry,
        withKernel, hf, if_true, Bool.not_true, Bool.false_eq_true, if_false]
    · simp only [record, KernelCall.succeeds, KernelCall.leaves, KernelCall.entry, withKernel, hf,
        Bool.false_eq_true, if_false, Bool.not_false, if_true, modify_eq_of_getElem? hk,
        KernelCall.queue]
  | push arg =>
    change d.push i arg = _
    rw [push, hk]
    by_cases hf : d.options.failPushAt = some k.queue.size
    · simp only [record_eq_withKernel hk, KernelCall.succeeds, KernelCall.leaves, KernelCall.entry,
        withKernel, hf, if_true, ne_eq, not_true, decide_false, Bool.false_eq_true, if_false]
    · simp only [record, KernelCall.succeeds, KernelCall.leaves, KernelCall.entry, withKernel, hf,
        if_false, ne_eq, not_false_iff, decide_true, if_true, modify_eq_of_getElem? hk,
        KernelCall.queue]
  | execute dim =>
    change d.execute i dim = _
    have hleaves : (KernelCall.execute dim).leaves d.options k = k := by
      simp only [KernelCall.leaves, KernelCall.queue, ite_self]
    rw [execute, hk, hleaves, ← record_eq_withKernel hk]
    rfl

/-- A kernel is either not created, or created behind those that are there. -/
lemma createKernel_none_or_some (d : Instance) (code name : List UInt8) :
    ((d.createKernel code name).1 = none ∧ (d.createKernel code name).2.kernels = d.kernels) ∨
      ((d.createKernel code name).1 = some d.kernels.size ∧ d.kernels.size < capacity ∧
        (d.createKernel code name).2.kernels =
          d.kernels.push ⟨Text.ofUtf8 (upToZero name), #[]⟩) := by
  unfold createKernel
  simp only
  split
  · exact .inl ⟨rfl, rfl⟩
  · rename_i hfits
    simp only [record, not_or, Nat.not_le] at hfits
    exact .inr ⟨rfl, hfits.2.2, rfl⟩

lemma journal_createKernel (d : Instance) (code name : List UInt8) :
    (d.createKernel code name).2.journal = d.journal.push
      (.createKernel (Text.ofUtf8 (upToZero name)) (upToZero code).length) := by
  unfold createKernel
  simp only
  split <;> rfl

end Instance

/-! ### Calls of a fleet -/

namespace Fleet

variable {f : Fleet} {h : Handle} {slot : Slot} {id i : Nat} {k : Loaded}

def callKernel (f : Fleet) (h : Handle) : KernelCall → Bool × Fleet
  | .clearArgs => f.clearArgs .clearArgs h
  | .push arg => f.push (.push arg.kind) h arg
  | .execute dim => f.execute .execute h dim

lemma callKernel_apply (f : Fleet) (h : Handle) (c : KernelCall) :
    f.callKernel h c =
      match h.kernelIndex? with
      | some (slot, i) => f.onSlot slot (fun d => d.callKernel i c) false
      | none => (false, f) := by
  cases c with
  | clearArgs =>
    simp only [callKernel, clearArgs]
    cases h.kernelIndex? <;> rfl
  | push arg =>
    simp only [callKernel, push]
    cases h.kernelIndex? <;> simp [Instance.callKernel]
  | execute dim =>
    simp only [callKernel, execute]
    cases h.kernelIndex? <;> rfl

lemma onlyThrough_callKernel (hs : ∀ s ∈ h.slot?, s = slot) (c : KernelCall) :
    OnlyThrough slot f (f.callKernel h c).2 := by
  cases c with
  | clearArgs => exact onlyThrough_clearArgs hs
  | push arg => exact onlyThrough_push hs arg
  | execute dim => exact onlyThrough_execute hs dim

/-- A handle with no kernel behind it does nothing. -/
lemma callKernel_of_behind?_eq_none (hb : f.behind? h = none) (c : KernelCall) :
    f.callKernel h c = (false, f) := by
  rw [callKernel_apply]
  rcases hi : h.kernelIndex? with _ | ⟨slot, i⟩
  · rfl
  · exact onSlot_of_behind?_eq_none hb hi fun _ hk => Instance.callKernel_of_none hk c

/-- A call on the kernel behind a handle is one of the instance that has it. -/
lemma callKernel_eq {d : Instance} (hi : h.kernelIndex? = some (slot, i))
    (ho : f.owner? slot = some id) (hd : f.instance? id = some d) (hk : d.kernels[i]? = some k)
    (c : KernelCall) :
    f.callKernel h c = (c.succeeds d.options k,
      f.put id (d.withKernel (c.entry k) i (c.leaves d.options k))) := by
  rw [callKernel_apply, hi]
  simp only
  rw [f.onSlot_eq ho hd, Instance.callKernel_eq hk]

/-- The handle is that of a kernel which the owner of its slot has. -/
def Names (f : Fleet) (h : Handle) (id i : Nat) : Prop :=
  ∃ slot d, h = .encode slot (.kernel i) ∧ f.owner? slot = some id ∧
    f.instance? id = some d ∧ i < d.kernels.size

/-- The handle is that of the context of a slot which has an owner. -/
def Hosts (f : Fleet) (h : Handle) (id : Nat) : Prop :=
  ∃ slot, h = .encode slot .context ∧ f.owner? slot = some id

lemma Bounded.names_iff (hf : f.Bounded) :
    (∃ i, f.Names h id i) ↔ ∃ k, f.behind? h = some (id, k) := by
  constructor
  · rintro ⟨i, slot, d, rfl, ho, hd, hlt⟩
    have hi := Handle.kernelIndex?_encode slot (Nat.lt_of_lt_of_le hlt (hf id d hd))
    exact ⟨d.kernels[i], behind?_eq_some_iff.2 ⟨slot, i, d, hi, ho, hd, by simp [hlt]⟩⟩
  · rintro ⟨k, hb⟩
    obtain ⟨slot, i, d, hi, ho, hd, hk⟩ := behind?_eq_some_iff.1 hb
    exact ⟨i, slot, d, (Handle.kernelIndex?_eq_some_iff.1 hi).2, ho, hd,
      (Array.getElem?_eq_some_iff.1 hk).1⟩

/-- What a journal has recorded has changed the fleet. -/
lemma put_ne_of_journal {d d' : Instance} (hd : f.instance? id = some d) {c : Call}
    (hj : d'.journal = d.journal.push c) : f.put id d' ≠ f := by
  intro heq
  have hd' := f.instance?_put_self hd d'
  rw [heq, hd] at hd'
  have hsize := congrArg Array.size hj
  rw [Option.some.inj hd', Array.size_push] at hsize
  omega

/-- A call on a kernel fails and changes nothing if and only if no kernel of its handle exists. -/
lemma Bounded.callKernel_eq_iff (hf : f.Bounded) (h : Handle) (c : KernelCall) :
    f.callKernel h c = (false, f) ↔ ¬ ∃ id i, f.Names h id i := by
  constructor
  · rintro heq ⟨id, hnames⟩
    obtain ⟨k, hb⟩ := hf.names_iff.1 hnames
    obtain ⟨slot, i, d, hi, ho, hd, hk⟩ := behind?_eq_some_iff.1 hb
    rw [callKernel_eq hi ho hd hk] at heq
    exact put_ne_of_journal hd rfl (Prod.mk.inj heq).2
  · intro hnone
    apply callKernel_of_behind?_eq_none
    rcases hb : f.behind? h with _ | ⟨id, k⟩
    · rfl
    · exact absurd ⟨id, hf.names_iff.2 ⟨k, hb⟩⟩ hnone

/-! ### What a caller sees of a kernel -/

/-- All that a call on a kernel depends on: its instance, that instance's options and itself. -/
def view? (f : Fleet) (h : Handle) : Option (Nat × Options × Loaded) := do
  let (slot, i) ← h.kernelIndex?
  let id ← f.owner? slot
  let d ← f.instance? id
  let k ← d.kernels[i]?
  return (id, d.options, k)

variable {o : Options}

lemma view?_eq_some_iff : f.view? h = some (id, o, k) ↔ ∃ slot i d,
    h.kernelIndex? = some (slot, i) ∧ f.owner? slot = some id ∧ f.instance? id = some d ∧
      d.kernels[i]? = some k ∧ d.options = o := by
  simp only [view?, bind, Option.bind_eq_some_iff, pure, Option.some.injEq, Prod.mk.injEq]
  constructor
  · rintro ⟨⟨slot, i⟩, hi, id', ho, d, hd, k', hk, rfl, rfl, rfl⟩
    exact ⟨slot, i, d, hi, ho, hd, hk, rfl⟩
  · rintro ⟨slot, i, d, hi, ho, hd, hk, rfl⟩
    exact ⟨(slot, i), hi, id, ho, d, hd, k, hk, rfl, rfl, rfl⟩

lemma view?_eq_map {d : Instance} (hi : h.kernelIndex? = some (slot, i))
    (ho : f.owner? slot = some id) (hd : f.instance? id = some d) :
    f.view? h = d.kernels[i]?.map fun k => (id, d.options, k) := by
  simp only [view?, hi, ho, hd, bind, Option.bind_some]
  cases d.kernels[i]? <;> rfl

lemma behind?_of_view? (hv : f.view? h = some (id, o, k)) : f.behind? h = some (id, k) := by
  obtain ⟨slot, i, d, hi, ho, hd, hk, -⟩ := view?_eq_some_iff.1 hv
  exact behind?_eq_some_iff.2 ⟨slot, i, d, hi, ho, hd, hk⟩

lemma exists_view?_of_behind? (hb : f.behind? h = some (id, k)) :
    ∃ o, f.view? h = some (id, o, k) := by
  obtain ⟨slot, i, d, hi, ho, hd, hk⟩ := behind?_eq_some_iff.1 hb
  exact ⟨d.options, view?_eq_some_iff.2 ⟨slot, i, d, hi, ho, hd, hk, rfl⟩⟩

lemma behind?_eq_none_of_view? (hv : f.view? h = none) : f.behind? h = none := by
  rcases hb : f.behind? h with _ | ⟨id, k⟩
  · rfl
  · obtain ⟨o, ho⟩ := exists_view?_of_behind? hb
    rw [hv] at ho
    simp at ho

/-- A call answers what is seen, and its own kernel is then what it leaves of it. -/
lemma callKernel_of_view? (hv : f.view? h = some (id, o, k)) (c : KernelCall) :
    (f.callKernel h c).1 = c.succeeds o k ∧
      (f.callKernel h c).2.view? h = some (id, o, c.leaves o k) := by
  obtain ⟨slot, i, d, hi, ho, hd, hk, rfl⟩ := view?_eq_some_iff.1 hv
  rw [callKernel_eq hi ho hd hk]
  refine ⟨rfl, view?_eq_some_iff.2 ⟨slot, i, _, hi, ?_, f.instance?_put_self hd _, ?_, rfl⟩⟩
  · rw [owner?_put, ho]
  · exact Instance.getElem?_withKernel_self hk _ _

/-- What is seen of other kernels stays the same. -/
lemma Tracked.view?_callKernel_of_ne (ht : f.Tracked) {h' : Handle} (hne : h ≠ h')
    (c : KernelCall) : (f.callKernel h c).2.view? h' = f.view? h' := by
  rcases hb : f.behind? h with _ | ⟨id, k⟩
  · rw [callKernel_of_behind?_eq_none hb]
  obtain ⟨slot, i, d, hi, ho, hd, hk⟩ := behind?_eq_some_iff.1 hb
  rw [callKernel_eq hi ho hd hk]
  rcases hi' : h'.kernelIndex? with _ | ⟨slot', i'⟩
  · simp [view?, hi']
  rcases ho' : f.owner? slot' with _ | id'
  · simp [view?, hi', ho']
  obtain ⟨d', hd'⟩ := f.exists_instance_of_owner ho'
  have howner : ∀ e, (f.put id e).owner? slot' = some id' := fun e => by rw [owner?_put, ho']
  rw [view?_eq_map hi' ho' hd']
  by_cases hid : id = id'
  · subst hid
    obtain rfl := Option.some.inj (hd.symm.trans hd')
    -- an instance has one slot, so the handles are of different indices
    have hslot : slot = slot' :=
      Option.some.inj ((ht.slot_of_owner? ho).symm.trans (ht.slot_of_owner? ho'))
    have hindex : i ≠ i' := by
      rintro rfl
      rw [(Handle.kernelIndex?_eq_some_iff.1 hi).2, (Handle.kernelIndex?_eq_some_iff.1 hi').2,
        hslot] at hne
      exact hne rfl
    rw [view?_eq_map hi' (howner _) (f.instance?_put_self hd _),
      Instance.getElem?_withKernel_of_ne hindex]
    rfl
  · rw [view?_eq_map hi' (howner _) ((f.instance?_put_of_ne hid _).trans hd')]

lemma received_callKernel (hb : f.behind? h = some (id, k)) (c : KernelCall) :
    Received f (f.callKernel h c).2 [(id, c.entry k)] := by
  cases c with
  | clearArgs => exact (received_clearArgs hb).1
  | push arg => exact (received_push hb arg).1
  | execute dim => exact received_execute hb dim

/-! ### Calls in a context -/

lemma hosts_iff : (∃ id, f.Hosts h id) ↔ ∃ slot id, h.contextSlot? = some slot ∧
    f.owner? slot = some id := by
  simp only [Hosts, Handle.contextSlot?_eq_some_iff]
  exact exists_comm

/-- The query for cores answers zero and changes nothing if and only if its context has no
owner. -/
lemma totalCores_eq_iff (h : Handle) :
    f.totalCores .totalCores h = (0, f) ↔ ¬ ∃ id, f.Hosts h id := by
  rw [hosts_iff]
  constructor
  · rintro heq ⟨slot, id, hs, ho⟩
    obtain ⟨d, hd⟩ := f.exists_instance_of_owner ho
    simp only [totalCores, hs, f.onSlot_eq ho hd] at heq
    exact put_ne_of_journal hd rfl (Prod.mk.inj heq).2
  · intro hnone
    unfold totalCores
    rcases hs : h.contextSlot? with _ | slot
    · rfl
    · rcases ho : f.owner? slot with _ | id
      · exact f.onSlot_eq_otherwise ho _ _
      · exact absurd ⟨slot, id, hs, ho⟩ hnone

/-- A kernel is not created, and nothing changes, if and only if code or name are missing or the
context has no owner. -/
lemma createKernel_eq_iff (h : Handle) (code name : Option (List UInt8)) :
    f.createKernel .createKernel h code name = (.null, f) ↔
      code = none ∨ name = none ∨ ¬ ∃ id, f.Hosts h id := by
  rw [hosts_iff]
  constructor
  · intro heq
    by_contra hall
    simp only [not_or, not_not] at hall
    obtain ⟨hcode, hname, slot, id, hs, ho⟩ := hall
    obtain ⟨code', rfl⟩ := Option.ne_none_iff_exists'.1 hcode
    obtain ⟨name', rfl⟩ := Option.ne_none_iff_exists'.1 hname
    obtain ⟨d, hd⟩ := f.exists_instance_of_owner ho
    simp only [createKernel, hs, f.onSlot_eq ho hd] at heq
    exact put_ne_of_journal hd (d.journal_createKernel code' name') (Prod.mk.inj heq).2
  · intro hnone
    rcases createKernel_cases f h code name with heq | ⟨slot, code', name', hs, rfl, rfl⟩
    · exact heq
    · have hhosts : ¬ ∃ slot id, h.contextSlot? = some slot ∧ f.owner? slot = some id := by
        simpa using hnone
      rcases ho : f.owner? slot with _ | id
      · simp only [createKernel, hs]
        exact f.onSlot_eq_otherwise ho _ _
      · exact absurd ⟨slot, id, hs, ho⟩ hhosts

end Fleet

end Offload.Simulator
