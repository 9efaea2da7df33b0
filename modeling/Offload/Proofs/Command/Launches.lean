import Offload.Proofs.Bridge.Interleaving
import Offload.Proofs.Command.Arguments
import Offload.Proofs.Session.Executions

/-!
A job on a simulated device that makes no call fail.

The device has every entry point, gives a context, takes any heap and refuses a kernel only for its
code. Each launch that passes its check clears the queue, pushes the arguments and executes once, so
that a job executes its kernel as often as it is told to, each time with the same arguments.
-/

namespace Offload

open Simulator

/-! ### A device without faults -/

namespace Simulator

/-- The call, on a device without faults that has these kernels, is answered so and leaves it
those; it executes none of them. -/
def Instance.Serves {β : Type} (call : Instance → β × Instance) (kernels : List Loaded)
    (Q : β → Prop) (kernels' : List Loaded) : Prop :=
  ∀ (d : Instance) (cores : Option UInt32), d.options = { totalCores := cores } →
    d.kernels.toList = kernels → Q (call d).1 ∧ (call d).2.options = d.options ∧
      (call d).2.kernels.toList = kernels' ∧
      (call d).2.journal.toList.filter Call.isExecute =
        d.journal.toList.filter Call.isExecute

namespace Fleet

/-- A fleet of one device, which makes no call fail: the kernels that it has, and the executions
that it has recorded. -/
structure Willing (f : Fleet) (slot : Slot) (kernels : List Loaded) (ran : List Call) : Prop where
  size : f.cells.size = 1
  placed : f.cells[0]?.map Cell.slot = some slot
  owner : f.owner? slot = some 0
  device : ∃ (d : Instance) (cores : Option UInt32), f.instance? 0 = some d ∧
    d.options = { totalCores := cores } ∧ d.kernels.toList = kernels ∧
    d.journal.toList.filter Call.isExecute = ran

variable {β : Type} {f : Fleet} {slot : Slot} {kernels : List Loaded} {ran : List Call}

lemma willing_install (cores : Option UInt32) :
    (Fleet.empty.install { totalCores := cores }).Willing Fleet.empty.nextSlot [] [] where
  size := rfl
  placed := rfl
  owner := Fleet.empty.owner?_install _
  device := ⟨.fresh { totalCores := cores }, cores, rfl, rfl, rfl, rfl⟩

namespace Willing

/-- What all journals hold of executions. -/
lemma executions (h : f.Willing slot kernels ran) (id : Nat) :
    (f.journal id).toList.filter Call.isExecute = if id = 0 then ran else [] := by
  obtain ⟨d, cores, hd, -, -, hj⟩ := h.device
  by_cases hid : id = 0
  · subst hid
    rw [journal_eq hd, hj, if_pos rfl]
  · have hnone : f.instance? id = none := by
      rw [instance?_eq_none_iff, h.size]
      omega
    rw [journal, hnone, if_neg hid]
    rfl

/-- Every entry point but the query for cores is there. -/
lemma exported? (h : f.Willing slot kernels ran) {s : Symbol} (hs : s ≠ .totalCores) :
    ∃ p, f.exported? 0 s.name = some p := by
  obtain ⟨d, cores, hd, ho, -, -⟩ := h.device
  obtain ⟨c, hc, rfl⟩ := Option.map_eq_some_iff.1 hd
  refine ⟨.ofSymbol c.slot s, ?_⟩
  simp [Fleet.exported?, hc, Symbol.ofName?_name, ho, hs]

/-- The device in another state, its options the same. -/
lemma put (h : f.Willing slot kernels ran) {d : Instance} {cores : Option UInt32}
    (ho : d.options = { totalCores := cores }) :
    (f.put 0 d).Willing slot d.kernels.toList (d.journal.toList.filter Call.isExecute) := by
  obtain ⟨before, -, hbefore, -⟩ := h.device
  refine ⟨?_, ?_, ?_, d, cores, f.instance?_put_self hbefore d, ho, rfl, rfl⟩
  · rw [size_put, h.size]
  · rw [slot_put, h.placed]
  · rw [owner?_put, h.owner]

/-- A call through the slot is answered by the device, whose state alone it changes. -/
lemma onSlot (h : f.Willing slot kernels ran) {call : Instance → β × Instance} {Q : β → Prop}
    {kernels' : List Loaded} (hcall : Instance.Serves call kernels Q kernels') (otherwise : β) :
    Q (f.onSlot slot call otherwise).1 ∧
      (f.onSlot slot call otherwise).2.Willing slot kernels' ran := by
  obtain ⟨d, cores, hd, ho, hk, hj⟩ := h.device
  obtain ⟨hq, hoptions, hkernels, hjournal⟩ := hcall d cores ho hk
  have hafter := h.put (hoptions.trans ho)
  rw [hkernels, hjournal, hj] at hafter
  rw [f.onSlot_eq h.owner hd]
  exact ⟨hq, hafter⟩

lemma createContext (h : f.Willing slot kernels ran) :
    (f.createContext (.createContext slot)).1 = .encode slot .context ∧
      (f.createContext (.createContext slot)).2.Willing slot kernels ran := by
  have hserves : Instance.Serves (fun d => (if d.createContext.1 then .encode slot .context
      else .null, d.createContext.2)) kernels (· = Handle.encode slot .context) kernels := by
    intro d cores ho hk
    simp [Instance.createContext, Instance.record, ho, hk, Call.isExecute]
  exact h.onSlot hserves .null

lemma totalCores (h : f.Willing slot kernels ran) {context : Handle}
    (hs : context.contextSlot? = some slot) :
    (f.totalCores .totalCores context).2.Willing slot kernels ran := by
  have hserves : Instance.Serves Instance.totalCores kernels (fun _ => True) kernels := by
    intro d cores ho hk
    simp [Instance.totalCores, Instance.record, hk, Call.isExecute]
  unfold Fleet.totalCores
  rw [hs]
  exact (h.onSlot hserves 0).2

lemma registerHeap (h : f.Willing slot kernels ran) (base size : UInt64) :
    (f.registerHeap (.registerHeap slot) base size).1 = true ∧
      (f.registerHeap (.registerHeap slot) base size).2.Willing slot kernels ran := by
  have hserves : Instance.Serves (fun d => d.registerHeap base size) kernels (· = true)
      kernels := by
    intro d cores ho hk
    simp [Instance.registerHeap, Instance.record, ho, hk, Call.isExecute]
  exact h.onSlot hserves false

/-- The first kernel is refused only if no byte of code comes before the zero that ends it. -/
lemma createKernel (h : f.Willing slot [] ran) {context : Handle}
    (hs : context.contextSlot? = some slot) (code name : List UInt8) :
    let created := f.createKernel .createKernel context (some code) (some name)
    (upToZero code = [] → created.1 = .null ∧ created.2.Willing slot [] ran) ∧
    (upToZero code ≠ [] → created.1 = .encode slot (.kernel 0) ∧
      created.2.Willing slot [⟨Text.ofUtf8 (upToZero name), #[]⟩] ran) := by
  unfold Fleet.createKernel
  simp only [hs]
  refine ⟨fun hcode => h.onSlot (Q := (· = Handle.null)) (fun d cores ho hk => ?_) Handle.null,
    fun hcode => h.onSlot (Q := (· = Handle.encode slot (.kernel 0))) (fun d cores ho hk => ?_)
      Handle.null⟩
  · simp [Instance.createKernel, Instance.record, hcode, hk, Call.isExecute]
  · have hnone : d.kernels = #[] := Array.toList_eq_nil_iff.1 hk
    have hroom : ¬ capacity ≤ 0 := by decide
    simp [Instance.createKernel, Instance.record, hcode, hnone, ho, hroom, Call.isExecute]

/-- A call on the only kernel is answered, recorded and leaves what the options and the kernel
say. -/
lemma callKernel {k : Loaded} (h : f.Willing slot [k] ran) (c : KernelCall) :
    ∃ o : Options, (∃ cores, o = { totalCores := cores }) ∧
      (f.callKernel (.encode slot (.kernel 0)) c).1 = c.succeeds o k ∧
      (f.callKernel (.encode slot (.kernel 0)) c).2.Willing slot [c.leaves o k]
        (ran ++ [c.entry k].filter Call.isExecute) := by
  obtain ⟨d, cores, hd, ho, hk, hj⟩ := h.device
  have hindex : (Handle.encode slot (.kernel 0)).kernelIndex? = some (slot, 0) :=
    Handle.kernelIndex?_encode slot (by decide)
  have hkernels : d.kernels = #[k] := Array.toList_inj.1 hk
  have hfirst : d.kernels[0]? = some k := by
    rw [hkernels]
    rfl
  let d' := d.withKernel (c.entry k) 0 (c.leaves d.options k)
  have hkernels' : d'.kernels.toList = [c.leaves d.options k] := by
    simp [d', Instance.withKernel, hkernels]
  have hjournal : d'.journal.toList.filter Call.isExecute =
      ran ++ [c.entry k].filter Call.isExecute := by
    simp [d', Instance.withKernel, hj]
  have hafter := h.put (d := d') ho
  rw [hkernels', hjournal] at hafter
  rw [callKernel_eq hindex h.owner hd hfirst]
  exact ⟨d.options, ⟨cores, ho⟩, rfl, hafter⟩

end Willing

end Fleet

end Simulator

namespace Launch

variable {l : Launch} {k : Loaded} {c : KernelCall} {todo : List KernelCall}

/-- A call of a launch over a range that is not empty succeeds on a device without faults. -/
lemma Underway.succeeds (h : l.Underway k (c :: todo)) (hdim : 0 < l.dim)
    (cores : Option UInt32) : c.succeeds { totalCores := cores } k = true := by
  generalize hall : c :: todo = all at h
  cases h with
  | fresh =>
    obtain ⟨rfl, -⟩ := List.cons.inj hall
    rfl
  | ended => simp at hall
  | pushing rest hqueue =>
    cases rest with
    | nil =>
      obtain ⟨rfl, -⟩ := List.cons.inj hall
      simp [KernelCall.succeeds, hdim]
    | cons v rest =>
      obtain ⟨rfl, -⟩ := List.cons.inj hall
      simp [KernelCall.succeeds]

end Launch

namespace Simulator.Fleet.Willing

variable {f : Fleet} {slot : Slot} {ran : List Call} {l : Launch} {k : Loaded}
  {todo : List KernelCall}

/-- A launch that is under way gets no failing answer, and records what is left of it. -/
lemma alone (h : f.Willing slot [k] ran) (hu : l.Underway k todo) (hdim : 0 < l.dim) :
    (∀ x ∈ (f.alone (.encode slot (.kernel 0)) todo).1, x.2 = true) ∧
      ∃ k', k'.name = k.name ∧ (f.alone (.encode slot (.kernel 0)) todo).2.Willing slot [k']
        (ran ++ (todo.map (l.entry k.name)).filter Call.isExecute) := by
  -- on the calls that are left; the queue holds the arguments that are not
  induction todo generalizing f k ran with
  | nil => exact ⟨by simp [Fleet.alone], k, rfl, by simpa [Fleet.alone] using h⟩
  | cons c rest ih =>
    obtain ⟨o, ⟨cores, rfl⟩, hans, hafter⟩ := h.callKernel c
    obtain ⟨hentry, hnext⟩ := hu.step { totalCores := cores }
    have hok := hu.succeeds hdim cores
    obtain ⟨hall, k', hname, hlast⟩ := ih hafter (hnext hok)
    rw [KernelCall.name_leaves] at hname hlast
    rw [hok] at hans
    simp only [Fleet.alone, hans, if_true]
    refine ⟨by simpa using hall, k', hname, ?_⟩
    rw [hentry, List.append_assoc, ← List.filter_append] at hlast
    exact hlast

end Simulator.Fleet.Willing

/-- Of the calls of a launch, the last one executes the kernel, and no other one. -/
lemma Launch.executions (l : Launch) (name : String) :
    (l.calls.map (l.entry name)).filter Call.isExecute =
      [.execute name l.dim (l.args.map Value.pushed)] := by
  have hpushes : ((l.args.map fun v => KernelCall.push v.pushed).map (l.entry name)).filter
      Call.isExecute = [] := by
    refine List.filter_eq_nil_iff.2 fun c hc => ?_
    obtain ⟨push, hpush, rfl⟩ := List.mem_map.1 hc
    obtain ⟨v, -, rfl⟩ := List.mem_map.1 hpush
    simp [entry, Call.isExecute]
  rw [calls, List.map_append, List.map_cons, List.filter_append, List.filter_cons, hpushes]
  rfl

/-- Nothing is seen of code that begins with a zero, and of no other code. -/
lemma Code.upToZero_terminated (c : Code) :
    upToZero c.terminated = [] ↔ c.bytes.head? = some 0 := by
  rw [c.upToZero_terminated_eq]
  rcases hb : c.bytes with _ | ⟨b, rest⟩
  · exact absurd hb c.bytes_ne_nil
  · by_cases hzero : b = 0 <;> simp [upToZero, hzero]

/-! ### The bridge on such a device -/

namespace Bridge

open Offload.Action

variable {slot : Slot} {kernels : List Simulator.Loaded} {ran : List Call} {s : Scene} {d : Device}

/-- A bridge over the device, before anything was tried. -/
structure Untried (slot : Slot) (s : Scene) : Prop where
  resolver : s.bridge.resolver = .simulated 0
  table : s.bridge.table = none
  device : s.bridge.device = .undecided
  fleet : s.fleet.Willing slot [] []

/-- Linking to the device succeeds, and binds the entry points of its slot. -/
lemma ensureTable_of_untried (h : Untried slot s) :
    ∃ t s', ensureTable s = .ok t s' ∧ t.Simulated slot ∧ s'.fleet = s.fleet ∧
      s'.bridge.device = s.bridge.device := by
  have hexported : ∀ x ∈ Symbol.required, s.fleet.exported? 0 x.name ≠ none := by
    intro x hx
    have hne : x ≠ .totalCores := by
      rintro rfl
      exact absurd hx (by decide)
    obtain ⟨p, hp⟩ := h.fleet.exported? hne
    simp [hp]
  obtain ⟨t, hlink, -⟩ := Resolver.link_of_exported s.bridge.attempts hexported
  have hok : (attempted s).1 = .ok t := by rw [attempted, h.resolver, hlink]
  obtain ⟨notices, heq⟩ := ensureTable_of_linked h.table hok
  obtain ⟨slot', hslot', hsim⟩ := (Resolver.over_simulated 0).simulated_of_link hlink
  rw [h.fleet.placed] at hslot'
  exact ⟨t, _, heq, Option.some.inj hslot' ▸ hsim, rfl, rfl⟩

lemma createDevice_of_willing {t : Table EntryPoint} (ht : t.Simulated slot)
    (h : s.fleet.Willing slot kernels ran) :
    ∃ d s', createDevice t s = .ok d s' ∧ d.table.Simulated slot ∧
      d.handle = .encode slot .context ∧ s'.fleet.Willing slot kernels ran := by
  obtain ⟨hhandle, hcreated⟩ := h.createContext
  rw [← ht.createContext] at hhandle hcreated
  have hnull : (s.fleet.createContext t.createContext).1.isNull = false := by
    rw [hhandle, Handle.isNull_encode (show Target.context.Fits by decide)]
  rcases hq : t.totalCores with _ | query
  · obtain ⟨notices, heq⟩ := createDevice_of_not_queried hnull hq
    exact ⟨_, _, heq, ht, hhandle, hcreated⟩
  · obtain ⟨notices, heq⟩ := createDevice_of_queried hnull hq
    refine ⟨_, _, heq, ht, hhandle, ?_⟩
    obtain rfl := ht.totalCores hq
    exact hcreated.totalCores (by rw [hhandle, Handle.contextSlot?_encode])

lemma connect_of_untried (h : Untried slot s) :
    ∃ d s', connect s = .ok d s' ∧ d.table.Simulated slot ∧ d.handle = .encode slot .context ∧
      s'.fleet.Willing slot [] [] := by
  obtain ⟨t, s₁, heq, hsim, hfleet, hdevice⟩ := ensureTable_of_untried h
  have hwilling : s₁.fleet.Willing slot [] [] := by
    rw [hfleet]
    exact h.fleet
  obtain ⟨d, s₂, hcreated, hd, hhandle, hafter⟩ := createDevice_of_willing hsim hwilling
  refine ⟨d, s₂, ?_, hd, hhandle, hafter⟩
  rw [connect_apply, heq]
  simp only
  rw [hdevice, h.device]
  exact hcreated

/-- A region that is not empty is registered. -/
lemma registerOn_of_willing (hd : d.table.Simulated slot) (h : s.fleet.Willing slot kernels ran)
    {region : Region} (hr : region.isEmpty = false) :
    ∃ s', registerOn d region s = .ok region s' ∧ s'.fleet.Willing slot kernels ran := by
  obtain ⟨haccepted, hregistered⟩ := h.registerHeap region.base region.size
  rw [← hd.registerHeap] at haccepted hregistered
  obtain ⟨notices, heq⟩ := registerOn_of_accepted hr haccepted
  exact ⟨_, heq, hregistered⟩

/-- A kernel is loaded unless its code begins with a zero. -/
lemma loadOn_of_willing (hd : d.table.Simulated slot) (hh : d.handle = .encode slot .context)
    (h : s.fleet.Willing slot [] ran) (code : Code) :
    (code.bytes.head? = some 0 → ∃ s', loadOn d code s = .error (.kernelLoad code.name) s' ∧
      s'.fleet.Willing slot [] ran) ∧
    (code.bytes.head? ≠ some 0 → ∃ s',
      loadOn d code s = .ok ⟨s.bridge.id, .encode slot (.kernel 0), code.name, 0⟩ s' ∧
      s'.fleet.Willing slot [⟨code.name, #[]⟩] ran) := by
  have hname : Text.ofUtf8 (upToZero (Text.utf8 code.name ++ [0])) = code.name := by
    rw [upToZero_append_zero (Text.zero_notMem_utf8 code.name_noZero), Text.ofUtf8_utf8]
  have hslot : d.handle.contextSlot? = some slot := by rw [hh, Handle.contextSlot?_encode]
  obtain ⟨hblank, hcode⟩ := h.createKernel hslot code.terminated (Text.utf8 code.name ++ [0])
  rw [← hd.createKernel, code.upToZero_terminated] at hblank
  rw [← hd.createKernel, ne_eq, code.upToZero_terminated, hname] at hcode
  refine ⟨fun hzero => ?_, fun hzero => ?_⟩
  · obtain ⟨hnull, hfleet⟩ := hblank hzero
    have hrefused : (loading d code s.fleet).1.isNull = true := by
      rw [loading, hnull]
      rfl
    obtain ⟨notices, heq⟩ := loadOn_of_null hrefused
    exact ⟨_, heq, hfleet⟩
  · obtain ⟨hhandle, hfleet⟩ := hcode hzero
    have hloaded : (loading d code s.fleet).1.isNull = false := by
      rw [loading, hhandle, Handle.isNull_encode (show (Target.kernel 0).Fits by decide)]
    obtain ⟨notices, heq⟩ := loadOn_of_loaded hloaded
    rw [loading, hhandle] at heq
    exact ⟨_, heq, hfleet⟩

end Bridge

/-! ### The launches of a job -/

namespace Command

open Bridge Offload.Action

/-- What the launches of a job are checked for, if its arguments fit. -/
structure Job.Launchable (job : Job) : Prop where
  dim : 0 < job.dim
  isVoid : job.signature.isVoid = true
  receiver : ¬ (job.signature.hasReceiver = true ∧ job.args.head? = some .null)

/-- One execution of a job, as it is recorded. -/
def Job.execution (job : Job) : Call :=
  .execute job.code.name job.dim (job.args.map Value.pushed)

/-- A job of so many launches so far, the only one on its device. -/
structure Running (job : Job) (slot : Slot) (k : Kernel) (n : Nat) (s : Scene) : Prop
    extends Loaded job k s where
  linked : ∀ d, s.bridge.device = .ready d → d.table.Simulated slot
  handle : k.handle = .encode slot (.kernel 0)
  name : k.name = job.code.name
  launches : k.launches = n
  fleet : ∃ loaded : Simulator.Loaded, loaded.name = job.code.name ∧
    s.fleet.Willing slot [loaded] (List.replicate n job.execution)

variable {job : Job} {slot : Slot} {k : Kernel} {n : Nat} {s : Scene}

namespace Running

lemma check_eq (h : Running job slot k n s)
    (hfits : Marshal.Fits job.signature job.heap job.args) (hj : job.Launchable) :
    check s k job.dim job.args job.signature = .ok ⟨job.dim, hj.dim⟩ := by
  rw [check_of_fits hfits h.heap?, dif_pos hj.dim, hj.isVoid, if_neg (by simp),
    if_neg hj.receiver]

/-- One launch more, which executes the kernel once. -/
lemma launch (h : Running job slot k n s)
    (hfits : Marshal.Fits job.signature job.heap job.args) (hj : job.Launchable) :
    ∃ k' s', Bridge.launch k job.dim job.args job.signature s = .ok k' s' ∧
      Running job slot k' (n + 1) s' := by
  obtain ⟨d, hd, -⟩ := h.ready
  obtain ⟨loaded, hname, hwilling⟩ := h.fleet
  let l : Launch := ⟨k, job.dim, job.args⟩
  have hmakes := launchOn_makes (h.linked d hd) (l := l) (h.check_eq hfits hj)
  rw [show l.kernel.handle = .encode slot (.kernel 0) from h.handle] at hmakes
  obtain ⟨hall, loaded', hname', hran⟩ := hwilling.alone (l := l) .fresh hj.dim
  obtain ⟨k', s', hrun, hfleet⟩ := hmakes.exists_ok hall
  have hlaunch : Bridge.launch k job.dim job.args job.signature s = .ok k' s' :=
    (launch_of_owner hd h.owner).trans hrun
  obtain ⟨hbridge, rfl⟩ := h.of_launch hlaunch
  have hentries : List.replicate n job.execution ++
      (l.calls.map (l.entry loaded.name)).filter Call.isExecute =
        List.replicate (n + 1) job.execution := by
    rw [l.executions, hname, List.replicate_succ']
    rfl
  rw [hentries, ← hfleet] at hran
  refine ⟨_, s', hlaunch, ?_⟩
  exact {
    toLoaded := h.launched hlaunch
    linked := by rw [hbridge]; exact h.linked
    handle := h.handle
    name := h.name
    launches := congrArg (· + 1) h.launches
    fleet := ⟨loaded', hname'.trans hname, hran⟩ }

lemma launchTimes (h : Running job slot k n s)
    (hfits : Marshal.Fits job.signature job.heap job.args) (hj : job.Launchable) (m : Nat) :
    ∃ k' s', Command.launchTimes job m k s = .ok k' s' ∧ Running job slot k' (n + m) s' := by
  induction m generalizing k n s with
  | zero => exact ⟨k, s, pure_apply k s, h⟩
  | succ m ih =>
    obtain ⟨k₁, s₁, hone, h₁⟩ := h.launch hfits hj
    obtain ⟨k₂, s₂, hrest, h₂⟩ := ih h₁
    refine ⟨k₂, s₂, ?_, ?_⟩
    · rw [Command.launchTimes, bind_apply, hone]
      exact hrest
    · rwa [Nat.add_right_comm, Nat.add_assoc] at h₂

/-- A job that cannot be launched ends at its first launch, before any call. -/
lemma launchTimes_of_not_launchable (h : Running job slot k n s)
    (hfits : Marshal.Fits job.signature job.heap job.args) (hj : ¬ job.Launchable) {m : Nat}
    (hm : m ≠ 0) : ∃ e, Command.launchTimes job m k s = .error e s := by
  obtain ⟨d, hd, -⟩ := h.ready
  obtain ⟨e, he⟩ : ∃ e, check s k job.dim job.args job.signature = .error e := by
    rw [check_of_fits hfits h.heap?]
    split_ifs with hdim hvoid hnull
    · exact ⟨_, rfl⟩
    · exact ⟨_, rfl⟩
    · exact absurd ⟨hdim, by simpa using hvoid, hnull⟩ hj
    · exact ⟨_, rfl⟩
  obtain ⟨m, rfl⟩ := Nat.exists_eq_succ_of_ne_zero hm
  refine ⟨e, ?_⟩
  rw [Command.launchTimes, bind_apply, launch_of_owner hd h.owner, launchOn_of_unfit he]

end Running

/-! ### The whole job -/

/-- What a job needs to end well on a device without faults. -/
structure Job.Runnable (job : Job) : Prop where
  heap : job.heap.isEmpty = false
  code : job.code.bytes.head? ≠ some 0
  launches : job.repeats = 0 ∨ job.Launchable

lemma runJob_of_connect (job : Job) {d : Device} {s₁ : Scene} (hc : connect s = .ok d s₁) :
    runJob job s =
      (registerOn d job.heap >>= fun _ => loadOn d job.code >>= launchTimes job job.repeats)
        s₁ := by
  unfold runJob
  rw [bind_apply, hc]
  simp only
  rw [bind_apply, bind_apply, registerHeap_of_ready (ready_of_connect hc)]

/-- A kernel is loaded for a job whose heap and code the device takes. -/
lemma exists_running (job : Job) (h : Untried slot s) :
    (job.heap.isEmpty = false → job.code.bytes.head? ≠ some 0 →
      ∃ k s', Running job slot k 0 s' ∧ runJob job s = launchTimes job job.repeats k s') ∧
    (¬ (job.heap.isEmpty = false ∧ job.code.bytes.head? ≠ some 0) →
      ∃ e s', runJob job s = .error e s' ∧ s'.fleet.Willing slot [] []) := by
  obtain ⟨d, s₁, hconnect, htable, hhandle, h₁⟩ := connect_of_untried h
  have hd₁ := ready_of_connect hconnect
  have hrun := runJob_of_connect job hconnect
  rcases hempty : job.heap.isEmpty
  · obtain ⟨s₂, haccepted, h₂⟩ := registerOn_of_willing htable h₁ hempty
    have hd₂ := ready_of_registerOn hd₁ haccepted
    obtain ⟨hblank, hcode⟩ := loadOn_of_willing htable hhandle h₂ job.code
    rw [bind_apply, haccepted] at hrun
    simp only at hrun
    rw [bind_apply] at hrun
    refine ⟨fun _ hfirst => ?_, fun hnot => ?_⟩
    · obtain ⟨s₃, hload, h₃⟩ := hcode hfirst
      refine ⟨_, s₃, ⟨loaded_of_loadOn hd₂ rfl hload, ?_, rfl, rfl, rfl, _, rfl, h₃⟩, ?_⟩
      · intro d' hd'
        rw [(own_of_loadOn hload).1, hd₂] at hd'
        obtain rfl := DeviceState.ready.inj hd'
        exact htable
      · rw [hrun, hload]
    · have hfirst : job.code.bytes.head? = some 0 := by
        by_contra hne
        exact hnot ⟨rfl, hne⟩
      obtain ⟨s₃, hload, h₃⟩ := hblank hfirst
      exact ⟨_, s₃, by rw [hrun, hload], h₃⟩
  · refine ⟨fun hne => by simp at hne, fun _ => ?_⟩
    rw [bind_apply, registerOn_of_isEmpty hempty] at hrun
    refine ⟨_, _, hrun, ?_⟩
    unfold Scene.withHeap
    split <;> exact h₁

/-- **A job** of arguments that fit succeeds on a device without faults if it is runnable, and has
then executed its kernel as often as it is to; otherwise it fails and has executed nothing. -/
lemma runJob_of_untried (job : Job) (h : Untried slot s)
    (hfits : Marshal.Fits job.signature job.heap job.args) :
    (job.Runnable → ∃ k s' kernels, runJob job s = .ok k s' ∧ k.name = job.code.name ∧
      k.launches = job.repeats ∧
      s'.fleet.Willing slot kernels (List.replicate job.repeats job.execution)) ∧
    (¬ job.Runnable → ∃ e s' kernels, runJob job s = .error e s' ∧
      s'.fleet.Willing slot kernels []) := by
  obtain ⟨hstart, hstop⟩ := exists_running job h
  refine ⟨fun hj => ?_, fun hj => ?_⟩
  · obtain ⟨k, s₁, hrunning, heq⟩ := hstart hj.heap hj.code
    rcases hj.launches with hzero | hlaunch
    · obtain ⟨loaded, -, hwilling⟩ := hrunning.fleet
      refine ⟨k, s₁, [loaded], ?_, hrunning.name, by rw [hrunning.launches, hzero], ?_⟩
      · rw [heq, hzero]
        rfl
      · rwa [hzero]
    · obtain ⟨k', s₂, hok, hend⟩ := hrunning.launchTimes hfits hlaunch job.repeats
      rw [Nat.zero_add] at hend
      obtain ⟨loaded, -, hwilling⟩ := hend.fleet
      exact ⟨k', s₂, _, heq.trans hok, hend.name, hend.launches, hwilling⟩
  · by_cases hfit : job.heap.isEmpty = false ∧ job.code.bytes.head? ≠ some 0
    · obtain ⟨k, s₁, hrunning, heq⟩ := hstart hfit.1 hfit.2
      have hlaunch : ¬ job.Launchable := fun hl => hj ⟨hfit.1, hfit.2, .inr hl⟩
      have hsome : job.repeats ≠ 0 := fun hzero => hj ⟨hfit.1, hfit.2, .inl hzero⟩
      obtain ⟨e, herror⟩ := hrunning.launchTimes_of_not_launchable hfits hlaunch hsome
      obtain ⟨loaded, -, hwilling⟩ := hrunning.fleet
      exact ⟨e, s₁, _, heq.trans herror, hwilling⟩
    · obtain ⟨e, s₁, herror, hwilling⟩ := hstop hfit
      exact ⟨e, s₁, _, herror, hwilling⟩

end Command

end Offload
