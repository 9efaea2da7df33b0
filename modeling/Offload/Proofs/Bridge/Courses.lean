import Offload.Proofs.Bridge.Actions
import Offload.Proofs.Linkage.Table
import Offload.Proofs.Simulator.Kernels

/-!
How a launch goes on a simulated device, by the device's options, after it has passed its check.

Clearing comes first, so what the queue held before is nothing to the launch: from then on the
queue holds as many values as arguments are pushed, and a push that is made to fail by the length
of the queue is that of the argument of this number.
-/

namespace Offload

open Simulator

/-! ### A kernel that is called -/

namespace Simulator.Instance

/-- An instance that has recorded these calls and has this kernel in place of another. -/
def served (d : Instance) (calls : List Call) (i : Nat) (k : Loaded) : Instance :=
  { d with journal := d.journal ++ calls.toArray, kernels := d.kernels.modify i fun _ => k }

variable {d : Instance} {i : Nat} {k : Loaded}

lemma served_nil (hk : d.kernels[i]? = some k) : d.served [] i k = d := by
  rw [served, modify_of_getElem? hk, Array.append_empty]

lemma withKernel_served (d : Instance) (calls : List Call) (c : Call) (k k' : Loaded) :
    (d.served calls i k).withKernel c i k' = d.served (calls ++ [c]) i k' := by
  have hkernels : (d.kernels.modify i fun _ => k).modify i (fun _ => k') =
      d.kernels.modify i fun _ => k' := by
    refine Array.ext (by simp) fun j hj hj' => ?_
    by_cases hij : i = j <;> simp [Array.getElem_modify, hij]
  rw [withKernel, served, served, hkernels]
  simp

lemma getElem?_served (hk : d.kernels[i]? = some k) (calls : List Call) (k' : Loaded) :
    (d.served calls i k').kernels[i]? = some k' := by
  simp [served, Array.getElem?_modify, hk]

end Simulator.Instance

namespace Simulator.Fleet

lemma put_put (f : Fleet) (id : Nat) (d d' : Instance) : (f.put id d).put id d' = f.put id d' := by
  have hcells : ((f.put id d).put id d').cells = (f.put id d').cells := by
    refine Array.ext (by simp) fun j hj hj' => ?_
    by_cases hij : id = j <;> simp [put, Array.getElem_modify, hij]
  exact congrArg (fun cells => Fleet.mk cells f.owners f.next) hcells

/-- The handle is that of a kernel of an instance which has its slot. -/
structure Stands (f : Fleet) (h : Handle) (id i : Nat) (d : Instance) (k : Loaded) : Prop where
  slot : ∃ slot, h.kernelIndex? = some (slot, i) ∧ f.owner? slot = some id
  state : f.instance? id = some d
  kernel : d.kernels[i]? = some k

variable {f : Fleet} {h : Handle} {id i : Nat} {d : Instance} {k : Loaded}

/-- A call on a kernel that has been called before. -/
lemma Stands.callKernel (hs : f.Stands h id i d k) (calls : List Call) (k' : Loaded)
    (c : KernelCall) :
    (f.put id (d.served calls i k')).callKernel h c = (c.succeeds d.options k',
      f.put id (d.served (calls ++ [c.entry k']) i (c.leaves d.options k'))) := by
  obtain ⟨slot, hi, ho⟩ := hs.slot
  rw [callKernel_eq hi (by rw [owner?_put, ho]) (f.instance?_put_self hs.state _)
    (Instance.getElem?_served hs.kernel calls k'), put_put, Instance.withKernel_served]
  rfl

/-- A call on a kernel that is as it is found. -/
lemma Stands.callKernel_first (hs : f.Stands h id i d k) (c : KernelCall) :
    f.callKernel h c = (c.succeeds d.options k,
      f.put id (d.served [c.entry k] i (c.leaves d.options k))) := by
  have hcall := hs.callKernel [] k c
  rwa [Instance.served_nil hs.kernel, f.put_self hs.state] at hcall

end Simulator.Fleet

/-- A scene in which an instance has recorded these calls and has this kernel in place of another. -/
def Scene.served (s : Scene) (id i : Nat) (d : Instance) (calls : List Call) (k : Loaded) : Scene :=
  { s with fleet := s.fleet.put id (d.served calls i k) }

/-! ### The calls of a launch -/

/-- The pushes of these arguments as they are recorded. -/
def pushes (name : String) (args : List Value) : List Call := args.map fun v => .push name v.pushed

namespace Bridge

open Offload.Action

variable {slot : Slot} {d : Device} {k : Kernel} {s : Scene} {id i : Nat} {inst : Instance}
  {loaded : Loaded} (hs : s.fleet.Stands k.handle id i inst loaded) (ht : d.table.Simulated slot)

include hs ht

lemma pushOne_of_ne {queue : Array Pushed} (hq : inst.options.failPushAt ≠ some queue.size)
    (calls : List Call) (v : Value) :
    pushOne d k queue.size v (s.served id i inst calls ⟨k.name, queue⟩) =
      .ok () (s.served id i inst (calls ++ [.push k.name v.pushed])
        ⟨k.name, queue.push v.pushed⟩) := by
  have hpush : (s.served id i inst calls ⟨k.name, queue⟩).fleet.push
      (d.table.push v.pushed.kind) k.handle v.pushed = (true, s.fleet.put id
        (inst.served (calls ++ [.push k.name v.pushed]) i ⟨k.name, queue.push v.pushed⟩)) := by
    rw [ht.push]
    refine (hs.callKernel calls ⟨k.name, queue⟩ (.push v.pushed)).trans ?_
    simp [KernelCall.succeeds, KernelCall.entry, KernelCall.leaves, KernelCall.queue, hq]
  rw [pushOne_of_pushed (by rw [hpush]), hpush]
  rfl

lemma pushOne_of_eq {queue : Array Pushed} (hq : inst.options.failPushAt = some queue.size)
    (calls : List Call) (v : Value) :
    ∃ notices, pushOne d k queue.size v (s.served id i inst calls ⟨k.name, queue⟩) =
      .error (.argumentPush queue.size v.kind)
        { s.served id i inst (calls ++ [.push k.name v.pushed]) ⟨k.name, queue⟩ with notices } := by
  have hpush : (s.served id i inst calls ⟨k.name, queue⟩).fleet.push
      (d.table.push v.pushed.kind) k.handle v.pushed = (false, s.fleet.put id
        (inst.served (calls ++ [.push k.name v.pushed]) i ⟨k.name, queue⟩)) := by
    rw [ht.push]
    refine (hs.callKernel calls ⟨k.name, queue⟩ (.push v.pushed)).trans ?_
    simp [KernelCall.succeeds, KernelCall.entry, KernelCall.leaves, hq]
  obtain ⟨notices, heq⟩ := pushOne_of_failed (i := queue.size) (by rw [hpush])
  refine ⟨notices, ?_⟩
  rw [heq, hpush]
  rfl

/-- Pushes of which none is made to fail are all taken. -/
lemma pushAll_of_taken (args : List Value) (calls : List Call) (queue : Array Pushed)
    (hfit : ∀ m, inst.options.failPushAt = some (queue.size + m) → args.length ≤ m) :
    pushAll d k queue.size args (s.served id i inst calls ⟨k.name, queue⟩) =
      .ok () (s.served id i inst (calls ++ pushes k.name args)
        ⟨k.name, queue ++ (args.map Value.pushed).toArray⟩) := by
  induction args generalizing calls queue with
  | nil => simp [pushAll, pure_apply, pushes]
  | cons v args ih =>
    have hq : inst.options.failPushAt ≠ some queue.size := by
      intro heq
      have hle := hfit 0 heq
      simp at hle
    -- one more is queued, so the next argument finds its own number again
    have hfit' : ∀ m, inst.options.failPushAt = some ((queue.push v.pushed).size + m) →
        args.length ≤ m := by
      intro m hm
      rw [Array.size_push, Nat.add_right_comm] at hm
      have hle := hfit (m + 1) hm
      simpa using hle
    have hrest := ih (calls ++ [.push k.name v.pushed]) (queue.push v.pushed) hfit'
    rw [Array.size_push] at hrest
    change (pushOne d k queue.size v >>= fun _ => pushAll d k (queue.size + 1) args) _ = _
    rw [bind_apply, pushOne_of_ne hs ht hq calls v]
    simpa [pushes] using hrest

/-- A push that is made to fail is that of the argument which finds so many before it. -/
lemma pushAll_of_refused {args : List Value} {m : Nat} {v : Value} (calls : List Call)
    {queue : Array Pushed} (hm : inst.options.failPushAt = some (queue.size + m))
    (hv : args[m]? = some v) :
    ∃ notices, pushAll d k queue.size args (s.served id i inst calls ⟨k.name, queue⟩) =
      .error (.argumentPush (queue.size + m) v.kind)
        { s.served id i inst (calls ++ pushes k.name (args.take (m + 1)))
            ⟨k.name, queue ++ ((args.take m).map Value.pushed).toArray⟩ with
          notices } := by
  induction args generalizing calls queue m with
  | nil => simp at hv
  | cons w args ih =>
    change ∃ notices,
      (pushOne d k queue.size w >>= fun _ => pushAll d k (queue.size + 1) args) _ = _
    cases m with
    | zero =>
      obtain rfl := Option.some.inj hv
      obtain ⟨notices, heq⟩ := pushOne_of_eq hs ht hm calls w
      refine ⟨notices, ?_⟩
      rw [bind_apply, heq]
      simp [pushes]
    | succ m =>
      have hq : inst.options.failPushAt ≠ some queue.size := by
        rw [hm]
        simp
      have hsize : (queue.push w.pushed).size + m = queue.size + (m + 1) := by
        rw [Array.size_push]
        omega
      obtain ⟨notices, heq⟩ :=
        ih (calls ++ [.push k.name w.pushed]) (by rw [hsize, hm]) hv
      rw [hsize, Array.size_push] at heq
      refine ⟨notices, ?_⟩
      rw [bind_apply, pushOne_of_ne hs ht hq calls w]
      simpa [pushes] using heq

section Checked

variable {dim : Int32} {args : List Value} {signature : Signature} {range : Range}
  (hname : loaded.name = k.name) (hc : check s k dim args signature = .ok range)

include hname hc

/-- A launch ends with the clearing if that is made to fail. -/
lemma launchOn_of_failClear (hcl : inst.options.failClear = true) :
    launchOn d k dim args signature s =
      .error (.clearArgs k.name) (s.served id i inst [.clearArgs k.name] loaded) := by
  have hclear : s.fleet.clearArgs d.table.clearArgs k.handle =
      (false, s.fleet.put id (inst.served [.clearArgs k.name] i loaded)) := by
    rw [ht.clearArgs]
    refine (hs.callKernel_first .clearArgs).trans ?_
    simp [KernelCall.succeeds, KernelCall.entry, KernelCall.leaves, hcl, hname]
  rw [launchOn_of_not_cleared hc (by rw [hclear]), hclear]
  rfl

/-- Whatever was queued before, a launch pushes its arguments on an empty queue. -/
lemma launchOn_of_not_failClear (hcl : inst.options.failClear = false) :
    launchOn d k dim args signature s =
      (pushAll d k 0 args >>= fun _ => execute d k range)
        (s.served id i inst [.clearArgs k.name] ⟨k.name, #[]⟩) := by
  have hclear : s.fleet.clearArgs d.table.clearArgs k.handle =
      (true, s.fleet.put id (inst.served [.clearArgs k.name] i ⟨k.name, #[]⟩)) := by
    rw [ht.clearArgs]
    refine (hs.callKernel_first .clearArgs).trans ?_
    simp [KernelCall.succeeds, KernelCall.entry, KernelCall.leaves, KernelCall.queue, hcl, hname]
  rw [launchOn_of_cleared hc (by rw [hclear]), hclear]
  rfl

/-- A launch ends with the push that is made to fail, if it comes to that push. -/
lemma launchOn_of_failPush (hcl : inst.options.failClear = false) {m : Nat} {v : Value}
    (hm : inst.options.failPushAt = some m) (hv : args[m]? = some v) :
    ∃ notices, launchOn d k dim args signature s = .error (.argumentPush m v.kind)
      { s.served id i inst (.clearArgs k.name :: pushes k.name (args.take (m + 1)))
          ⟨k.name, ((args.take m).map Value.pushed).toArray⟩ with
        notices } := by
  have hm' : inst.options.failPushAt = some ((#[] : Array Pushed).size + m) := by simpa using hm
  obtain ⟨notices, heq⟩ := pushAll_of_refused hs ht [.clearArgs k.name] hm' hv
  refine ⟨notices, ?_⟩
  rw [launchOn_of_not_failClear hs ht hname hc hcl, bind_apply]
  simp only [Array.size_empty, Nat.zero_add, Array.empty_append] at heq
  rw [heq]
  rfl

/-- A launch of which no push is made to fail comes to its execution. -/
lemma launchOn_of_pushed (hcl : inst.options.failClear = false)
    (hfit : ∀ m, inst.options.failPushAt = some m → args.length ≤ m) :
    launchOn d k dim args signature s = execute d k range
      (s.served id i inst (.clearArgs k.name :: pushes k.name args)
        ⟨k.name, (args.map Value.pushed).toArray⟩) := by
  have hpushed := pushAll_of_taken hs ht args [.clearArgs k.name] #[]
    fun m hm => hfit m (by simpa using hm)
  rw [Array.size_empty, Array.empty_append] at hpushed
  rw [launchOn_of_not_failClear hs ht hname hc hcl, bind_apply, hpushed]
  rfl

end Checked

section Execution

variable (range : Range) (calls : List Call) (args : List Pushed)

lemma execute_served :
    (s.served id i inst calls ⟨k.name, args.toArray⟩).fleet.execute d.table.execute k.handle
        range.dim =
      (!inst.options.failExecute, s.fleet.put id
        (inst.served (calls ++ [.execute k.name range.dim args]) i ⟨k.name, args.toArray⟩)) := by
  rw [ht.execute]
  refine (hs.callKernel _ _ (.execute range.dim)).trans ?_
  simp [KernelCall.succeeds, KernelCall.entry, KernelCall.leaves, KernelCall.queue,
    range.positive]

lemma execute_of_failExecute (hx : inst.options.failExecute = true) :
    ∃ notices, execute d k range (s.served id i inst calls ⟨k.name, args.toArray⟩) =
      .error (.execution k.name)
        { s.served id i inst (calls ++ [.execute k.name range.dim args])
            ⟨k.name, args.toArray⟩ with
          notices } := by
  have hexecute := execute_served hs ht range calls args
  rw [hx] at hexecute
  obtain ⟨notices, heq⟩ := execute_of_failed (by rw [hexecute]; rfl)
  exact ⟨notices, by rw [heq, hexecute]; rfl⟩

lemma execute_of_not_failExecute (hx : inst.options.failExecute = false) :
    ∃ notices, execute d k range (s.served id i inst calls ⟨k.name, args.toArray⟩) =
      .ok { k with launches := k.launches + 1 }
        { s.served id i inst (calls ++ [.execute k.name range.dim args])
            ⟨k.name, args.toArray⟩ with
          notices } := by
  have hexecute := execute_served hs ht range calls args
  rw [hx] at hexecute
  obtain ⟨notices, heq⟩ := execute_of_ran (by rw [hexecute]; rfl)
  exact ⟨notices, by rw [heq, hexecute]; rfl⟩

end Execution

end Bridge

end Offload
