import Offload.Proofs.Bridge.Effects
import Offload.Proofs.Simulator.Histories

/-!
Launches of different kernels at the same time, their calls in any order.

A launch is the sequence of its calls, which breaks off at the first that fails. What a call
answers is known from what is seen of its kernel, and a call changes what is seen of no other. So
in any order a launch gets the answers that it gets alone; and as its own clearing and pushes are
all that happens to the queue, its execution finds its own arguments there.
-/

namespace Offload

open Simulator

/-- The calls of a launch on its kernel, if none of them fails. -/
def Launch.calls (l : Launch) : List KernelCall :=
  .clearArgs :: (l.args.map fun v => .push v.pushed) ++ [.execute l.dim]

/-- How a call of a launch is recorded: the execution with the arguments of the launch. -/
def Launch.entry (l : Launch) (name : String) : KernelCall → Call
  | .clearArgs => .clearArgs name
  | .push arg => .push name arg
  | .execute _ => .execute name l.dim (l.args.map Value.pushed)

namespace Simulator.Fleet

/-- Calls on one kernel up to the first that fails, with their answers. -/
def alone (f : Fleet) (h : Handle) : List KernelCall → List (KernelCall × Bool) × Fleet
  | [] => ([], f)
  | c :: rest =>
    let (ok, f') := f.callKernel h c
    if ok then
      let (answers, f'') := f'.alone h rest
      ((c, ok) :: answers, f'')
    else ([(c, ok)], f')

variable {ι : Type} [DecidableEq ι]

/-- Calls on several kernels, with their answers: whoever has the turn makes the next of its calls,
if one is left, and makes no further ones after one that fails. -/
def interleave (f : Fleet) (handle : ι → Handle) (todo : ι → List KernelCall) :
    List ι → List (ι × KernelCall × Bool) × Fleet
  | [] => ([], f)
  | j :: turns =>
    match todo j with
    | [] => f.interleave handle todo turns
    | c :: rest =>
      let (ok, f') := f.callKernel (handle j) c
      let todo' := Function.update todo j (if ok then rest else [])
      let (answers, f'') := f'.interleave handle todo' turns
      ((j, c, ok) :: answers, f'')

/-- The part of one caller in the calls of all. -/
def partOf (j : ι) (trace : List (ι × KernelCall × Bool)) : List (KernelCall × Bool) :=
  trace.filterMap fun x => if x.1 = j then some x.2 else none

/-! ### The answers -/

/-- The answer to a call, by what is seen of its kernel. -/
def reply (seen : Option (Nat × Options × Loaded)) (c : KernelCall) : Bool :=
  seen.any fun x => c.succeeds x.2.1 x.2.2

/-- What is seen of the kernel after a call on it. -/
def seenAfter (seen : Option (Nat × Options × Loaded)) (c : KernelCall) :
    Option (Nat × Options × Loaded) :=
  seen.map fun x => (x.1, x.2.1, c.leaves x.2.1 x.2.2)

/-- The answers to calls on a kernel, up to the first that fails. -/
def replies (seen : Option (Nat × Options × Loaded)) : List KernelCall → List (KernelCall × Bool)
  | [] => []
  | c :: rest =>
    (c, reply seen c) :: if reply seen c then replies (seenAfter seen c) rest else []

variable {f : Fleet} {h : Handle}

lemma callKernel_reply (f : Fleet) (h : Handle) (c : KernelCall) :
    (f.callKernel h c).1 = reply (f.view? h) c ∧
      (f.callKernel h c).2.view? h = seenAfter (f.view? h) c := by
  rcases hv : f.view? h with _ | ⟨id, o, k⟩
  · rw [callKernel_of_behind?_eq_none (behind?_eq_none_of_view? hv)]
    exact ⟨rfl, hv⟩
  · exact callKernel_of_view? hv c

lemma alone_replies (f : Fleet) (h : Handle) (calls : List KernelCall) :
    (f.alone h calls).1 = replies (f.view? h) calls := by
  induction calls generalizing f with
  | nil => rfl
  | cons c rest ih =>
    obtain ⟨hans, hafter⟩ := f.callKernel_reply h c
    rw [alone, replies, ← hans, ← hafter, ← ih]
    simp only
    split <;> simp_all

lemma Tracked.callKernel (ht : f.Tracked) (h : Handle) (c : KernelCall) :
    (f.callKernel h c).2.Tracked :=
  ht.perform (.callKernel h c)

/-- Each caller gets the answers that it gets alone, as many as it has had turns. -/
lemma Tracked.partOf_interleave (ht : f.Tracked) {handle : ι → Handle}
    (hdistinct : Function.Injective handle) (todo : ι → List KernelCall) (turns : List ι) (j : ι) :
    partOf j (f.interleave handle todo turns).1 =
      (replies (f.view? (handle j)) (todo j)).take (turns.count j) := by
  induction turns generalizing f todo with
  | nil => simp [interleave, partOf]
  | cons i turns ih =>
    rw [interleave]
    rcases htodo : todo i with _ | ⟨c, rest⟩
    · simp only
      rw [ih ht]
      by_cases hij : i = j
      · subst hij
        simp [htodo, replies]
      · rw [List.count_cons_of_ne hij]
    · obtain ⟨hans, hafter⟩ := f.callKernel_reply (handle i) c
      have hrest := ih (ht.callKernel (handle i) c)
        (Function.update todo i (if (f.callKernel (handle i) c).1 then rest else []))
      by_cases hij : i = j
      · subst hij
        rw [Function.update_self, hafter] at hrest
        simp only [partOf, List.filterMap_cons, if_true, List.count_cons_self]
        rw [htodo, replies, List.take_succ_cons, ← hans]
        refine congrArg _ (hrest.trans ?_)
        split <;> simp [replies]
      · rw [Function.update_of_ne (Ne.symm hij),
          ht.view?_callKernel_of_ne (fun heq => hij (hdistinct heq))] at hrest
        simpa only [partOf, List.filterMap_cons, hij, if_false, List.count_cons_of_ne hij,
          ne_eq, not_false_iff] using hrest

end Simulator.Fleet

/-! ### The entries -/

namespace Launch

variable {l : Launch} {k : Loaded} {c : KernelCall} {todo : List KernelCall}

/-- How far a launch can be: all of it is left, or nothing, or the execution after the pushes of
the arguments that its kernel's queue lacks. -/
inductive Underway (l : Launch) (k : Loaded) : List KernelCall → Prop
  | fresh : Underway l k l.calls
  | ended : Underway l k []
  | pushing (rest : List Value)
      (hqueue : k.queue.toList ++ rest.map Value.pushed = l.args.map Value.pushed) :
      Underway l k ((rest.map fun v => .push v.pushed) ++ [.execute l.dim])

/-- A call of a launch is recorded with what belongs to the launch, and takes it one step on. -/
lemma Underway.step (h : l.Underway k (c :: todo)) (o : Options) :
    c.entry k = l.entry k.name c ∧
      (c.succeeds o k = true → l.Underway (c.leaves o k) todo) := by
  generalize hall : c :: todo = all at h
  cases h with
  | fresh =>
    obtain ⟨rfl, rfl⟩ := List.cons.inj hall
    refine ⟨rfl, fun hok => ?_⟩
    rw [KernelCall.leaves, if_pos hok]
    exact .pushing l.args rfl
  | ended => simp at hall
  | pushing rest hqueue =>
    cases rest with
    | nil =>
      obtain ⟨rfl, rfl⟩ := List.cons.inj hall
      rw [List.map_nil, List.append_nil] at hqueue
      exact ⟨by rw [KernelCall.entry, entry, hqueue], fun _ => .ended⟩
    | cons v rest =>
      obtain ⟨rfl, rfl⟩ := List.cons.inj hall
      refine ⟨rfl, fun hok => ?_⟩
      rw [KernelCall.leaves, if_pos hok]
      refine .pushing rest ?_
      simpa [KernelCall.queue] using hqueue

end Launch

namespace Simulator.Fleet

variable {ι : Type} [DecidableEq ι] {f : Fleet} {id : Nat}

/-- Launches under way on kernels of one instance are all that happens to the fleet, and each of
their calls is recorded with what belongs to its launch. -/
lemma Tracked.received_interleave (ht : f.Tracked) {launches : ι → Launch}
    (hdistinct : Function.Injective fun j => (launches j).kernel.handle) {names : ι → String}
    (todo : ι → List KernelCall)
    (hunderway : ∀ j, ∃ o k, f.view? (launches j).kernel.handle = some (id, o, k) ∧
      k.name = names j ∧ (launches j).Underway k (todo j)) (turns : List ι) :
    let run := f.interleave (fun j => (launches j).kernel.handle) todo turns
    Received f run.2 (run.1.map fun x => (id, (launches x.1).entry (names x.1) x.2.1)) := by
  induction turns generalizing f todo with
  | nil => exact .refl f
  | cons i turns ih =>
    rw [interleave]
    rcases htodo : todo i with _ | ⟨c, rest⟩
    · exact ih ht todo hunderway
    · obtain ⟨o, k, hview, hname, hleft⟩ := hunderway i
      rw [htodo] at hleft
      obtain ⟨hentry, hnext⟩ := hleft.step o
      obtain ⟨hans, hafter⟩ := callKernel_of_view? hview c
      have hrec := received_callKernel (behind?_of_view? hview) c
      rw [hentry, hname] at hrec
      refine hrec.trans (ih (ht.callKernel _ c) _ fun j => ?_)
      by_cases hij : i = j
      · subst hij
        refine ⟨o, c.leaves o k, hafter, by rw [c.name_leaves o k, hname], ?_⟩
        rw [Function.update_self, hans]
        split
        · rename_i hok
          exact hnext hok
        · exact .ended
      · obtain ⟨o', k', hview', hrest⟩ := hunderway j
        rw [Function.update_of_ne (Ne.symm hij),
          ht.view?_callKernel_of_ne (fun heq => hij (hdistinct heq)) c]
        exact ⟨o', k', hview', hrest⟩

end Simulator.Fleet

/-! ### The calls of the program -/

namespace Action

/-- The action makes these calls on a kernel, up to the first that fails, and succeeds if none
does. -/
def Makes {β : Type} (a : Action β) (s : Scene) (h : Handle) (calls : List KernelCall) : Prop :=
  a.Ends s fun r s' =>
    s'.fleet = (s.fleet.alone h calls).2 ∧
      (faultOf r = none ↔ ∀ x ∈ (s.fleet.alone h calls).1, x.2 = true)

variable {β : Type} {a : Action β} {s s' : Scene} {h : Handle} {c : KernelCall}
  {calls : List KernelCall}

lemma makes_of_failed {e : Fault} (hc : (s.fleet.callKernel h c).1 = false) (ha : a s = .error e s')
    (hf : s'.fleet = (s.fleet.callKernel h c).2) : a.Makes s h (c :: calls) := by
  refine ends_of_error ha ?_
  simp [Fleet.alone, hc, hf]

lemma Makes.of_succeeded (hc : (s.fleet.callKernel h c).1 = true) {a' : Action β}
    (ha : a s = a' s') (hf : s'.fleet = (s.fleet.callKernel h c).2) (h' : a'.Makes s' h calls) :
    a.Makes s h (c :: calls) := by
  refine Ends.of_eq ha (h'.mono fun r s'' hr => ?_)
  simpa [Fleet.alone, hc, ← hf] using hr

/-- An action succeeds if none of its calls fails. -/
lemma Makes.exists_ok (hm : a.Makes s h calls)
    (hall : ∀ x ∈ (s.fleet.alone h calls).1, x.2 = true) :
    ∃ b s', a s = .ok b s' ∧ s'.fleet = (s.fleet.alone h calls).2 := by
  unfold Makes Ends at hm
  rcases ha : a s with ⟨b, s'⟩ | ⟨e, s'⟩ <;> rw [ha] at hm
  · exact ⟨b, s', rfl, hm.1⟩
  · have hnone := hm.2.2 hall
    simp at hnone

end Action

namespace Bridge

open Offload.Action

variable {slot : Slot} {d : Device} {k : Kernel} {s : Scene}

lemma pushAll_makes (ht : d.table.Simulated slot) (range : Range) (i : Nat) (args : List Value) :
    (pushAll d k i args >>= fun _ => execute d k range).Makes s k.handle
      ((args.map fun v => .push v.pushed) ++ [.execute range.dim]) := by
  induction args generalizing s i with
  | nil =>
    change (execute d k range).Makes s k.handle [.execute range.dim]
    have hx : (s.fleet.execute d.table.execute k.handle range.dim) =
        s.fleet.callKernel k.handle (.execute range.dim) := by rw [ht.execute, Fleet.callKernel]
    rcases hok : (s.fleet.callKernel k.handle (.execute range.dim)).1
    · obtain ⟨notices, heq⟩ := execute_of_failed (by rw [hx, hok])
      exact makes_of_failed hok heq (by rw [hx])
    · obtain ⟨notices, heq⟩ := execute_of_ran (by rw [hx, hok])
      refine ends_of_ok heq ?_
      simp [Fleet.alone, hok, hx]
  | cons v args ih =>
    have hassoc : (pushAll d k i (v :: args) >>= fun _ => execute d k range) =
        (pushOne d k i v >>= fun _ => pushAll d k (i + 1) args >>= fun _ => execute d k range) :=
      bind_assoc _ _ _
    have hp : s.fleet.push (d.table.push v.pushed.kind) k.handle v.pushed =
        s.fleet.callKernel k.handle (.push v.pushed) := by rw [ht.push, Fleet.callKernel]
    rw [hassoc, List.map_cons, List.cons_append]
    rcases hok : (s.fleet.callKernel k.handle (.push v.pushed)).1
    · obtain ⟨notices, heq⟩ := pushOne_of_failed (i := i) (by rw [hp, hok])
      exact makes_of_failed hok (by rw [bind_apply, heq]) (by rw [hp])
    · have heq := pushOne_of_pushed (i := i) (by rw [hp, hok])
      exact Makes.of_succeeded hok (by rw [bind_apply, heq]) (by rw [hp]) (ih (i + 1))

/-- A launch that passes its check makes its calls and nothing else. -/
lemma launchOn_makes (ht : d.table.Simulated slot) {l : Launch} {signature : Signature}
    {range : Range} (hc : check s l.kernel l.dim l.args signature = .ok range) :
    (launchOn d l.kernel l.dim l.args signature).Makes s l.kernel.handle l.calls := by
  have hcl : s.fleet.clearArgs d.table.clearArgs l.kernel.handle =
      s.fleet.callKernel l.kernel.handle .clearArgs := by rw [ht.clearArgs, Fleet.callKernel]
  have hcalls : l.calls =
      .clearArgs :: ((l.args.map fun v => .push v.pushed) ++ [.execute range.dim]) := by
    rw [Launch.calls, (of_check_eq_ok hc).1, List.cons_append]
  rw [hcalls]
  rcases hok : (s.fleet.callKernel l.kernel.handle .clearArgs).1
  · exact makes_of_failed hok (launchOn_of_not_cleared hc (by rw [hcl, hok])) (by rw [hcl])
  · exact Makes.of_succeeded hok (launchOn_of_cleared hc (by rw [hcl, hok])) (by rw [hcl])
      (pushAll_makes ht range 0 l.args)

/-- **Launches apart**: however the calls of launches on different kernels of an instance are
ordered, each launch gets the answers that it gets alone, as many as it has had turns; and the
calls are all that the instance records, every execution with the arguments and the extent of its
own launch. These calls are what a launch does once it has passed its check. -/
theorem launches_apart {ι : Type} [DecidableEq ι] (n : Nat) (history : List Fleet.Deed) (id : Nat)
    (launches : ι → Launch) (loaded : ι → Loaded)
    (hdistinct : Function.Injective fun j => (launches j).kernel.handle)
    (hloaded : ∀ j, ((Fleet.vacant n).performAll history).behind? (launches j).kernel.handle =
      some (id, loaded j)) (turns : List ι) :
    let f := (Fleet.vacant n).performAll history
    let handle := fun j => (launches j).kernel.handle
    let run := f.interleave handle (fun j => (launches j).calls) turns
    (∀ j, Fleet.partOf j run.1 =
      (f.alone (handle j) (launches j).calls).1.take (turns.count j)) ∧
    (run.2.journal id).toList = (f.journal id).toList ++
      (run.1.map fun x => (launches x.1).entry (loaded x.1).name x.2.1) ∧
    ∀ j slot (s : Scene) (d : Device) signature range, d.table.Simulated slot →
      check s (launches j).kernel (launches j).dim (launches j).args signature = .ok range →
      (launchOn d (launches j).kernel (launches j).dim (launches j).args signature).Makes s
        (handle j) (launches j).calls := by
  intro f handle run
  have ht : f.Tracked := (Fleet.tracked_vacant n).performAll history
  refine ⟨fun j => ?_, ?_, fun j slot s d signature range hd hc => launchOn_makes hd hc⟩
  · rw [Fleet.alone_replies]
    exact ht.partOf_interleave hdistinct _ turns j
  · have hfresh : ∀ j, ∃ o k, f.view? (handle j) = some (id, o, k) ∧ k.name = (loaded j).name ∧
        (launches j).Underway k (launches j).calls := by
      intro j
      obtain ⟨o, hview⟩ := Fleet.exists_view?_of_behind? (hloaded j)
      exact ⟨o, loaded j, hview, rfl, .fresh⟩
    have hjournal := (ht.received_interleave hdistinct _ hfresh turns).journal id
    have hmap : (run.1.map fun x => (id, (launches x.1).entry (loaded x.1).name x.2.1)) =
        (run.1.map fun x => (launches x.1).entry (loaded x.1).name x.2.1).map (id, ·) := by
      rw [List.map_map]
      rfl
    rw [hmap, callsTo_map_self] at hjournal
    exact hjournal

/-- Two launches taking turns on a device that takes one argument: the one with a single argument
executes with it, though its queue held another one before, and the other breaks off. -/
theorem launches_apart_two :
    let context := Handle.encode 0 .context
    let kernel (i : Nat) (name : String) : Kernel := ⟨0, .encode 0 (.kernel i), name, 0⟩
    let history : List Fleet.Deed := [.install { failPushAt := some 1 }, .createContext 0,
      .createKernel context (some [1]) (some [97]), .createKernel context (some [1]) (some [98]),
      .callKernel (.encode 0 (.kernel 0)) (.push (.int 9)), .drain 0]
    let launches : Bool → Launch
      | true => ⟨kernel 0 "a", 4, [.int 5]⟩
      | false => ⟨kernel 1 "b", 8, [.int 6, .int 7]⟩
    let f := (Fleet.vacant 0).performAll history
    let run := f.interleave (fun j => (launches j).kernel.handle) (fun j => (launches j).calls)
      [true, false, false, true, false, true, false]
    (run.2.journal 0).toList = [.clearArgs "a", .clearArgs "b", .push "b" (.int 6),
      .push "a" (.int 5), .push "b" (.int 7), .execute "a" 4 [.int 5]] := by
  intro context kernel history launches f run
  have hdistinct : Function.Injective fun j => (launches j).kernel.handle := by decide +kernel
  have hloaded : ∀ j, f.behind? (launches j).kernel.handle =
      some (0, match j with | true => ⟨"a", #[.int 9]⟩ | false => ⟨"b", #[]⟩) := by
    decide +kernel
  obtain ⟨-, hjournal, -⟩ := launches_apart 0 history 0 launches _ hdistinct hloaded
    [true, false, false, true, false, true, false]
  rw [hjournal]
  decide +kernel

end Bridge

end Offload
