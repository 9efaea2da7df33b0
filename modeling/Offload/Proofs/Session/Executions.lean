import Offload.Proofs.Session.Reachable

/-!
What the result of a launch says about the execution on the device.

A caller that is told that the kernel did not run may run it on the host instead. So a result that
says so must come from a launch, or an offload, that executed nothing; and any other result from
one that executed the kernel once, as its last call.
-/

namespace Offload

open Simulator

/-- Whether a call runs a kernel. -/
def Simulator.Call.isExecute : Call → Bool
  | .execute _ _ _ => true
  | _ => false

lemma Simulator.Call.isExecute_of_not_isLaunch {c : Call} (h : c.isLaunch = false) :
    c.isExecute = false := by
  cases c <;> simp_all [Call.isLaunch, Call.isExecute]

namespace Simulator.Fleet

/-- No journal gains an execution on the way from one fleet to another. -/
def Unexecuted (f f' : Fleet) : Prop :=
  ∀ id, ∃ new, (f'.journal id).toList = (f.journal id).toList ++ new ∧
    ∀ c ∈ new, c.isExecute = false

/-- The last call on the way from one fleet to another executes this launch on an instance, and is
answered so; no other call executes anything. -/
def Executed (f f' : Fleet) (sim : Nat) (l : Launch) (ran : Bool) : Prop :=
  ∃ g : Fleet, f.Unexecuted g ∧ g.execute .execute l.kernel.handle l.dim = (ran, f') ∧
    (f'.journal sim).toList =
      (g.journal sim).toList ++ [.execute l.kernel.name l.dim (l.args.map Value.pushed)] ∧
    ∀ id ≠ sim, f'.journal id = g.journal id

variable {f f' f'' : Fleet} {got : List (Nat × Call)}

lemma Received.unexecuted (h : Received f f' got) (hq : ∀ x ∈ got, x.2.isExecute = false) :
    f.Unexecuted f' :=
  fun id => ⟨callsTo id got, h.journal id, fun _ hc => hq _ (mem_callsTo.1 hc)⟩

lemma Unexecuted.trans (h : f.Unexecuted f') (h' : f'.Unexecuted f'') : f.Unexecuted f'' := by
  intro id
  obtain ⟨new, hj, hq⟩ := h id
  obtain ⟨new', hj', hq'⟩ := h' id
  refine ⟨new ++ new', by rw [hj', hj, List.append_assoc], fun c hc => ?_⟩
  rcases List.mem_append.1 hc with hc | hc
  · exact hq c hc
  · exact hq' c hc

/-- Clearing and pushing execute nothing. -/
lemma Received.unexecuted_of_pushes {id : Nat} {kernel : String} {done : List Pushed}
    (h : Received f f' ((.clearArgs kernel :: done.map (.push kernel)).map (id, ·))) :
    f.Unexecuted f' := by
  refine h.unexecuted fun x hx => ?_
  obtain ⟨c, hc, rfl⟩ := List.mem_map.1 hx
  rcases List.mem_cons.1 hc with rfl | hc
  · rfl
  · obtain ⟨arg, -, rfl⟩ := List.mem_map.1 hc
    rfl

end Simulator.Fleet

namespace Bridge

open Fleet

variable {slot : Slot} {s s' : Scene} {tried : Option (Region × Bool)} {fault? : Option Fault}
  {may : Fleet → Launch → Prop} {sim : Nat}

lemma Evolves.unexecuted {f f' : Fleet} {b b' : Bridge} {got : List (Nat × Call)}
    (h : Evolves slot b f b' f' got tried) : f.Unexecuted f' :=
  h.received.unexecuted fun x hx => Call.isExecute_of_not_isLaunch (h.quiet x hx)

/-- An operation that may launch, on a bridge whose device keeps its slot: a fault that says that
nothing was executed is true, and any other end is that of the execution. -/
lemma Worked.truthful (h : Worked slot (some may) s s' tried fault?)
    (ho : s.fleet.owner? slot = some sim)
    (hmay : ∀ f l, Later s.fleet f → may f l → l.kernel.On slot sim f) :
    (∀ e, fault? = some e → e.notExecuted = true → s.fleet.Unexecuted s'.fleet) ∧
    ((∀ e, fault? = some e → e.notExecuted = false) →
      ∃ l f, may f l ∧ s.fleet.Executed s'.fleet sim l fault?.isNone) := by
  cases h with
  | calm got hev hn =>
    refine ⟨fun _ _ _ => hev.unexecuted, fun hall => ?_⟩
    rcases hn with hn | ⟨e, he, hne⟩
    · simp at hn
    · rw [hall e he] at hne
      simp at hne
  | launched f got l hev hm hl =>
    obtain ⟨p, hp, hm⟩ := hm
    obtain rfl := Option.some.inj hp
    cases hl with
    | refused e he hne hf =>
      subst hf
      refine ⟨fun _ _ _ => hev.unexecuted, fun hall => ?_⟩
      rw [hall e he] at hne
      simp at hne
    | broken e he hne ha id loaded hb done rest hsplit hf =>
      refine ⟨fun _ _ _ => hev.unexecuted.trans hf.unexecuted_of_pushes, fun hall => ?_⟩
      rw [hall e he] at hne
      simp at hne
    | executed ha id loaded hb f₁ hf hx hf' he =>
      refine ⟨fun e hfault hne => ?_, fun _ => ?_⟩
      · rw [he e hfault] at hne
        simp [Fault.notExecuted] at hne
      have hon : l.kernel.On slot sim f := hmay f l hev.received.later hm
      have ho' : f.owner? slot = some sim := by rw [hev.received.owner, ho]
      obtain ⟨rfl, hname⟩ := hon.behind ho' hb
      refine ⟨l, f, hm, f₁, hev.unexecuted.trans hf.unexecuted_of_pushes, hx, ?_, fun j hj => ?_⟩
      · rw [hf'.journal, ← hname]
        simp [callsTo]
      · have hnone : callsTo j
            [(id, Call.execute loaded.name l.dim (l.args.map Value.pushed))] = [] :=
          callsTo_map_of_ne (Ne.symm hj) [_]
        rw [Fleet.journal, hf'.instance?_eq hnone, Fleet.journal]

end Bridge

namespace Session

/-- What a result says about an execution is true: if it is a fault that says that nothing was
executed, nothing was; otherwise a launch was, once and last, and the result is a success if and
only if the device said so. -/
def Truthful (f : Fleet) (sim : Nat) (may : Launch → Prop)
    (result : Except Fault Answer × Scene) : Prop :=
  (∀ e, result.1 = .error e → e.notExecuted = true → f.Unexecuted result.2.fleet) ∧
  ((∀ e, result.1 = .error e → e.notExecuted = false) →
    ∃ l, may l ∧ f.Executed result.2.fleet sim l result.1.isOk)

variable {s : Session} {seat : Seat} {i sim : Nat}

/-- An operation that may launch is truthful about the launches that it may make. -/
lemma Sound.truthful (h : s.Sound) (hi : s.seat? i = some seat) (hsim : seat.sim = some sim)
    {slot : Slot} (hslot : s.fleet.cells[sim]?.map Cell.slot = some slot)
    (hkeeps : s.fleet.owner? slot = some sim) {o : Operation} (hk : s.Knows i o)
    {may : Fleet → Launch → Prop} (hp : o.leads? slot seat.bridge = some may)
    {may' : Launch → Prop} (hmay' : ∀ f l, may f l → may' l) :
    Truthful s.fleet sim may' (o.outcome (.of seat.bridge s.fleet)) := by
  have hw := (h.does hi (Seat.fits_of_slot hsim hslot) o).worked
  change Bridge.Worked slot (o.leads? slot seat.bridge) _ _ _ _ at hw
  rw [hp] at hw
  obtain ⟨hun, hex⟩ := hw.truthful hkeeps fun f l hf hm => h.on_of_leads hi hsim hslot hk hp hf hm
  refine ⟨fun e he => hun e (by rw [he]; rfl), fun hall => ?_⟩
  obtain ⟨l, f, hm, hexec⟩ := hex fun e he => hall e (eq_error_of_faultOf he)
  refine ⟨l, hmay' f l hm, ?_⟩
  rcases hr : (o.outcome (.of seat.bridge s.fleet)).1 with e | a <;> rw [hr] at hexec
  · exact hexec
  · exact hexec

/-- **Results tell the truth about executions**, in every reachable session and for every bridge on
a simulated device that still has its slot: a launch of a kernel, which if it is one of this bridge
is one that the session has, and an offload of anything. -/
theorem executions_truthful (h : Reachable (fun _ => True) s) (hi : s.seat? i = some seat)
    (hsim : seat.sim = some sim) {slot : Slot}
    (hslot : s.fleet.cells[sim]?.map Cell.slot = some slot)
    (hkeeps : s.fleet.owner? slot = some sim) :
    (∀ k dim args signature, (k.owner = i → ∃ j, s.kernel? j = some k) →
      Truthful s.fleet sim (· = ⟨k, dim, args⟩)
        ((Operation.launch k dim args signature).outcome (.of seat.bridge s.fleet))) ∧
    ∀ request heap, Truthful s.fleet sim
      (fun l => l.kernel.name = request.code.name ∧ l.dim = request.dim ∧ l.args = request.args)
      ((Operation.offload request heap).outcome (.of seat.bridge s.fleet)) := by
  have htruthful := fun o => h.sound.truthful (o := o) hi hsim hslot hkeeps
  refine ⟨fun k dim args signature hk => ?_, fun request heap => ?_⟩
  · exact htruthful (.launch k dim args signature) hk rfl fun f l hm => hm.1
  · exact htruthful (.offload request heap) trivial rfl fun f l hm => ⟨hm.1, hm.2.1, hm.2.2.1⟩

/-- An offload that succeeds was executed; one over nothing was not. -/
theorem executions_truthful_offload :
    let s := (((start 0).step (.install id 1)).2.step (.bridgeOver 0 .default)).2
    let seat : Seat := ⟨.of 0 (.simulated 0) .default, some 0, false⟩
    let offload := fun dim => Operation.offload
      ⟨⟨[1], "k", by decide, by decide⟩, ⟨[.object, .int], false, none⟩,
        [.object 4096, .int 7], dim⟩ ⟨4096, 64⟩
    (∃ l : Launch, l.kernel.name = "k" ∧
      s.fleet.Executed ((offload 16).outcome (.of seat.bridge s.fleet)).2.fleet 0 l true) ∧
    s.fleet.Unexecuted ((offload 0).outcome (.of seat.bridge s.fleet)).2.fleet := by
  intro s seat offload
  have hreach : Reachable (fun _ => True) s :=
    .step (.step (.start 0 trivial) (.install id 1) rfl trivial) (.bridgeOver 0 .default)
      (by decide +kernel) trivial
  have hi : s.seat? 0 = some seat := by rfl
  have hslot : s.fleet.cells[0]?.map Cell.slot = some 0 := by decide +kernel
  obtain ⟨-, htrue⟩ := executions_truthful hreach hi rfl hslot (by decide +kernel)
  have hall : ∀ dim, Truthful s.fleet 0 (fun l => l.kernel.name = "k" ∧ l.dim = dim ∧
      l.args = [.object 4096, .int 7]) ((offload dim).outcome (.of seat.bridge s.fleet)) :=
    fun dim => htrue ⟨⟨[1], "k", by decide, by decide⟩, ⟨[.object, .int], false, none⟩,
      [.object 4096, .int 7], dim⟩ ⟨4096, 64⟩
  have hran : faultOf ((offload 16).outcome (.of seat.bridge s.fleet)).1 = none := by
    decide +kernel
  have hnot : faultOf ((offload 0).outcome (.of seat.bridge s.fleet)).1 =
      some (.invalidRange 0) := by
    decide +kernel
  refine ⟨?_, (hall 0).1 _ (eq_error_of_faultOf hnot) rfl⟩
  obtain ⟨a, hok⟩ := eq_ok_of_faultOf hran
  obtain ⟨l, hl, hexec⟩ := (hall 16).2 fun e he => by
    rw [hok] at he
    simp at he
  rw [hok] at hexec
  exact ⟨l, hl.1, hexec⟩

end Session

end Offload
