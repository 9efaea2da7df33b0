import Offload.Proofs.Bridge.Courses
import Offload.Proofs.Session.Ownership

/-!
What a launch comes to in a session: its answer, the calls that the device records, and the
session after it.

A launch that its check refuses changes nothing. Any other one changes the journal of one device
and the queue of one kernel of it, and if it succeeds the count of its kernel's launches.
-/

namespace Offload

open Simulator

namespace Session

variable {s : Session} {j : Nat} {seat : Seat} {k : Kernel} {d : Device} {through : Option Nat}
  {text : SignatureText} {signature : Signature} {args : List Value} {dim : Int32} {scene : Scene}

lemma launchAction_of_owner (hd : scene.bridge.device = .ready d)
    (hk : scene.bridge.id = k.owner) :
    launchAction k through dim args signature scene =
      Bridge.launchOn d k dim args signature scene := by
  cases through with
  | none =>
    rw [launchAction, directLaunch, Action.bind_apply, Bridge.requireDevice_apply]
    simp only [hd]
  | some i => exact Bridge.launch_of_owner hd hk

section Owner

variable (h : s.Sound) (hj : s.kernel? j = some k) (hi : s.seat? k.owner = some seat)
  (hd : seat.bridge.device = .ready d) (hthrough : through.getD k.owner = k.owner)
  (hs : text.signature = .ok signature) (hb : scene.bridge = seat.bridge)

include h hj hi hd hthrough hs hb

lemma launch_of_error {e : Fault}
    (hl : Bridge.launchOn d k dim args signature (.of seat.bridge s.fleet) = .error e scene) :
    (s.step (.launch j through text args dim)).1.reply = .fault e ∧
      (s.step (.launch j through text args dim)).2 = { s with fleet := scene.fleet } := by
  have hnumber : (Scene.of seat.bridge s.fleet).bridge.id = k.owner := (h.seats _ seat hi).number
  have hr : (launchAction k through dim args signature).outcome (.of seat.bridge s.fleet) =
      (.error e, scene) := by
    rw [Action.outcome, launchAction_of_owner hd hnumber, hl]
  rw [← hthrough] at hi
  obtain ⟨hreply, hleft⟩ := launchStep_of_error hi hr j
  change (s.perform (.launch j through text args dim)).1.reply = _ ∧
    (s.perform (.launch j through text args dim)).2 = _
  simp only [perform, hs, hj]
  exact ⟨hreply, hleft.trans (left_of_bridge hi hb)⟩

lemma launch_of_ok {k' : Kernel}
    (hl : Bridge.launchOn d k dim args signature (.of seat.bridge s.fleet) = .ok k' scene) :
    (s.step (.launch j through text args dim)).1.reply = .count k'.launches ∧
      (s.step (.launch j through text args dim)).2 =
        { s with fleet := scene.fleet }.setKernel j k' := by
  have hnumber : (Scene.of seat.bridge s.fleet).bridge.id = k.owner := (h.seats _ seat hi).number
  have hr : (launchAction k through dim args signature).outcome (.of seat.bridge s.fleet) =
      (.ok k', scene) := by
    rw [Action.outcome, launchAction_of_owner hd hnumber, hl]
  rw [← hthrough] at hi
  obtain ⟨-, hreply, hleft⟩ := launchStep_of_ok hi hr j
  change (s.perform (.launch j through text args dim)).1.reply = _ ∧
    (s.perform (.launch j through text args dim)).2 = _
  simp only [perform, hs, hj]
  refine ⟨hreply, hleft.trans ?_⟩
  rw [left_of_bridge hi hb]

end Owner

/-- A kernel of a device that has its slot is one that the device knows, under its own name. -/
lemma Sound.stands (h : s.Sound) (hj : s.kernel? j = some k) (hi : s.seat? k.owner = some seat)
    {sim : Nat} (hsim : seat.sim = some sim) {slot : Slot}
    (hslot : s.fleet.cells[sim]?.map Cell.slot = some slot)
    (ho : s.fleet.owner? slot = some sim) :
    ∃ i d loaded, k.handle = .encode slot (.kernel i) ∧ loaded.name = k.name ∧
      s.fleet.Stands k.handle sim i d loaded := by
  obtain ⟨seat', sim', hi', hsim', hon⟩ := h.kernels j k hj
  obtain rfl := Option.some.inj (hi.symm.trans hi')
  obtain rfl := Option.some.inj (hsim.symm.trans hsim')
  obtain ⟨i, hindex, hname⟩ := hon slot hslot
  obtain ⟨d, hd, hname⟩ := hname ho
  rw [Instance.names, List.getElem?_map, Array.getElem?_toList] at hname
  obtain ⟨loaded, hk, hname⟩ := Option.map_eq_some_iff.1 hname
  exact ⟨i, d, loaded, (Handle.kernelIndex?_eq_some_iff.1 hindex).2, hname,
    ⟨slot, hindex, ho⟩, hd, hk⟩

/-- **What a launch comes to**, on the bridge that loaded the kernel and with the device in its
slot, whatever the kernel's queue holds. The first thing that its check finds wrong is the answer,
and nothing else comes of the launch: the extent, the signature, the heap and the arguments, in
this order. Otherwise the clearing may be made to fail, and then one of the pushes, and then the
execution: the answer names it, the device records the calls up to it, and the queue holds the
arguments that were taken. Only a launch of which nothing fails is counted. -/
theorem launch_course {s : Session} (h : Reachable (fun _ => True) s) {j : Nat} {k : Kernel}
    (hj : s.kernel? j = some k) {seat : Seat} (hi : s.seat? k.owner = some seat) {sim : Nat}
    (hsim : seat.sim = some sim) {slot : Slot}
    (hslot : s.fleet.cells[sim]?.map Cell.slot = some slot)
    (ho : s.fleet.owner? slot = some sim) {through : Option Nat}
    (hthrough : through.getD k.owner = k.owner) {text : SignatureText} {signature : Signature}
    (hs : text.signature = .ok signature) (args : List Value) (dim : Int32) :
    ∃ (d : Instance) (i : Nat) (queued : List Pushed), s.fleet.instance? sim = some d ∧
      k.handle = .encode slot (.kernel i) ∧ d.kernels[i]? = some ⟨k.name, queued.toArray⟩ ∧
      let launched := s.step (.launch j through text args dim)
      let ends (reply : Reply) (s' : Session) := launched.1.reply = reply ∧ launched.2 = s'
      let recorded (calls : List Call) (queue : List Pushed) : Session :=
        { s with fleet := s.fleet.put sim (d.served calls i ⟨k.name, queue.toArray⟩) }
      let validated heap := Marshal.validate signature args heap seat.bridge.settings.verifyObjects
      (dim ≤ 0 → ends (.fault (.invalidRange dim)) s) ∧
      (0 < dim → signature.isVoid = false → ends (.fault (.unsupportedSignature
        ("kernel '" ++ k.name ++ "' returns a value; only void kernels can be launched"))) s) ∧
      (0 < dim → signature.isVoid = true →
        (seat.bridge.heap? = none → ends (.fault .heapNotRegistered) s) ∧
        ∀ heap, seat.bridge.heap? = some heap →
          (∀ e, validated heap = .error e → ends (.fault e) s) ∧
          (validated heap = .ok () →
            (d.options.failClear = true →
              ends (.fault (.clearArgs k.name)) (recorded [.clearArgs k.name] queued)) ∧
            (d.options.failClear = false →
              (∀ m v, d.options.failPushAt = some m → args[m]? = some v →
                ends (.fault (.argumentPush m v.kind))
                  (recorded (.clearArgs k.name :: pushes k.name (args.take (m + 1)))
                    ((args.take m).map Value.pushed))) ∧
              ((∀ m, d.options.failPushAt = some m → args.length ≤ m) →
                let s' := recorded (.clearArgs k.name :: pushes k.name args ++
                  [.execute k.name dim (args.map Value.pushed)]) (args.map Value.pushed)
                (d.options.failExecute = true → ends (.fault (.execution k.name)) s') ∧
                (d.options.failExecute = false → ends (.count (k.launches + 1))
                  (s'.setKernel j { k with launches := k.launches + 1 })))))) := by
  obtain ⟨seat', device, hi', hd⟩ := h.exists_home hj
  obtain rfl := Option.some.inj (hi.symm.trans hi')
  obtain ⟨i, d, ⟨name, queue⟩, hhandle, rfl, hstands⟩ := h.sound.stands hj hi hsim hslot ho
  have hlinked := ((h.sound.seats _ seat hi).linked sim slot (Seat.fits_of_slot hsim hslot)).2
  have ht : device.table.Simulated slot := hlinked.table _ (hlinked.device device hd).1
  have hcheck : Bridge.check (.of seat.bridge s.fleet) k dim args signature = _ :=
    Bridge.check_apply
  have hunfit : ∀ e, Bridge.check (.of seat.bridge s.fleet) k dim args signature = .error e →
      (s.step (.launch j through text args dim)).1.reply = .fault e ∧
        (s.step (.launch j through text args dim)).2 = s :=
    fun e he => launch_of_error h.sound hj hi hd hthrough hs rfl (Bridge.launchOn_of_unfit he)
  refine ⟨d, i, queue.toList, hstands.state, hhandle, hstands.kernel, fun hdim => ?_,
    fun hdim hvoid => ?_, fun hdim hvoid => ?_⟩
  · exact hunfit _ (by rw [hcheck, dif_neg (Int32.not_lt.2 hdim)])
  · exact hunfit _ (by rw [hcheck, dif_pos hdim, if_neg (by simp [hvoid])])
  rw [dif_pos hdim, if_pos hvoid] at hcheck
  refine ⟨fun hheap => hunfit _ ?_, fun heap hheap => ⟨fun e he => hunfit e ?_, fun hok => ?_⟩⟩
  · rw [hcheck]
    simp only [Scene.of, hheap]
  · rw [hcheck]
    simp only [Scene.of, hheap, he]
    rfl
  have hc : Bridge.check (.of seat.bridge s.fleet) k dim args signature = .ok ⟨dim, hdim⟩ := by
    rw [hcheck]
    simp only [Scene.of, hheap, hok]
    rfl
  have hst : (Scene.of seat.bridge s.fleet).fleet.Stands k.handle sim i d ⟨k.name, queue⟩ :=
    hstands
  refine ⟨fun hcl => ?_, fun hcl => ⟨fun m v hm hv => ?_, fun hfit => ?_⟩⟩
  · exact launch_of_error h.sound hj hi hd hthrough hs rfl
      (Bridge.launchOn_of_failClear hst ht rfl hc hcl)
  · obtain ⟨notices, heq⟩ := Bridge.launchOn_of_failPush hst ht rfl hc hcl hm hv
    exact launch_of_error h.sound hj hi hd hthrough hs rfl heq
  · have hlaunch := Bridge.launchOn_of_pushed hst ht rfl hc hcl hfit
    refine ⟨fun hx => ?_, fun hx => ?_⟩
    · obtain ⟨notices, heq⟩ := Bridge.execute_of_failExecute hst ht ⟨dim, hdim⟩ _ _ hx
      exact launch_of_error h.sound hj hi hd hthrough hs rfl (hlaunch.trans heq)
    · obtain ⟨notices, heq⟩ := Bridge.execute_of_not_failExecute hst ht ⟨dim, hdim⟩ _ _ hx
      exact launch_of_ok h.sound hj hi hd hthrough hs rfl (hlaunch.trans heq)

/-- A kernel with a value left in its queue, on a device that is made to fail the second push: the
launch fails with its second argument, and the first one is all that the queue holds then. -/
theorem launch_course_broken :
    let s := (start 0).afterAll [.install id 1, .bridgeOver 0 .default, .connect 0,
      .registerHeap 0 ⟨4096, 64⟩, .loadKernel 0 "k" [1], .table 0,
      .call 0 (.push (.word (Handle.encode 0 (.kernel 0)).bits) (.int 9)),
      .configure 0 fun o => { o with failPushAt := some 1 }]
    let launch (dim : Int32) : Step :=
      .launch 0 (some 0) (.void [.int, .short] false) [.int 7, .short (-2)] dim
    ((s.step (launch 0)).1.reply = .fault (.invalidRange 0) ∧ (s.step (launch 0)).2 = s) ∧
    ∃ d, s.fleet.instance? 0 = some d ∧ d.kernels = #[⟨"k", #[.int 9]⟩] ∧
      (s.step (launch 16)).1.reply = .fault (.argumentPush 1 .short) ∧
      (s.step (launch 16)).2 = { s with
        fleet := s.fleet.put 0 (d.served
          [.clearArgs "k", .push "k" (.int 7), .push "k" (.int (-2))] 0 ⟨"k", #[.int 7]⟩) } := by
  intro s launch
  have hreach : Reachable (fun _ => True) s := reachable_afterAll 0 _ (by decide +kernel)
  have hj : s.kernel? 0 = some ⟨0, .encode 0 (.kernel 0), "k", 0⟩ := by decide +kernel
  obtain ⟨seat, hi⟩ : ∃ seat, s.seat? 0 = some seat :=
    Option.isSome_iff_exists.1 (by decide +kernel)
  have hsim : (s.seat? 0).bind Seat.sim = some 0 := by decide +kernel
  have hheap : (s.seat? 0).bind (fun seat => seat.bridge.heap?) = some ⟨4096, 64⟩ := by
    decide +kernel
  have hslot : s.fleet.cells[0]?.map Cell.slot = some 0 := by decide +kernel
  have ho : s.fleet.owner? 0 = some 0 := by decide +kernel
  have hinstance : (s.fleet.instance? 0).map (fun d => (d.options, d.kernels)) =
      some ({ failPushAt := some 1 }, #[⟨"k", #[.int 9]⟩]) := by decide +kernel
  -- from here on the session is known by these facts alone
  clear_value s
  rw [hi] at hsim hheap
  have hthrough : (some 0 : Option Nat).getD 0 = 0 := rfl
  have hs : (SignatureText.void [.int, .short] false).signature = .ok (.void [.int, .short] false) :=
    rfl
  have hlaunch := launch_course hreach hj hi hsim hslot ho hthrough hs [.int 7, .short (-2)]
  obtain ⟨-, -, -, -, -, -, hextent, -⟩ := hlaunch 0
  obtain ⟨d, i, queued, hd, -, hk, -, -, hchecked⟩ := hlaunch 16
  rw [hd, Option.map_some, Option.some.injEq, Prod.mk.injEq] at hinstance
  obtain ⟨hoptions, hkernels⟩ := hinstance
  obtain rfl : i = 0 := by
    rw [hkernels] at hk
    have hlt := (Array.getElem?_eq_some_iff.1 hk).1
    simpa using hlt
  obtain ⟨hpush, -⟩ :=
    (((hchecked (by decide) rfl).2 _ hheap).2 rfl).2 (by rw [hoptions])
  obtain ⟨hreply, hafter⟩ := hpush 1 (.short (-2)) (by rw [hoptions]) rfl
  have hcalls : pushes "k" [.int 7, .short (-2)] = [.push "k" (.int 7), .push "k" (.int (-2))] := by
    decide
  refine ⟨hextent (Int32.le_refl 0), d, hd, hkernels, hreply, hafter.trans ?_⟩
  change { s with fleet := s.fleet.put 0 (d.served
    (.clearArgs "k" :: pushes "k" [.int 7, .short (-2)]) 0 ⟨"k", #[.int 7]⟩) } = _
  rw [hcalls]

end Session

end Offload
