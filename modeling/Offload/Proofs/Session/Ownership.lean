import Offload.Proofs.Bridge.Faults
import Offload.Proofs.Bridge.Lifecycle
import Offload.Proofs.Session.Steps

/-!
Kernels and the bridges that loaded them, in sessions with any number of bridges.

A kernel stays what it was loaded as, and the bridge that loaded it keeps its device as long as
the kernel is there. Contexts on one simulated device have the same handle, so nothing that the
device sees tells whose kernel it is given: the launch itself has to refuse those of others.
-/

namespace Offload

open Simulator

/-- What of a kernel no launch changes. -/
def Kernel.identity (k : Kernel) : Nat × Handle × String := (k.owner, k.handle, k.name)

namespace Bridge

open Offload.Action

/-- A launch never takes its kernel for another context's. -/
lemma launchOn_native {d : Device} {k : Kernel} (dim : Int32) (args : List Value)
    (signature : Signature) (s : Scene) :
    (launchOn d k dim args signature).Ends s fun r _ =>
      ∀ reason, faultOf r ≠ some (.invalidKernel reason) := by
  refine Ends.mono (launchOn_onDevice dim args signature s) fun r s' hr reason heq => ?_
  rcases hr.2.2 _ heq with hc | he | ⟨i, kind, he⟩ | he
  · rcases of_check_eq_error hc with he | ⟨_, he⟩ | he | he <;> cases he
  all_goals cases he

/-- What a bridge answers to a launch of a kernel that it has not loaded. -/
def refusal (b : Bridge) (kernel : String) : Fault :=
  match b.device with
  | .undecided => .notInitialized "execute_kernel_void_1d"
  | .unavailable => .context
  | .ready _ => .invalidKernel ("kernel '" ++ kernel ++ "' was created on another context")

lemma launch_of_refused {k : Kernel} {s : Scene} (hk : s.bridge.id ≠ k.owner) (dim : Int32)
    (args : List Value) (signature : Signature) :
    launch k dim args signature s = .error (s.bridge.refusal k.name) s := by
  rw [launch_apply, refusal]
  rcases s.bridge.device with _ | _ | d
  · rfl
  · rfl
  · exact if_neg hk

/-- Whoever loads a kernel has a device, and owns the kernel. -/
lemma loadKernel_owner (code : Code) (s : Scene) :
    (loadKernel code).Ends s fun r s' => ∀ k, r = .ok k →
      k.owner = s.bridge.id ∧ k.name = code.name ∧ s'.bridge = s.bridge ∧
        ∃ d, s.bridge.device = .ready d := by
  unfold loadKernel
  rcases hd : s.bridge.device with _ | _ | d
  · exact Ends.bind_of_error (by rw [requireDevice_apply, hd]) (by simp)
  · exact Ends.bind_of_error (by rw [requireDevice_apply, hd]) (by simp)
  · refine Ends.bind_of_ok (by rw [requireDevice_apply, hd]) ?_
    rcases hn : (loading d code s.fleet).1.isNull
    · obtain ⟨notices, heq⟩ := loadOn_of_loaded hn
      refine ends_of_ok heq fun k hk => ?_
      obtain rfl := Except.ok.inj hk
      exact ⟨rfl, rfl, rfl, d, rfl⟩
    · obtain ⟨notices, heq⟩ := loadOn_of_null hn
      exact ends_of_error heq (by simp)

end Bridge

namespace Session

variable {s : Session} {i j : Nat} {seat seat' : Seat} {k k' : Kernel} {st : Step}

/-! ### Kernels from step to step -/

lemma kernels_run {β : Type} (s : Session) (i : Nat) (a : Action β) :
    (s.run i a).2.kernels = s.kernels := by
  rcases hi : s.seat? i with _ | seat
  · rw [run_of_absent hi]
  · rw [run_of_seat hi]
    rfl

lemma kernels_installMany (s : Session) (options : Options) (n : Nat) :
    (s.installMany options n).2.kernels = s.kernels := by
  induction n generalizing s with
  | zero => rfl
  | succ n ih => exact ih (s.install options)

lemma kernels_release (s : Session) (sim : Nat) : (s.release sim).kernels = s.kernels := by
  unfold release
  split <;> rfl

/-- The kernels that a bridge loads, launches and takes with it are all that any step changes. -/
lemma kernels_perform (hload : ∀ i name code, st ≠ .loadKernel i name code)
    (hlaunch : ∀ j through text args dim, st ≠ .launch j through text args dim)
    (hdrop : ∀ i, st ≠ .dropBridge i) : (s.perform st).2.kernels = s.kernels := by
  cases st with
  | install change count => exact kernels_installMany s (change {}) count
  | dropSim sim => exact kernels_release _ sim
  | dropBridge i => exact absurd rfl (hdrop i)
  | loadKernel i name code => exact absurd rfl (hload i name code)
  | launch j through text args dim => exact absurd rfl (hlaunch j through text args dim)
  | link i | connect i | totalCores i | registerHeap i region =>
    simp only [perform, onBridge_snd, kernels_run]
  | offload i text args dim name code heap =>
    simp only [perform]
    split
    · rfl
    · split
      · rfl
      · rw [onBridge_snd, kernels_run]
  | settings i | status i | kernelInfo j | table sim | call j call =>
    simp only [perform]
    split <;> rfl
  | _ => rfl

/-- Loading a kernel fails and is answered with none, or adds the kernel that it answers with. -/
lemma Sound.loadStep_cases (h : s.Sound) (i : Nat) (code : Code) :
    ((s.loadStep i code).2.kernels = s.kernels ∧ ∀ j k, (s.loadStep i code).1.reply ≠ .kernel j k) ∨
    ∃ k seat d, (s.loadStep i code).1.reply = .kernel s.kernels.size k ∧
      (s.loadStep i code).2.kernels = s.kernels.push (some k) ∧ k.owner = i ∧ k.name = code.name ∧
      s.seat? i = some seat ∧ seat.bridge.device = .ready d := by
  rcases hi : s.seat? i with _ | seat
  · left
    simp [loadStep, run_of_absent hi]
  have hown := Action.ends_iff.1 (Bridge.loadKernel_owner code (.of seat.bridge s.fleet))
  unfold loadStep
  rw [run_of_seat hi]
  rcases hr : ((Bridge.loadKernel code).outcome (.of seat.bridge s.fleet)).1 with e | k <;>
    simp only [hr]
  · exact .inl ⟨rfl, by simp⟩
  · right
    obtain ⟨howner, hname, -, d, hd⟩ := hown k hr
    exact ⟨k, seat, d, rfl, rfl, howner.trans (h.seats i seat hi).number, hname, rfl, hd⟩

/-- How a kernel is launched through a bridge, or on its own device. -/
def launchAction (k : Kernel) (through : Option Nat) (dim : Int32) (args : List Value)
    (signature : Signature) : Action Kernel :=
  match through with
  | some _ => Bridge.launch k dim args signature
  | none => directLaunch k dim args signature

lemma launchStep_eq (s : Session) (j : Nat) (k : Kernel) (through : Option Nat)
    (signature : Signature) (args : List Value) (dim : Int32) :
    s.launchStep j k through signature args dim =
      match s.run (through.getD k.owner) (launchAction k through dim args signature) with
      | (none, s') => ({ reply := .absent }, s')
      | (some (outcome, notices, queries), s') =>
        let notices := notices.toList
        let queries :=
          if (s.seat? (through.getD k.owner)).any Seat.watched then queries.toList else []
        match outcome with
        | .ok k' => ({ reply := .count k'.launches, notices, queries }, s'.setKernel j k')
        | .error e => ({ reply := .fault e, notices, queries }, s') := by
  cases through <;> rfl

section Launch

variable {through : Option Nat} {signature : Signature} {args : List Value} {dim : Int32}
  {scene : Scene}

lemma launchStep_of_absent (hi : s.seat? (through.getD k.owner) = none) (j : Nat) :
    s.launchStep j k through signature args dim = ({ reply := .absent }, s) := by
  rw [launchStep_eq, run_of_absent hi]

/-- A launch that fails is answered with its fault. -/
lemma launchStep_of_error (hi : s.seat? (through.getD k.owner) = some seat) {e : Fault}
    (hr : (launchAction k through dim args signature).outcome (.of seat.bridge s.fleet) =
      (.error e, scene)) (j : Nat) :
    (s.launchStep j k through signature args dim).1.reply = .fault e ∧
      (s.launchStep j k through signature args dim).2 =
        s.left (through.getD k.owner) seat scene := by
  rw [launchStep_eq, run_of_seat hi, hr]
  exact ⟨rfl, rfl⟩

/-- A launch that succeeds is answered with the count of the kernel's launches. -/
lemma launchStep_of_ok (hi : s.seat? (through.getD k.owner) = some seat)
    (hr : (launchAction k through dim args signature).outcome (.of seat.bridge s.fleet) =
      (.ok k', scene)) (j : Nat) :
    k' = { k with launches := k.launches + 1 } ∧
      (s.launchStep j k through signature args dim).1.reply = .count k'.launches ∧
      (s.launchStep j k through signature args dim).2 =
        (s.left (through.getD k.owner) seat scene).setKernel j k' := by
  have hanswer : (launchAction k through dim args signature).Ends (.of seat.bridge s.fleet)
      fun r _ => ∀ k', r = .ok k' → k' = { k with launches := k.launches + 1 } := by
    cases through with
    | none => exact directLaunch_answer
    | some i => exact Bridge.launch_answer
  refine ⟨Action.ends_iff.1 hanswer k' (by rw [hr]), ?_⟩
  rw [launchStep_eq, run_of_seat hi, hr]
  exact ⟨rfl, rfl⟩

end Launch

/-- **One step** leaves the kernels, or drops those of one bridge, or counts a launch of one, or
adds one for a bridge that has its device. -/
lemma Sound.kernels_step (h : s.Sound) (st : Step) :
    (s.step st).2.kernels = s.kernels ∨
    (∃ i, (s.step st).2.kernels = s.kernels.map fun k => k.filter fun k => k.owner ≠ i) ∨
    (∃ j k, s.kernel? j = some k ∧ (s.step st).2.kernels =
      s.kernels.setIfInBounds j (some { k with launches := k.launches + 1 })) ∨
    ∃ k seat d, (s.step st).2.kernels = s.kernels.push (some k) ∧ s.seat? k.owner = some seat ∧
      seat.bridge.device = .ready d := by
  have hstep : (s.step st).2 = (s.perform st).2 := rfl
  rw [hstep]
  cases st with
  | dropBridge i =>
    refine .inr (.inl ⟨i, ?_⟩)
    simp only [perform, Session.dropBridge]
    split
    · rw [kernels_release]
    · rfl
  | loadKernel i name code =>
    simp only [perform]
    rcases Code.of code name with e | code'
    · exact .inl rfl
    rcases h.loadStep_cases i code' with ⟨heq, -⟩ | ⟨k, seat, d, -, heq, rfl, -, hi, hd⟩
    · exact .inl heq
    · exact .inr (.inr (.inr ⟨k, seat, d, heq, hi, hd⟩))
  | launch j through text args dim =>
    simp only [perform]
    rcases text.signature with e | signature
    · exact .inl rfl
    rcases hj : s.kernel? j with _ | k
    · exact .inl rfl
    rcases hi : s.seat? (through.getD k.owner) with _ | seat
    · exact .inl (by simp only [launchStep_of_absent hi])
    rcases hr : (launchAction k through dim args signature).outcome (.of seat.bridge s.fleet) with
      ⟨e | k', scene⟩
    · obtain ⟨-, heq⟩ := launchStep_of_error hi hr j
      exact .inl (by simp only [heq]; rfl)
    · obtain ⟨rfl, -, heq⟩ := launchStep_of_ok hi hr j
      exact .inr (.inr (.inl ⟨j, k, hj, by simp only [heq]; rfl⟩))
  | _ => exact .inl (kernels_perform (by simp) (by simp) (by simp))

lemma Sound.size_kernels_le (h : s.Sound) (st : Step) :
    s.kernels.size ≤ (s.step st).2.kernels.size := by
  obtain heq | ⟨i, heq⟩ | ⟨j, k, -, heq⟩ | ⟨k, seat, d, heq, -⟩ := h.kernels_step st <;> rw [heq]
  · rw [Array.size_map]
  · rw [Array.size_setIfInBounds]
  · rw [Array.size_push]
    exact Nat.le_succ _

/-- A kernel was there before, or is new and its bridge has its device. -/
lemma Sound.kernel?_step (h : s.Sound) (hj : (s.step st).2.kernel? j = some k') :
    (∃ k, s.kernel? j = some k ∧ k'.identity = k.identity) ∨
    (j = s.kernels.size ∧
      ∃ seat d, s.seat? k'.owner = some seat ∧ seat.bridge.device = .ready d) := by
  obtain heq | ⟨i, heq⟩ | ⟨j', k, hk, heq⟩ | ⟨k, seat, d, heq, hi, hd⟩ := h.kernels_step st
  · rw [kernel?, heq] at hj
    exact .inl ⟨k', hj, rfl⟩
  · exact .inl ⟨k', ((kernel?_map_filter heq).1 hj).1, rfl⟩
  · rw [kernel?, heq, Array.getElem?_setIfInBounds] at hj
    split at hj
    · rename_i hjj
      subst hjj
      split at hj
      · obtain rfl := Option.some.inj hj
        exact .inl ⟨k, hk, rfl⟩
      · cases hj
    · exact .inl ⟨k', hj, rfl⟩
  · rw [kernel?, heq, Array.getElem?_push] at hj
    split at hj
    · rename_i hjj
      obtain rfl := Option.some.inj hj
      exact .inr ⟨hjj, seat, d, hi, hd⟩
    · exact .inl ⟨k', hj, rfl⟩

/-- What is settled about a bridge stays so in a step. -/
lemma Sound.settled_step (h : s.Sound) (hi : (s.step st).2.seat? i = some seat') :
    (∃ seat, s.seat? i = some seat ∧ seat.bridge.Settled seat'.bridge) ∨ s.seats.size ≤ i := by
  obtain ⟨hseat, -⟩ | ⟨seat, o, hseat, -, rfl⟩ | ⟨hsize, -⟩ := h.seat?_step hi
  · exact .inl ⟨seat', hseat, .refl _⟩
  · obtain ⟨id, slot, hfits⟩ := (h.seats i seat hseat).exists_fits
    exact .inl ⟨seat, hseat, (h.does hseat hfits o).worked.settled⟩
  · exact .inr hsize

/-! ### Kernels after any steps -/

/-- The bridge that loaded a kernel is there and has its device. -/
lemma Reachable.exists_home {P : Session → Prop} (h : Reachable P s)
    (hj : s.kernel? j = some k) :
    ∃ seat d, s.seat? k.owner = some seat ∧ seat.bridge.device = .ready d := by
  induction h generalizing j k with
  | start n => simp [Session.start, empty, kernel?] at hj
  | @step s h st ha _ ih =>
    have hsound := h.sound
    obtain ⟨seat', sim, hi', -⟩ := ((hsound.change_perform ha).sound hsound).kernels j k hj
    have hready : ∃ seat d, s.seat? k.owner = some seat ∧ seat.bridge.device = .ready d := by
      obtain ⟨k₀, hk₀, hid⟩ | ⟨-, hnew⟩ := hsound.kernel?_step hj
      · obtain ⟨seat, d, hi, hd⟩ := ih hk₀
        have howner : k.owner = k₀.owner := congrArg Prod.fst hid
        exact ⟨seat, d, by rwa [howner], hd⟩
      · exact hnew
    obtain ⟨seat, d, hi, hd⟩ := hready
    obtain ⟨seat₀, hi₀, hsettled⟩ | hsize := hsound.settled_step hi'
    · obtain rfl := Option.some.inj (hi.symm.trans hi₀)
      obtain ⟨heap, hd'⟩ := hsettled.device_of_ready hd
      exact ⟨seat', _, hi', hd'⟩
    · exact absurd (lt_size_of_seat? hi) (Nat.not_lt.2 hsize)

/-- A kernel that is still there is what it was loaded as. -/
lemma Reachable.identity_afterAll (h : Reachable (fun _ => True) s) {steps : List Step}
    (ha : s.AllowsAll steps) (hlt : j < s.kernels.size)
    (hj : (s.afterAll steps).kernel? j = some k') :
    ∃ k, s.kernel? j = some k ∧ k'.identity = k.identity := by
  induction steps generalizing s with
  | nil => exact ⟨k', hj, rfl⟩
  | cons st steps ih =>
    have hsize := h.sound.size_kernels_le st
    obtain ⟨k, hk, hid⟩ := ih (.step h st ha.1 trivial) ha.2 (Nat.lt_of_lt_of_le hlt hsize) hj
    obtain ⟨k₀, hk₀, hid₀⟩ | ⟨hnew, -⟩ := h.sound.kernel?_step hk
    · exact ⟨k₀, hk₀, hid.trans hid₀⟩
    · exact absurd hnew (Nat.ne_of_lt hlt)

/-- Of the kernel that a step loads, a later session knows name and owner. -/
lemma Reachable.of_loaded (h : Reachable (fun _ => True) s) {a : Nat} {name : String}
    {code : List UInt8} (hload : (s.step (.loadKernel a name code)).1.reply = .kernel j k)
    {later : List Step} (ha : (s.step (.loadKernel a name code)).2.AllowsAll later)
    (hj : ((s.step (.loadKernel a name code)).2.afterAll later).kernel? j = some k') :
    k'.owner = a ∧ k'.name = name := by
  have hstep : Reachable (fun _ => True) (s.step (.loadKernel a name code)).2 :=
    .step h _ rfl trivial
  change (s.perform (.loadKernel a name code)).1.reply = .kernel j k at hload
  have hperform : (s.step (.loadKernel a name code)).2 =
      (s.perform (.loadKernel a name code)).2 := rfl
  rcases hcode : Code.of code name with e | code' <;> simp only [perform, hcode] at hload hperform
  · cases hload
  have hname : code'.name = name := by
    unfold Code.of at hcode
    split_ifs at hcode
    exact Except.ok.inj hcode ▸ rfl
  obtain ⟨-, hnone⟩ | ⟨k₀, seat, d, hreply, heq, howner, hname₀, -⟩ := h.sound.loadStep_cases a code'
  · exact absurd hload (hnone j k)
  rw [hreply] at hload
  obtain ⟨rfl, rfl⟩ := Reply.kernel.inj hload
  have hkernel : (s.step (.loadKernel a name code)).2.kernel? s.kernels.size = some k₀ := by
    rw [hperform, kernel?, heq, Array.getElem?_push_size, Option.join_some]
  have hlt : s.kernels.size < (s.step (.loadKernel a name code)).2.kernels.size := by
    rw [hperform, heq, Array.size_push]
    exact Nat.lt_succ_self _
  obtain ⟨k₁, hk₁, hid⟩ := hstep.identity_afterAll ha hlt hj
  obtain rfl := Option.some.inj (hkernel.symm.trans hk₁)
  obtain ⟨howner', -, hname'⟩ : k'.owner = k₀.owner ∧ k'.handle = k₀.handle ∧ k'.name = k₀.name := by
    simpa [Kernel.identity] using hid
  exact ⟨howner'.trans howner, hname'.trans (hname₀.trans hname)⟩

/-! ### Launches through a bridge -/

/-- An action that leaves its bridge alone does nothing but make calls. -/
lemma left_of_bridge (hi : s.seat? i = some seat) {scene : Scene}
    (hb : scene.bridge = seat.bridge) : s.left i seat scene = { s with fleet := scene.fleet } := by
  have hget : s.seats[i]? = some (some seat) := by
    rw [seat?, Option.join_eq_some_iff] at hi
    exact hi
  have hset : s.seats.setIfInBounds i (some seat) = s.seats := by
    apply Array.ext_getElem?
    intro j
    rw [Array.getElem?_setIfInBounds]
    split
    · rename_i hj
      subst hj
      rw [hget, if_pos (Array.getElem?_eq_some_iff.1 hget).1]
    · rfl
  rw [left, hb, hset]

/-- A kernel of another bridge is refused, and nothing comes of it. -/
lemma Sound.launch_of_stranger (h : s.Sound) (hj : s.kernel? j = some k) {b : Nat}
    (hi : s.seat? b = some seat) (hb : b ≠ k.owner) {text : SignatureText} {signature : Signature}
    (hs : text.signature = .ok signature) (args : List Value) (dim : Int32) :
    (s.step (.launch j (some b) text args dim)).1.reply =
        .fault (seat.bridge.refusal k.name) ∧
      (s.step (.launch j (some b) text args dim)).2 = s := by
  have hnumber : (Scene.of seat.bridge s.fleet).bridge.id ≠ k.owner := by
    rw [show (Scene.of seat.bridge s.fleet).bridge.id = b from (h.seats b seat hi).number]
    exact hb
  have hr : (launchAction k (some b) dim args signature).outcome (.of seat.bridge s.fleet) =
      (.error (seat.bridge.refusal k.name), .of seat.bridge s.fleet) := by
    have hlaunch := Bridge.launch_of_refused hnumber dim args signature
    rw [launchAction, Action.outcome, hlaunch]
    rfl
  have hi' : s.seat? ((some b).getD k.owner) = some seat := hi
  obtain ⟨hreply, hleft⟩ := launchStep_of_error hi' hr j
  change (s.perform (.launch j (some b) text args dim)).1.reply = _ ∧
    (s.perform (.launch j (some b) text args dim)).2 = s
  simp only [perform, hs, hj]
  exact ⟨hreply, hleft.trans (left_of_bridge hi rfl)⟩

/-- A kernel of the bridge itself is never refused as another's. -/
lemma Reachable.launch_of_owner {P : Session → Prop} (h : Reachable P s)
    (hj : s.kernel? j = some k) (hi : s.seat? k.owner = some seat) {text : SignatureText}
    {signature : Signature} (hs : text.signature = .ok signature) (args : List Value)
    (dim : Int32) (reason : String) :
    (s.step (.launch j (some k.owner) text args dim)).1.reply ≠ .fault (.invalidKernel reason) := by
  obtain ⟨seat', d, hi', hd⟩ := h.exists_home hj
  obtain rfl := Option.some.inj (hi.symm.trans hi')
  have hnumber : (Scene.of seat.bridge s.fleet).bridge.id = k.owner :=
    (h.sound.seats _ seat hi).number
  have hi' : s.seat? ((some k.owner).getD k.owner) = some seat := hi
  have hlaunch : Bridge.launch k dim args signature (.of seat.bridge s.fleet) =
      Bridge.launchOn d k dim args signature (.of seat.bridge s.fleet) :=
    Bridge.launch_of_owner hd hnumber
  have hnative := Action.ends_iff.1
    (Action.Ends.of_eq hlaunch (Bridge.launchOn_native dim args signature _))
  change (s.perform (.launch j (some k.owner) text args dim)).1.reply ≠ _
  simp only [perform, hs, hj]
  rcases hr : (launchAction k (some k.owner) dim args signature).outcome
    (.of seat.bridge s.fleet) with ⟨e | k', scene⟩
  · obtain ⟨hreply, -⟩ := launchStep_of_error hi' hr j
    rw [hreply]
    intro heq
    have hfault := hnative reason
    rw [launchAction] at hr
    rw [hr, Reply.fault.inj heq] at hfault
    exact hfault rfl
  · obtain ⟨-, hreply, -⟩ := launchStep_of_ok hi' hr j
    rw [hreply]
    intro heq
    cases heq

/-- The handle of a context tells no more than the slot of its device. -/
lemma Sound.handle_eq (h : s.Sound) {sim : Nat} {slot : Slot} {d : Device}
    (hi : s.seat? i = some seat) (hsim : seat.sim = some sim)
    (hslot : s.fleet.cells[sim]?.map Cell.slot = some slot) (hd : seat.bridge.device = .ready d) :
    d.handle = .encode slot .context :=
  (((h.seats i seat hi).linked sim slot (Seat.fits_of_slot hsim hslot)).2.device d hd).2

/-- **A kernel runs only through the bridge that loaded it**: after any steps, a launch of the
kernel through that bridge is never refused as one of another context's kernel. Through any other
bridge every launch is refused, by what that bridge has of a context, and nothing in the session
changes; and this though bridges on one simulated device have contexts of the same handle. -/
theorem launch_only_by_owner {s : Session} (h : Reachable (fun _ => True) s) {a j : Nat}
    {name : String} {code : List UInt8} {k : Kernel}
    (hload : (s.step (.loadKernel a name code)).1.reply = .kernel j k) {later : List Step}
    (ha : (s.step (.loadKernel a name code)).2.AllowsAll later) :
    let s' := (s.step (.loadKernel a name code)).2.afterAll later
    (∀ k', s'.kernel? j = some k' → ∀ b seat text signature args dim,
      s'.seat? b = some seat → text.signature = .ok signature →
      let launched := s'.step (.launch j (some b) text args dim)
      (b = a → ∀ reason, launched.1.reply ≠ .fault (.invalidKernel reason)) ∧
      (b ≠ a → launched.1.reply = .fault (match seat.bridge.device with
          | .undecided => .notInitialized "execute_kernel_void_1d"
          | .unavailable => .context
          | .ready _ => .invalidKernel ("kernel '" ++ name ++ "' was created on another context")) ∧
        launched.2 = s')) ∧
    ∀ b b' seat seat' sim d d', s'.seat? b = some seat → s'.seat? b' = some seat' →
      seat.sim = some sim → seat'.sim = some sim → seat.bridge.device = .ready d →
      seat'.bridge.device = .ready d' → d.handle = d'.handle := by
  intro s'
  have hreach : Reachable (fun _ => True) s' :=
    (Reachable.step h (.loadKernel a name code) rfl trivial).afterAll later ha
  refine ⟨fun k' hj b seat text signature args dim hi hs => ?_,
    fun b b' seat seat' sim d d' hi hi' hsim hsim' hd hd' => ?_⟩
  · obtain ⟨howner, hname⟩ := h.of_loaded hload ha hj
    refine ⟨fun hb reason => ?_, fun hb => ?_⟩
    · obtain rfl : b = k'.owner := hb.trans howner.symm
      exact hreach.launch_of_owner hj hi hs args dim reason
    · rw [← howner] at hb
      have hrefused := hreach.sound.launch_of_stranger hj hi hb hs args dim
      rw [hname] at hrefused
      exact hrefused
  · have hlive := (hreach.sound.seats b seat hi).live sim hsim
    obtain ⟨slot, hslot⟩ := Fleet.exists_slot_of_isLive hlive
    rw [hreach.sound.handle_eq hi hsim hslot hd, hreach.sound.handle_eq hi' hsim' hslot hd']

/-- Three bridges on one device, of which the first loads a kernel: the second has a context of the
same handle, and refuses the kernel all the same, as does the third, which has none. -/
theorem launch_only_by_owner_shared :
    let s := (start 0).afterAll [.install id 1, .bridgeOver 0 .default, .bridgeOver 0 .default,
      .bridgeOver 0 .default, .connect 0, .connect 1]
    let s' := (s.step (.loadKernel 0 "k" [1])).2.afterAll [.registerHeap 1 ⟨4096, 64⟩]
    let through (b : Nat) := s'.step (.launch 0 (some b) (.void [.int] false) [.int 7] 16)
    ((through 1).1.reply =
        .fault (.invalidKernel "kernel 'k' was created on another context") ∧
      (through 1).2 = s') ∧
    ((through 2).1.reply = .fault (.notInitialized "execute_kernel_void_1d") ∧
      (through 2).2 = s') ∧
    (∀ reason, (through 0).1.reply ≠ .fault (.invalidKernel reason)) ∧
    ∃ d d', (s'.seat? 0).map (fun seat => seat.bridge.device) = some (.ready d) ∧
      (s'.seat? 1).map (fun seat => seat.bridge.device) = some (.ready d') ∧
      d.handle = d'.handle := by
  intro s s' through
  have hreach : Reachable (fun _ => True) s := reachable_afterAll 0 _ (by decide +kernel)
  have hload : (s.step (.loadKernel 0 "k" [1])).1.reply =
      .kernel 0 ⟨0, .encode 0 (.kernel 0), "k", 0⟩ := by rfl
  have ha : (s.step (.loadKernel 0 "k" [1])).2.AllowsAll [.registerHeap 1 ⟨4096, 64⟩] := by
    decide +kernel
  obtain ⟨hlaunch, hhandles⟩ := launch_only_by_owner hreach hload ha
  obtain ⟨seat, d, hi, hsim, hd⟩ : ∃ seat d, s'.seat? 0 = some seat ∧ seat.sim = some 0 ∧
      seat.bridge.device = .ready d := ⟨_, _, rfl, rfl, rfl⟩
  obtain ⟨seat', d', hi', hsim', hd'⟩ : ∃ seat d, s'.seat? 1 = some seat ∧ seat.sim = some 0 ∧
      seat.bridge.device = .ready d := ⟨_, _, rfl, rfl, rfl⟩
  obtain ⟨seat'', hi'', hd''⟩ : ∃ seat, s'.seat? 2 = some seat ∧
      seat.bridge.device = .undecided := ⟨_, rfl, rfl⟩
  have hj : s'.kernel? 0 = some ⟨0, .encode 0 (.kernel 0), "k", 0⟩ := by rfl
  have hs : (SignatureText.void [.int] false).signature = .ok (.void [.int] false) := rfl
  have hone := (hlaunch _ hj 1 seat' _ _ [.int 7] 16 hi' hs).2 (by decide)
  have htwo := (hlaunch _ hj 2 seat'' _ _ [.int 7] 16 hi'' hs).2 (by decide)
  rw [hd'] at hone
  rw [hd''] at htwo
  refine ⟨hone, htwo, (hlaunch _ hj 0 seat _ _ [.int 7] 16 hi hs).1 rfl, d, d', ?_, ?_,
    hhandles 0 1 seat seat' 0 d d' hi hi' hsim hsim' hd hd'⟩
  · rw [hi, Option.map_some, hd]
  · rw [hi', Option.map_some, hd']

end Session

end Offload
