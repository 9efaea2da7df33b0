import Offload.Proofs.Session.Sound

/-!
What a step of a session can change, and the sessions that come about by steps.

Every step is one of a few changes, whatever it is given and however it ends. The invariant of
sessions holds of all that are reachable, and with no more live devices than slots, each device is
reached through its own.
-/

namespace Offload

open Simulator

namespace Session

/-! ### Calls of bare tables -/

/-- The handle that a call is given, if it takes one. -/
def RawCall.handle? (context : Handle) : RawCall → Option Handle
  | .createContext | .registerHeap _ _ => none
  | .totalCores h | .createKernel h _ _ | .clearArgs h | .push h _ | .execute h _ =>
    some (h.handle context)

/-- The slot that a call goes through: its handle's or, if it takes none, its entry point's. -/
def RawCall.slot? (t : BareTable) : RawCall → Option Slot
  | .createContext => t.table.createContext.slot?
  | .registerHeap _ _ => t.table.registerHeap.slot?
  | call => (call.handle? t.context).bind Handle.slot?

/-- A call does nothing but go through its slot. -/
lemma RawCall.onlyThrough (call : RawCall) (t : BareTable) (f : Fleet) {slot : Slot}
    (hs : ∀ x ∈ call.slot? t, x = slot) : Fleet.OnlyThrough slot f (call.run t f).2 := by
  cases call with
  | createContext => exact Fleet.onlyThrough_createContext hs
  | totalCores context =>
    rcases hq : t.table.totalCores with _ | query <;> simp only [RawCall.run, hq]
    · exact .refl slot f
    · exact Fleet.onlyThrough_totalCores hs
  | registerHeap base size => exact Fleet.onlyThrough_registerHeap hs base size
  | createKernel context code name => exact Fleet.onlyThrough_createKernel hs code name
  | clearArgs kernel => exact Fleet.onlyThrough_clearArgs hs
  | push kernel arg => exact Fleet.onlyThrough_push hs arg
  | execute kernel dim => exact Fleet.onlyThrough_execute hs dim

lemma RawCall.kept (call : RawCall) (t : BareTable) (f : Fleet) :
    Fleet.Kept f (call.run t f).2 := by
  have hs : ∀ x ∈ call.slot? t, x = (call.slot? t).getD 0 := by
    intro x hx
    rw [Option.mem_def.1 hx, Option.getD_some]
  obtain ⟨calls, hrec⟩ := call.onlyThrough t f hs
  exact hrec.toKept

/-! ### Changes -/

/-- All that a step can change about a session. -/
inductive Change (s : Session) : Session → Prop
  | kept (s' : Session) (hf : Fleet.Kept s.fleet s'.fleet) (hheld : s'.held = s.held)
      (hseats : s'.seats = s.seats) (hkernels : s'.kernels = s.kernels) : Change s s'
  | installed (options : Options) (n : Nat) : Change s (s.installMany options n).2
  | simDropped (sim : Nat) : Change s (s.dropSim sim)
  | bridgeDropped (i : Nat) : Change s (s.dropBridge i)
  | bridged (resolver : Resolver) (settings : Settings) (sim : Option Nat) (watched : Bool)
      (hr : ∀ id, (∀ sim', sim = some sim' → id = sim') → resolver.Over id)
      (hsim : ∀ sim', sim = some sim' → s.holds sim' = true) :
      Change s (s.addBridge resolver settings sim watched)
  | worked (i : Nat) (seat : Seat) (scene : Scene) (hi : s.seat? i = some seat)
      (hs : s.Leaves seat scene) : Change s (s.left i seat scene)
  | loaded (i : Nat) (seat : Seat) (scene : Scene) (k : Kernel) (hi : s.seat? i = some seat)
      (hs : s.Leaves seat scene) (hk : k.Sound (s.left i seat scene)) :
      Change s ((s.left i seat scene).addKernel k)
  | launched (i : Nat) (seat : Seat) (scene : Scene) (j : Nat) (k : Kernel)
      (hi : s.seat? i = some seat) (hs : s.Leaves seat scene)
      (hk : k.Sound (s.left i seat scene)) : Change s ((s.left i seat scene).setKernel j k)

variable {s s' : Session} {seat : Seat} {i : Nat}

lemma Change.refl (s : Session) : Change s s := .kept s (.refl s.fleet) rfl rfl rfl

lemma Change.sound (hc : Change s s') (h : s.Sound) : s'.Sound := by
  cases hc with
  | kept _ hf hheld hseats hkernels => exact h.kept hf hheld hseats hkernels
  | installed options n => exact h.installMany options n
  | simDropped sim => exact h.dropSim sim
  | bridgeDropped i => exact h.dropBridge i
  | bridged resolver settings sim watched hr hsim => exact h.addBridge hr hsim settings watched
  | worked i seat scene hi hs => exact h.left hi hs
  | loaded i seat scene k hi hs hk => exact (h.left hi hs).addKernel hk
  | launched i seat scene j k hi hs hk => exact (h.left hi hs).setKernel hk

lemma fleet_release (s : Session) (sim : Nat) :
    (s.release sim).fleet = s.fleet ∨ (s.release sim).fleet = s.fleet.retire sim := by
  unfold release
  split
  · exact .inl rfl
  · exact .inr rfl

/-- To the devices a change is one of three things: calls and settings, installations, or the end
of a device. -/
lemma Change.fleet (hc : Change s s') :
    Fleet.Kept s.fleet s'.fleet ∨ (∃ options n, s' = (s.installMany options n).2) ∨
      ∃ sim, s'.fleet = s.fleet.retire sim := by
  have hrelease : ∀ (s₁ : Session) (sim : Nat), s₁.fleet = s.fleet →
      Fleet.Kept s.fleet (s₁.release sim).fleet ∨
        ∃ id, (s₁.release sim).fleet = s.fleet.retire id := by
    intro s₁ sim hfleet
    rcases fleet_release s₁ sim with heq | heq <;> rw [hfleet] at heq
    · exact .inl (heq ▸ .refl s.fleet)
    · exact .inr ⟨sim, heq⟩
  cases hc with
  | kept _ hf => exact .inl hf
  | installed options n => exact .inr (.inl ⟨options, n, rfl⟩)
  | simDropped sim =>
    exact (hrelease { s with held := s.held.setIfInBounds sim false } sim rfl).imp_right .inr
  | bridgeDropped i =>
    rcases hsim : (s.seat? i).bind Seat.sim with _ | sim <;> simp only [dropBridge, hsim]
    · exact .inl (.refl s.fleet)
    · refine (hrelease _ sim ?_).imp_right .inr
      rfl
  | bridged => exact .inl (.refl s.fleet)
  | worked i seat scene _ hl => exact .inl hl.kept
  | loaded i seat scene k _ hl => exact .inl hl.kept
  | launched i seat scene j k _ hl => exact .inl hl.kept

/-! ### Steps of a bridge -/

/-- An action that is an operation but for its answer changes the session as the operation does. -/
lemma Sound.change_run (h : s.Sound) {β : Type} {o : Operation} {a : Action β} {g : β → Answer}
    (ha : o.action = g <$> a) (i : Nat) : Change s (s.run i a).2 := by
  rcases hi : s.seat? i with _ | seat
  · rw [run_of_absent hi]
    exact .refl s
  · rw [run_of_seat hi]
    refine .worked i seat _ hi ?_
    rw [← Operation.outcome_of_action ha]
    exact h.leaves hi o

lemma Sound.change_onBridge (h : s.Sound) {β : Type} {o : Operation} {a : Action β}
    {g : β → Answer} (ha : o.action = g <$> a) (i : Nat) (reply : β → Reply) :
    Change s (s.onBridge i a reply).2 := by
  have hrun := h.change_run ha i
  unfold Session.onBridge
  rcases hr : s.run i a with ⟨_ | ⟨r, notices, queries⟩, s'⟩ <;> rw [hr] at hrun <;> exact hrun

/-- A kernel that is loaded is one of the bridge's device. -/
lemma Sound.kernel_of_loaded (h : s.Sound) (hi : s.seat? i = some seat) {code : Code} {k : Kernel}
    (hs : s.Leaves seat ((Bridge.loadKernel code).outcome (.of seat.bridge s.fleet)).2)
    (hk : ((Bridge.loadKernel code).outcome (.of seat.bridge s.fleet)).1 = .ok k) :
    k.Sound (s.left i seat ((Bridge.loadKernel code).outcome (.of seat.bridge s.fleet)).2) := by
  have hgood := h.seats i seat hi
  have hloaded : ∀ id slot, seat.Fits s.fleet id slot →
      seat.bridge.device ≠ .undecided ∧ k.owner = seat.bridge.id ∧
        ∀ id, k.On slot id ((Bridge.loadKernel code).outcome (.of seat.bridge s.fleet)).2.fleet :=
    fun id slot hfits =>
      Action.ends_iff.1 (Bridge.loadKernel_ends (s := .of seat.bridge s.fleet)
        (hgood.linked id slot hfits).2 code) k hk
  obtain ⟨id, slot, hfits⟩ := hgood.exists_fits
  obtain ⟨hd, howner, -⟩ := hloaded id slot hfits
  obtain ⟨sim, hsim⟩ := hgood.exists_sim hd
  have howner' : k.owner = i := howner.trans hgood.number
  let scene := ((Bridge.loadKernel code).outcome (.of seat.bridge s.fleet)).2
  refine ⟨{ seat with bridge := scene.bridge }, sim, ?_, hsim, fun slot' hslot => ?_⟩
  · rw [howner', seat?_setIfInBounds rfl, if_pos ⟨rfl, lt_size_of_seat? hi⟩]
  · have hslot' : s.fleet.cells[sim]?.map Cell.slot = some slot' := by
      rw [← hs.kept.slot]
      exact hslot
    exact (hloaded sim slot' (Seat.fits_of_slot hsim hslot')).2.2 sim

lemma Sound.change_loadStep (h : s.Sound) (i : Nat) (code : Code) :
    Change s (s.loadStep i code).2 := by
  unfold loadStep
  rcases hi : s.seat? i with _ | seat
  · rw [run_of_absent hi]
    exact .refl s
  have hs : s.Leaves seat ((Bridge.loadKernel code).outcome (.of seat.bridge s.fleet)).2 := by
    rw [← Operation.outcome_of_action (o := .loadKernel code) rfl]
    exact h.leaves hi _
  rw [run_of_seat hi]
  rcases hr : ((Bridge.loadKernel code).outcome (.of seat.bridge s.fleet)).1 with e | k
  · simp only [hr]
    exact .worked i seat _ hi hs
  · simp only [hr]
    exact .loaded i seat _ k hi hs (h.kernel_of_loaded hi hs hr)

/-! ### Launches -/

/-- A launch on the kernel's own device. -/
def directLaunch (k : Kernel) (dim : Int32) (args : List Value) (signature : Signature) :
    Action Kernel := do
  Bridge.launchOn (← Bridge.requireDevice "") k dim args signature

lemma directLaunch_eq (k : Kernel) (dim : Int32) (args : List Value) (signature : Signature) :
    (do Bridge.launchOn (← Bridge.requireDevice "") k dim args signature) =
      directLaunch k dim args signature := rfl

/-- On the bridge that loaded the kernel, a direct launch does what one through the bridge does. -/
lemma directLaunch_outcome {k : Kernel} {scene : Scene} (hk : scene.bridge.id = k.owner)
    (dim : Int32) (args : List Value) (signature : Signature) :
    ((directLaunch k dim args signature).outcome scene).2 =
      ((Bridge.launch k dim args signature).outcome scene).2 := by
  unfold Action.outcome directLaunch
  rw [Action.bind_apply, Bridge.requireDevice_apply, Bridge.launch_apply]
  rcases scene.bridge.device with _ | _ | d
  · rfl
  · rfl
  · simp only [hk, if_true]

lemma directLaunch_answer {k : Kernel} {scene : Scene} {dim : Int32} {args : List Value}
    {signature : Signature} :
    (directLaunch k dim args signature).Ends scene fun r _ =>
      ∀ k', r = .ok k' → k' = { k with launches := k.launches + 1 } := by
  unfold directLaunch
  rcases hd : scene.bridge.device with _ | _ | d
  · exact Action.Ends.bind_of_error (by rw [Bridge.requireDevice_apply, hd]) (by simp)
  · exact Action.Ends.bind_of_error (by rw [Bridge.requireDevice_apply, hd]) (by simp)
  · exact Action.Ends.bind_of_ok (by rw [Bridge.requireDevice_apply, hd]) Bridge.launchOn_answer

/-- A launch that leaves the scene of an operation, and counts itself if it succeeds. -/
lemma Sound.change_launched (h : s.Sound) {j : Nat} {k : Kernel} (hj : s.kernel? j = some k)
    (hi : s.seat? i = some seat) {a : Action Kernel}
    (hs : s.Leaves seat (a.outcome (.of seat.bridge s.fleet)).2)
    (ha : a.Ends (.of seat.bridge s.fleet) fun r _ =>
      ∀ k', r = .ok k' → k' = { k with launches := k.launches + 1 }) {k' : Kernel}
    (hk' : (a.outcome (.of seat.bridge s.fleet)).1 = .ok k') :
    Change s ((s.left i seat (a.outcome (.of seat.bridge s.fleet)).2).setKernel j k') := by
  have hkernel : k.Sound (s.left i seat (a.outcome (.of seat.bridge s.fleet)).2) :=
    (h.left hi hs).kernels j k hj
  refine .launched i seat _ j k' hi hs ?_
  -- the number of launches is nothing to where the kernel was loaded
  rw [Action.ends_iff.1 ha k' hk']
  exact hkernel

lemma Sound.change_launchStep (h : s.Sound) {j : Nat} {k : Kernel} (hj : s.kernel? j = some k)
    (through : Option Nat) (signature : Signature) (args : List Value) (dim : Int32) :
    Change s (s.launchStep j k through signature args dim).2 := by
  unfold launchStep
  cases through with
  | none =>
    obtain ⟨seat, sim, hi, -, -⟩ := h.kernels j k hj
    have hnumber : (Scene.of seat.bridge s.fleet).bridge.id = k.owner := (h.seats _ seat hi).number
    have hs : s.Leaves seat
        ((directLaunch k dim args signature).outcome (.of seat.bridge s.fleet)).2 := by
      rw [directLaunch_outcome hnumber,
        ← Operation.outcome_of_action (o := .launch k dim args signature) rfl]
      exact h.leaves hi _
    simp only [Option.getD_none, directLaunch_eq]
    rw [run_of_seat hi]
    rcases hr : ((directLaunch k dim args signature).outcome (.of seat.bridge s.fleet)).1 with
      e | k'
    · simp only [hr]
      exact .worked _ seat _ hi hs
    · simp only [hr]
      exact h.change_launched hj hi hs directLaunch_answer hr
  | some i =>
    simp only [Option.getD_some]
    rcases Option.eq_none_or_eq_some (s.seat? i) with hi | ⟨seat, hi⟩
    · rw [run_of_absent hi]
      exact .refl s
    have hs : s.Leaves seat
        ((Bridge.launch k dim args signature).outcome (.of seat.bridge s.fleet)).2 := by
      rw [← Operation.outcome_of_action (o := .launch k dim args signature) rfl]
      exact h.leaves hi _
    rw [run_of_seat hi]
    rcases hr : ((Bridge.launch k dim args signature).outcome (.of seat.bridge s.fleet)).1 with
      e | k'
    · simp only [hr]
      exact .worked _ seat _ hi hs
    · simp only [hr]
      exact h.change_launched hj hi hs Bridge.launch_answer hr

/-! ### All steps -/

/-- A bridge or a table is made on a simulated device only while the session holds it. -/
def allows (s : Session) : Step → Bool
  | .bridgeOver sim _ | .watchedBridge sim _ _ _ | .table sim => s.holds sim
  | _ => true

/-- **One step** is one of the changes. -/
lemma Sound.change_perform (h : s.Sound) {st : Step} (ha : s.allows st = true) :
    Change s (s.perform st).2 := by
  cases st with
  | install change count => exact .installed (change {}) count
  | configure sim change => exact .kept _ (s.fleet.kept_configure sim change) rfl rfl rfl
  | dropSim sim => exact .simDropped sim
  | journal sim => exact .refl s
  | takeJournal sim => exact .kept _ (s.fleet.kept_drain sim) rfl rfl rfl
  | exports sim names => exact .refl s
  | bridgeOver sim settings =>
    refine .bridged _ settings (some sim) false (fun id hid => ?_) fun sim' hsim => ?_
    · rw [hid sim rfl]
      exact Resolver.over_simulated sim
    · rw [← Option.some.inj hsim]
      exact ha
  | watchedBridge sim settings opens nulls =>
    refine .bridged _ settings (some sim) true (fun id hid => ?_) fun sim' hsim => ?_
    · rw [hid sim rfl]
      exact Resolver.over_scripted sim opens nulls
    · rw [← Option.some.inj hsim]
      exact ha
  | libraryBridge settings loads =>
    exact .bridged _ settings none false (fun id _ => Resolver.over_library _ loads id) (by simp)
  | dropBridge i => exact .bridgeDropped i
  | settings i =>
    simp only [perform]
    split <;> exact .refl s
  | link i => exact h.change_onBridge (o := .link) rfl i _
  | connect i => exact h.change_onBridge (o := .connect) rfl i _
  | totalCores i => exact h.change_onBridge (o := .totalCores) rfl i _
  | status i =>
    simp only [perform]
    split <;> exact .refl s
  | registerHeap i region => exact h.change_onBridge (o := .registerHeap region) rfl i _
  | loadKernel i name code =>
    simp only [perform]
    split
    · exact .refl s
    · exact h.change_loadStep i _
  | launch j through signature args dim =>
    simp only [perform]
    split
    · exact .refl s
    · exact .refl s
    · rename_i hj
      exact h.change_launchStep hj through _ args dim
  | kernelInfo j =>
    simp only [perform]
    split <;> exact .refl s
  | offload i signature args dim name code heap =>
    simp only [perform]
    split
    · exact .refl s
    split
    · exact .refl s
    · exact h.change_onBridge (o := .offload _ heap) rfl i _
  | table sim =>
    simp only [perform]
    split
    · exact .refl s
    · exact .kept _ (.refl s.fleet) rfl rfl rfl
  | call i call =>
    simp only [perform]
    split
    · exact .refl s
    · exact .kept _ (call.kept _ s.fleet) rfl rfl rfl

/-! ### Reachable sessions -/

/-- A session in which nothing is done yet, with the counter of slots anywhere. -/
def start (n : Nat) : Session := { empty with fleet := Fleet.vacant n }

/-- The sessions that come about by steps, each of them such. -/
inductive Reachable (P : Session → Prop) : Session → Prop
  | start (n : Nat) (hp : P (start n)) : Reachable P (start n)
  | step {s : Session} (h : Reachable P s) (st : Step) (ha : s.allows st = true)
      (hp : P (s.step st).2) : Reachable P (s.step st).2

lemma sound_start (n : Nat) : (start n).Sound where
  tracked := Fleet.tracked_vacant n
  bounded id d hd := by simp [start, Fleet.vacant, Fleet.empty, Fleet.instance?] at hd
  size := rfl
  held sim hs := by simp [start, empty, holds] at hs
  seats i seat hi := by simp [start, empty, seat?] at hi
  kernels i k hi := by simp [start, empty, kernel?] at hi

variable {P : Session → Prop}

/-- **Every reachable session** is sound. -/
lemma Reachable.sound (h : Reachable P s) : s.Sound := by
  induction h with
  | start n => exact sound_start n
  | step _ st ha _ ih => exact (ih.change_perform ha).sound ih

/-! ### No more live devices than slots -/

/-- No more simulated devices are alive than there are slots. -/
def Roomy (s : Session) : Prop := s.fleet.liveCount ≤ slotCount

instance (s : Session) : Decidable s.Roomy := inferInstanceAs (Decidable (_ ≤ _))

lemma liveCount_installMany (s : Session) (options : Options) (n : Nat) :
    (s.installMany options n).2.fleet.liveCount = s.fleet.liveCount + n := by
  induction n generalizing s with
  | zero => rfl
  | succ n ih =>
    have hone : (s.install options).fleet.liveCount = s.fleet.liveCount + 1 :=
      s.fleet.liveCount_install options
    calc (s.installMany options (n + 1)).2.fleet.liveCount
        = ((s.install options).installMany options n).2.fleet.liveCount := rfl
      _ = s.fleet.liveCount + (n + 1) := by rw [ih, hone]; omega

lemma Sound.seated_installMany (h : s.Sound) (hs : s.fleet.Seated) (options : Options) (n : Nat)
    (hroom : (s.installMany options n).2.Roomy) : (s.installMany options n).2.fleet.Seated := by
  induction n generalizing s with
  | zero => exact hs
  | succ n ih =>
    have hone : (s.fleet.install options).liveCount ≤ slotCount := by
      rw [Roomy, liveCount_installMany] at hroom
      rw [Fleet.liveCount_install]
      omega
    exact ih (h.install options) (hs.install h.tracked options hone) hroom

lemma Change.seated (hc : Change s s') (h : s.Sound) (hs : s.fleet.Seated) (hroom : s'.Roomy) :
    s'.fleet.Seated := by
  obtain hf | ⟨options, n, rfl⟩ | ⟨sim, hf⟩ := hc.fleet
  · exact hf.seated hs
  · exact h.seated_installMany hs options n hroom
  · rw [hf]
    exact hs.retire h.tracked sim

/-- With room for all live devices at every step, each is reached through its own slot. -/
lemma Reachable.seated (h : Reachable Roomy s) : s.fleet.Seated := by
  induction h with
  | start n =>
    intro id slot hs
    simp [Session.start, Fleet.vacant, Fleet.empty] at hs
  | step h st ha hp ih => exact (h.sound.change_perform ha).seated h.sound ih hp

end Session

end Offload
