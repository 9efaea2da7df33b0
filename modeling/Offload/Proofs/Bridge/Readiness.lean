import Offload.Proofs.Bridge.Lifecycle

/-!
What a fault says about the bridge that it comes from, wherever the bridge looks for its device.

A bridge is ready when it has its device and a region is active there. A fatal fault leaves it not
ready, and then no launch comes to the device before a registration succeeds; any other fault
leaves a ready bridge as it was.
-/

namespace Offload

open Simulator

namespace Bridge

open Offload.Action

def isReady (b : Bridge) : Bool := b.heap?.isSome

/-- A device that was had was had through the table that is bound. -/
def Wired (b : Bridge) : Prop := ∀ d, b.device = .ready d → b.table = some d.table

variable {b : Bridge} {s : Scene} {d : Device}

lemma exists_ready_of_isReady (h : b.isReady = true) :
    ∃ d region, b.device = .ready d ∧ d.heap = some region := by
  obtain ⟨region, hheap⟩ := Option.isSome_iff_exists.1 h
  rcases hd : b.device with _ | _ | d
  · simp [heap?, device?, hd] at hheap
  · simp [heap?, device?, hd] at hheap
  · exact ⟨d, region, rfl, heap?_of_ready hd ▸ hheap⟩

lemma isReady_eq_false (h : ∀ d, b.device = .ready d → d.heap = none) : b.isReady = false := by
  by_contra hne
  obtain ⟨d, region, hd, hheap⟩ := exists_ready_of_isReady (Bool.eq_true_of_not_eq_false hne)
  rw [h d hd] at hheap
  simp at hheap

/-! ### Bringing the device up -/

/-- Linking is nothing to a device that was had. -/
lemma ensureTable_wired (h : s.bridge.Wired) :
    ensureTable.Ends s fun r s' =>
      s'.bridge.Wired ∧ s'.bridge.device = s.bridge.device ∧
      ∀ t, r = .ok t → s'.bridge.table = some t := by
  rcases ht : s.bridge.table with _ | t
  · have hnone : ∀ d, s.bridge.device ≠ .ready d := by
      intro d hd
      rw [h d hd] at ht
      simp at ht
    rcases hl : (s.bridge.resolver.attempt s.fleet s.bridge.attempts).answers.link.1 with e | t
    · obtain ⟨notices, heq⟩ := ensureTable_of_not_linked ht hl
      exact ends_of_error heq ⟨fun d hd => absurd hd (hnone d), rfl, by simp⟩
    · obtain ⟨notices, heq⟩ := ensureTable_of_linked ht hl
      exact ends_of_ok heq ⟨fun d hd => absurd hd (hnone d), rfl, by simp⟩
  · refine ends_of_ok (ensureTable_of_bound ht) ⟨h, rfl, fun t' ht' => ?_⟩
    rw [ht, Except.ok.inj ht']

/-- A device that was just created has no region active. -/
lemma createDevice_wired {t : Table EntryPoint} (ht : s.bridge.table = some t) :
    (createDevice t).Ends s fun r s' =>
      s'.bridge.Wired ∧ s'.bridge.isReady = false ∧
        ∀ d, r = .ok d → s'.bridge.device = .ready d := by
  rcases hn : (s.fleet.createContext t.createContext).1.isNull
  · rcases hq : t.totalCores with _ | query
    · obtain ⟨notices, heq⟩ := createDevice_of_not_queried hn hq
      refine ends_of_ok heq ⟨fun d hd => ?_, rfl, by simp⟩
      cases hd
      exact ht
    · obtain ⟨notices, heq⟩ := createDevice_of_queried hn hq
      refine ends_of_ok heq ⟨fun d hd => ?_, rfl, by simp⟩
      cases hd
      exact ht
  · obtain ⟨notices, heq⟩ := createDevice_of_null hn
    exact ends_of_error heq ⟨fun d hd => by simp at hd, rfl, by simp⟩

lemma connect_wired (h : s.bridge.Wired) (hr : s.bridge.isReady = false) :
    connect.Ends s fun r s' =>
      s'.bridge.Wired ∧ s'.bridge.isReady = false ∧
      ∀ d, r = .ok d → s'.bridge.device = .ready d := by
  have htable := ensureTable_wired h
  unfold Ends at htable ⊢
  rw [connect_apply]
  rcases he : ensureTable s with ⟨t, s1⟩ | ⟨e, s1⟩ <;> simp only [he] at htable ⊢ <;>
    obtain ⟨hw, hdev, hbound⟩ := htable <;>
    have hr1 : s1.bridge.isReady = false := by
      rw [isReady, heap?, device?, hdev]
      exact hr
  · rcases hd : s1.bridge.device with _ | _ | d
    · exact createDevice_wired (hbound t rfl)
    · exact ⟨hw, hr1, by simp⟩
    · refine ⟨hw, hr1, fun d' hd' => ?_⟩
      rw [hd, Except.ok.inj hd']
  · exact ⟨hw, hr1, by simp⟩

/-- A bridge that has its device gives it to whoever connects. -/
lemma connect_of_ready (h : s.bridge.Wired) (hd : s.bridge.device = .ready d) :
    connect s = .ok d s := by
  rw [connect_apply, ensureTable_of_bound (h d hd)]
  simp only [hd]

/-- A region is active after a registration if and only if it succeeds. -/
lemma registerOn_wired (h : s.bridge.Wired) (hd : s.bridge.device = .ready d) (region : Region) :
    (registerOn d region).Ends s fun r s' =>
      s'.bridge.Wired ∧ s'.bridge.isReady = (registerOn d region).succeeds s ∧
      (s'.bridge.isReady = true → r = .ok region) := by
  have hwired : ∀ heap,
      ({ s.bridge with device := .ready { d with heap } } : Bridge).Wired := by
    intro heap d' hd'
    cases hd'
    exact h d hd
  rcases he : region.isEmpty
  · rcases ha : (s.fleet.registerHeap d.table.registerHeap region.base region.size).1
    · obtain ⟨notices, heq⟩ := registerOn_of_rejected he ha
      rw [withHeap_of_ready hd] at heq
      rw [not_succeeds_of_error heq]
      exact ends_of_error heq ⟨hwired none, rfl, by simp [isReady, heap?, device?]⟩
    · obtain ⟨notices, heq⟩ := registerOn_of_accepted he ha
      rw [withHeap_of_ready hd] at heq
      rw [succeeds_of_ok heq]
      exact ends_of_ok heq ⟨hwired (some region), rfl, fun _ => rfl⟩
  · have heq := registerOn_of_isEmpty (d := d) (s := s) he
    rw [withHeap_of_ready hd] at heq
    rw [not_succeeds_of_error heq]
    exact ends_of_error heq ⟨hwired none, rfl, by simp [isReady, heap?, device?]⟩

end Bridge

/-! ### Operations -/

namespace Operation

open Bridge Offload.Action

variable {s : Scene}

/-- Whether an operation registers a region in a scene. -/
def registers (s : Scene) (o : Operation) : Bool := ((o.tried? s).map Prod.snd).getD false

/-- A fault tells whether the bridge is ready: a fatal one that it is not, and any other one that
nothing has changed about it. -/
structure Tells (s : Scene) (o : Operation) (fault? : Option Fault) (s' : Scene) : Prop where
  wired : s'.bridge.Wired
  ready : s.bridge.isReady = false → s'.bridge.isReady = o.registers s
  fatal : ∀ e, fault? = some e → e.isFatal = true → s'.bridge.isReady = false
  mild : ∀ e, fault? = some e → e.isFatal = false → s.bridge.isReady = true →
    s'.bridge = s.bridge

/-- What leaves a ready bridge alone and is not fatal tells. -/
lemma tells_of_ready (hw : s.bridge.Wired) (hr : s.bridge.isReady = true) {o : Operation}
    {fault? : Option Fault} {s' : Scene} (hb : s'.bridge = s.bridge)
    (hmild : ∀ e, fault? = some e → e.isFatal = false) : o.Tells s fault? s' where
  wired := by rwa [hb]
  ready hn := by simp [hr] at hn
  fatal e he hf := by simp [hmild e he] at hf
  mild _ _ _ _ := hb

/-- What leaves a bridge not ready that was not, without a registration, tells. -/
lemma tells_of_not_ready {o : Operation} {fault? : Option Fault} {s' : Scene}
    (hr : s.bridge.isReady = false) (hw' : s'.bridge.Wired) (hr' : s'.bridge.isReady = false)
    (ho : o.registers s = false) : o.Tells s fault? s' where
  wired := hw'
  ready _ := by rw [hr', ho]
  fatal _ _ _ := hr'
  mild _ _ _ hn := by simp [hr] at hn

/-- An action that is mild tells, if it registers nothing. -/
lemma tells_of_mild {β : Type} {o : Operation} {a : Action β} (ha : a.Mild) (hw : s.bridge.Wired)
    (ho : o.registers s = false) : a.Ends s fun r s' => o.Tells s (faultOf r) s' := by
  refine (ha s).mono fun r s' hs => ?_
  obtain ⟨hb, hmild⟩ := hs
  rcases hr : s.bridge.isReady
  · exact tells_of_not_ready hr (by rwa [hb]) (by rwa [hb]) ho
  · exact tells_of_ready hw hr hb hmild

/-- An operation that needs the device tells, if it does with the device. -/
lemma requireDevice_tells {β : Type} {o : Operation} {f : Device → Action β} (name : String)
    (hw : s.bridge.Wired) (ho : (∀ d, s.bridge.device ≠ .ready d) → o.registers s = false)
    (hf : ∀ d, s.bridge.device = .ready d →
      (f d).Ends s fun r s' => o.Tells s (faultOf r) s') :
    (requireDevice name >>= f).Ends s fun r s' => o.Tells s (faultOf r) s' := by
  refine requireDevice_ends name (fun hn e => ?_) hf
  have hr : s.bridge.isReady = false := isReady_eq_false fun d hd => absurd hd (hn d)
  exact tells_of_not_ready hr hw hr (ho hn)

lemma launch_tells (hw : s.bridge.Wired) (k : Kernel) (dim : Int32) (args : List Value)
    (signature : Signature) :
    (Bridge.launch k dim args signature).Ends s fun r s' =>
      (Operation.launch k dim args signature).Tells s (faultOf r) s' := by
  have hreg : (Operation.launch k dim args signature).registers s = false := rfl
  rcases hd : s.bridge.device with _ | _ | d
  · have hr : s.bridge.isReady = false := by simp [isReady, heap?, device?, hd]
    exact ends_of_error (by rw [launch_apply, hd]) (tells_of_not_ready hr hw hr hreg)
  · have hr : s.bridge.isReady = false := by simp [isReady, heap?, device?, hd]
    exact ends_of_error (by rw [launch_apply, hd]) (tells_of_not_ready hr hw hr hreg)
  by_cases hk : s.bridge.id = k.owner
  · exact Ends.of_eq (launch_of_owner hd hk)
      (tells_of_mild (launchOn_mild dim args signature) hw hreg)
  · exact Ends.of_eq ((launch_of_stranger hd hk).trans (throw_apply _ s).symm)
      (tells_of_mild (mild_throw rfl) hw hreg)

lemma registerOn_tells {d : Device} (hw : s.bridge.Wired) (hd : s.bridge.device = .ready d)
    (region : Region) :
    (registerOn d region).Ends s fun r s' =>
      (Operation.registerHeap region).Tells s (faultOf r) s' := by
  have hreg : (Operation.registerHeap region).registers s = (registerOn d region).succeeds s := by
    simp only [registers, tried?, hd, Option.map_some, Option.getD_some]
  refine ((registerOn_wired hw hd region).and (registerOn_grave region s)).mono fun r s' hs => ?_
  obtain ⟨⟨hw', hr', hok⟩, hgrave⟩ := hs
  refine ⟨hw', fun _ => by rw [hr', hreg], fun e he _ => ?_, fun e he hf _ => ?_⟩
  · by_contra hready
    rw [hok (Bool.eq_true_of_not_eq_false hready)] at he
    simp at he
  · rw [hgrave e he] at hf
    simp at hf

/-- An offload over a ready bridge only loads and launches. -/
lemma offload_tells_of_ready (hw : s.bridge.Wired) (hr : s.bridge.isReady = true)
    (request : Request) (heap : Region) :
    (Bridge.offload request heap).Ends s fun r s' =>
      (Operation.offload request heap).Tells s (faultOf r) s' := by
  obtain ⟨d, region, hd, hheap⟩ := exists_ready_of_isReady hr
  rcases hrange : Range.of request.dim with e | range
  · obtain ⟨-, he⟩ := Range.of_eq_error_iff.1 hrange
    refine ends_of_error (offload_of_not_range hrange) (tells_of_ready hw hr rfl fun e' he' => ?_)
    rw [← Option.some.inj he', he]
    rfl
  · have heq : Bridge.offload request heap s = serve d request s := by
      rw [offload_of_range hrange, connect_of_ready hw hd]
      simp only [provide, hheap, Option.isNone_some, Bool.false_eq_true, if_false]
    refine Ends.of_eq heq ((serve_mild request s).mono fun r s' hs => ?_)
    exact tells_of_ready hw hr hs.1 hs.2

/-- An offload over a bridge that is not ready registers its region, if it comes to that. -/
lemma offload_tells_of_not_ready (hw : s.bridge.Wired) (hr : s.bridge.isReady = false)
    (request : Request) (heap : Region) :
    (Bridge.offload request heap).Ends s fun r s' =>
      (Operation.offload request heap).Tells s (faultOf r) s' := by
  rcases hrange : Range.of request.dim with e | range
  · have hreg : (Operation.offload request heap).registers s = false := by
      simp [registers, tried?, hrange]
    exact ends_of_error (offload_of_not_range hrange) (tells_of_not_ready hr hw hr hreg)
  have hconnect := connect_wired hw hr
  unfold Ends at hconnect
  rcases hc : Bridge.connect s with ⟨d, s1⟩ | ⟨e, s1⟩ <;> simp only [hc] at hconnect <;>
    obtain ⟨hw1, hr1, hready⟩ := hconnect
  · have hd := hready d rfl
    have hnone : d.heap = none := by
      rw [isReady, heap?_of_ready hd] at hr1
      simpa using hr1
    have heq : Bridge.offload request heap s =
        (registerOn d heap >>= fun _ => serve d request) s1 := by
      rw [offload_of_range hrange, hc]
      simp only [provide, hnone, Option.isNone_none, if_true]
    have hreg : (Operation.offload request heap).registers s = (registerOn d heap).succeeds s1 := by
      simp [registers, tried?, hrange, hc, hnone]
    refine Ends.of_eq heq (Ends.bind ((registerOn_wired hw1 hd heap).mono fun r s2 hs => ?_))
    obtain ⟨hw2, hr2, hok⟩ := hs
    cases r with
    | error e =>
      have hr2' : s2.bridge.isReady = false := by
        by_contra hne
        have hbad := hok (Bool.eq_true_of_not_eq_false hne)
        simp at hbad
      exact tells_of_not_ready hr hw2 hr2' (by rw [hreg, ← hr2, hr2'])
    | ok region =>
      refine (serve_mild request s2).mono fun r s3 hs => ?_
      obtain ⟨hb, hmild⟩ := hs
      refine ⟨by rwa [hb], fun _ => by rw [hb, hr2, hreg], fun e he hf => ?_, by simp [hr]⟩
      rw [hmild e he] at hf
      simp at hf
  · have heq : Bridge.offload request heap s = .error e s1 := by
      rw [offload_of_range hrange, hc]
    have hreg : (Operation.offload request heap).registers s = false := by
      simp [registers, tried?, hrange, hc]
    exact ends_of_error heq (tells_of_not_ready hr hw1 hr1 hreg)

/-- **Every operation** tells with its fault whether the bridge is ready. -/
lemma outcome_tells (hw : s.bridge.Wired) (o : Operation) :
    o.Tells s (faultOf (o.outcome s).1) (o.outcome s).2 := by
  refine outcome_of_ends (Q := fun r s' => o.Tells s (faultOf r) s') ?_
  cases o with
  | link =>
    refine Ends.map (P := Tells s .link) _ ?_
    rcases hr : s.bridge.isReady
    · refine Ends.bind ((ensureTable_wired hw).mono fun r s' hs => ?_)
      obtain ⟨hw', hdev, -⟩ := hs
      have hr' : s'.bridge.isReady = false := by
        rw [isReady, heap?, device?, hdev]
        exact hr
      have htells : ∀ fault?, Tells s .link fault? s' :=
        fun _ => tells_of_not_ready hr hw' hr' rfl
      cases r with
      | error e => exact htells _
      | ok t => exact ends_of_ok (pure_apply () s') (htells none)
    · obtain ⟨d, region, hd, -⟩ := exists_ready_of_isReady hr
      have htells : Tells s .link none s := tells_of_ready hw hr rfl (by simp)
      exact Ends.bind_of_ok (ensureTable_of_bound (hw d hd)) (ends_of_ok (pure_apply () s) htells)
  | connect =>
    refine Ends.map (P := Tells s .connect) _ ?_
    rcases hr : s.bridge.isReady
    · refine (connect_wired hw hr).mono fun r s' hs => ?_
      exact tells_of_not_ready hr hs.1 hs.2.1 rfl
    · obtain ⟨d, region, hd, -⟩ := exists_ready_of_isReady hr
      exact ends_of_ok (connect_of_ready hw hd) (tells_of_ready hw hr rfl (by simp))
  | totalCores =>
    exact Ends.map (P := Tells s .totalCores) _
      (requireDevice_tells _ hw (fun _ => rfl) fun d _ => tells_of_mild (mild_pure d.cores) hw rfl)
  | registerHeap region =>
    refine Ends.map (P := Tells s (.registerHeap region)) _
      (requireDevice_tells _ hw (fun hn => ?_) fun d hd => registerOn_tells hw hd region)
    rcases hd : s.bridge.device with _ | _ | d
    · simp [registers, tried?, hd]
    · simp [registers, tried?, hd]
    · exact absurd hd (hn d)
  | loadKernel code =>
    exact Ends.map (P := Tells s (.loadKernel code)) _
      (requireDevice_tells _ hw (fun _ => rfl) fun d _ => tells_of_mild (loadOn_mild code) hw rfl)
  | launch k dim args signature =>
    exact Ends.map (P := Tells s (.launch k dim args signature)) _
      (launch_tells hw k dim args signature)
  | offload request heap =>
    refine Ends.map (P := Tells s (.offload request heap)) _ ?_
    rcases hr : s.bridge.isReady
    · exact offload_tells_of_not_ready hw hr request heap
    · exact offload_tells_of_ready hw hr request heap

end Operation

/-! ### Rounds -/

namespace Bridge

open Offload.Action

/-- Whether any of these rounds registers a region. -/
def registers (b : Bridge) : List Round → Bool
  | [] => false
  | x :: rest =>
    x.operation.registers (.of b x.fleet) || (b.round x).2.bridge.registers rest

variable {b : Bridge}

lemma wired_of (n : Nat) (resolver : Resolver) (settings : Settings) :
    (Bridge.of n resolver settings).Wired := by
  intro d hd
  simp [Bridge.of] at hd

lemma Wired.round (h : b.Wired) (x : Round) :
    x.operation.Tells (.of b x.fleet) (faultOf (b.round x).1) (b.round x).2 :=
  x.operation.outcome_tells (s := .of b x.fleet) h

lemma Wired.after (h : b.Wired) (rounds : List Round) : (b.after rounds).Wired := by
  induction rounds generalizing b with
  | nil => exact h
  | cons x rounds ih => exact ih (h.round x).wired

/-- What is not ready stays so until a region is registered. -/
lemma Wired.isReady_after (h : b.Wired) (hr : b.isReady = false) (rounds : List Round)
    (hn : b.registers rounds = false) : (b.after rounds).isReady = false := by
  induction rounds generalizing b with
  | nil => exact hr
  | cons x rounds ih =>
    rw [registers, Bool.or_eq_false_iff] at hn
    have htells := h.round x
    have hr' : (b.round x).2.bridge.isReady = false := by rw [htells.ready hr, hn.1]
    exact ih htells.wired hr' hn.2

/-- A bridge that is not ready refuses a launch without asking its device: the fault is the same
whatever the device would answer. -/
lemma launch_of_not_ready (hr : b.isReady = false) (k : Kernel) (dim : Int32) (args : List Value)
    (signature : Signature) :
    ∃ e, ∀ fleet, b.round ⟨fleet, .launch k dim args signature⟩ = (.error e, .of b fleet) := by
  have hfail : ∀ e fleet, launch k dim args signature (.of b fleet) = .error e (.of b fleet) →
      b.round ⟨fleet, .launch k dim args signature⟩ = (.error e, .of b fleet) := by
    intro e fleet heq
    apply Operation.outcome_of_error
    change ((fun k => Answer.kernel k) <$> launch k dim args signature) (.of b fleet) = _
    rw [map_apply, heq]
  rcases hd : b.device with _ | _ | d
  · refine ⟨.notInitialized "execute_kernel_void_1d", fun fleet => hfail _ fleet ?_⟩
    simp only [launch_apply, Scene.of, hd]
  · refine ⟨.context, fun fleet => hfail _ fleet ?_⟩
    simp only [launch_apply, Scene.of, hd]
  by_cases hk : b.id = k.owner
  · have hheap : b.heap? = none := by simpa [isReady] using hr
    rcases hc : checkLaunch b.heap? b.settings.verifyObjects k.name dim args signature with
      e | range
    · refine ⟨e, fun fleet => hfail e fleet ?_⟩
      have hlaunch : launchOn d k dim args signature (.of b fleet) = .error e (.of b fleet) :=
        launchOn_of_unfit hc
      exact (launch_of_owner (s := .of b fleet) hd hk).trans hlaunch
    · obtain ⟨-, region, hsome, -⟩ := of_check_eq_ok (s := .of b .empty) hc
      have hsome' : b.heap? = some region := hsome
      simp [hheap] at hsome'
  · refine ⟨.invalidKernel ("kernel '" ++ k.name ++ "' was created on another context"),
      fun fleet => hfail _ fleet (launch_of_stranger (s := .of b fleet) hd hk)⟩

/-- **Faults tell whether a bridge is ready**, wherever it looks for its device and whatever it
finds from one operation to the next. After a fatal fault it is not ready, and stays so until a
region is registered; meanwhile every launch is refused without asking the device. Any other fault
leaves a ready bridge with the device, the table and the region that it had. -/
theorem faults_tell (n : Nat) (resolver : Resolver) (settings : Settings) (rounds : List Round)
    (x : Round) (e : Fault)
    (he : (((Bridge.of n resolver settings).after rounds).round x).1 = .error e) :
    let b := (Bridge.of n resolver settings).after rounds
    let b' := (b.round x).2.bridge
    (e.isFatal = true → b'.isReady = false ∧ ∀ later, b'.registers later = false →
      (b'.after later).isReady = false ∧
      (∀ k dim args signature, ∃ e', ∀ fleet,
        (b'.after later).round ⟨fleet, .launch k dim args signature⟩ =
          (.error e', .of (b'.after later) fleet)) ∧
      ∀ y : Round, ((b'.after later).round y).2.bridge.isReady =
        y.operation.registers (.of (b'.after later) y.fleet)) ∧
    (e.isFatal = false → b.isReady = true →
      ∃ d region, b.device = .ready d ∧ d.heap = some region ∧ b.table = some d.table ∧
        b' = b) := by
  intro b b'
  have hwired : b.Wired := (wired_of n resolver settings).after rounds
  have htells := hwired.round x
  have hfault : faultOf (b.round x).1 = some e := by
    rw [he]
    rfl
  refine ⟨fun hf => ?_, fun hf hr => ?_⟩
  · have hr : b'.isReady = false := htells.fatal e hfault hf
    refine ⟨hr, fun later hn => ?_⟩
    have hr' := htells.wired.isReady_after hr later hn
    exact ⟨hr', launch_of_not_ready hr', fun y => ((htells.wired.after later).round y).ready hr'⟩
  · obtain ⟨d, region, hd, hheap⟩ := exists_ready_of_isReady hr
    exact ⟨d, region, hd, hheap, hwired d hd, htells.mild e hfault hf hr⟩

/-- A device that rejects a region stops the launches; a range that is not positive does not. -/
theorem faults_tell_rejected :
    let sound := Fleet.empty.install {}
    let rejecting := Fleet.empty.install { failHeap := true }
    let rounds : List Round := [⟨sound, .connect⟩, ⟨sound, .registerHeap ⟨4096, 64⟩⟩]
    let b := (Bridge.of 0 (.simulated 0) .default).after rounds
    b.isReady = true ∧
    (b.round ⟨rejecting, .registerHeap ⟨8192, 64⟩⟩).2.bridge.isReady = false ∧
    (b.round ⟨sound, .offload ⟨⟨[1], "k", by decide, by decide⟩, ⟨[], false, none⟩, [], 0⟩
      ⟨8192, 64⟩⟩).2.bridge = b := by
  intro sound rejecting rounds b
  have hr : b.isReady = true := by decide +kernel
  obtain ⟨hfatal, -⟩ := faults_tell 0 (.simulated 0) .default rounds
    ⟨rejecting, .registerHeap ⟨8192, 64⟩⟩ (.heapRegistration 8192 64)
    (eq_error_of_faultOf (by decide +kernel))
  obtain ⟨-, hmild⟩ := faults_tell 0 (.simulated 0) .default rounds
    ⟨sound, .offload ⟨⟨[1], "k", by decide, by decide⟩, ⟨[], false, none⟩, [], 0⟩ ⟨8192, 64⟩⟩
    (.invalidRange 0) (eq_error_of_faultOf (by decide +kernel))
  obtain ⟨hn, -⟩ := hfatal rfl
  obtain ⟨-, -, -, -, -, hb⟩ := hmild rfl hr
  exact ⟨hr, by simpa only [b] using hn, hb⟩

end Bridge

end Offload
