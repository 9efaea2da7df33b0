import Offload.Proofs.Bridge.Effects

/-!
The operations of a bridge, each with all that a caller may choose, and what one does.

Whatever the operation and however it ends, it works by effects alone, and it binds a table only by
linking.
-/

namespace Offload

open Simulator

/-- An operation of a bridge, with what it is given. -/
inductive Operation
  | link
  | connect
  | totalCores
  | registerHeap (region : Region)
  | loadKernel (code : Code)
  | launch (kernel : Kernel) (dim : Int32) (args : List Value) (signature : Signature)
  | offload (request : Bridge.Request) (heap : Region)

/-- What an operation answers if it succeeds. -/
inductive Answer
  | done
  | device (d : Device)
  | cores (n : UInt32)
  | region (r : Region)
  | kernel (k : Kernel)

namespace Operation

def action : Operation → Action Answer
  | .link => (fun _ => .done) <$> Bridge.link
  | .connect => .device <$> Bridge.connect
  | .totalCores => .cores <$> Bridge.totalCores
  | .registerHeap region => .region <$> Bridge.registerHeap region
  | .loadKernel code => .kernel <$> Bridge.loadKernel code
  | .launch k dim args signature => .kernel <$> Bridge.launch k dim args signature
  | .offload request heap => (fun _ => .done) <$> Bridge.offload request heap

/-- How an operation ends in a scene, and the scene it leaves. -/
def outcome (o : Operation) (s : Scene) : Except Fault Answer × Scene :=
  match o.action s with
  | .ok a s' => (.ok a, s')
  | .error e s' => (.error e, s')

lemma outcome_eq (o : Operation) (s : Scene) : o.outcome s = o.action.outcome s := by
  unfold outcome Action.outcome
  cases o.action s <;> rfl

/-- An action that is an operation but for its answer leaves the scene of the operation. -/
lemma outcome_of_action {β : Type} {o : Operation} {a : Action β} {g : β → Answer}
    (ha : o.action = g <$> a) (s : Scene) : (o.outcome s).2 = (a.outcome s).2 := by
  rw [outcome_eq, ha, Action.outcome_map]

/-- Whether an operation links before anything else. -/
def links : Operation → Bool
  | .link | .connect => true
  | .offload request _ => 0 < request.dim
  | _ => false

/-- The registration that an operation tries in a scene, and whether it succeeds. -/
def tried? (s : Scene) : Operation → Option (Region × Bool)
  | .registerHeap region =>
    match s.bridge.device with
    | .ready d => some (region, (Bridge.registerOn d region).succeeds s)
    | _ => none
  | .offload request heap =>
    match Range.of request.dim, Bridge.connect s with
    | .ok _, .ok d s' =>
      if d.heap.isNone then some (heap, (Bridge.registerOn d heap).succeeds s') else none
    | _, _ => none
  | _ => none

end Operation

namespace Bridge

open Offload.Action

variable {slot : Slot} {s : Scene}

/-- The launches that may end a request: of a kernel that it has just loaded. -/
def Request.Leads (request : Request) (slot : Slot) (f : Fleet) (l : Launch) : Prop :=
  l.kernel.name = request.code.name ∧ l.dim = request.dim ∧ l.args = request.args ∧
    ∀ id, l.kernel.On slot id f

lemma serve_ends {d : Device} (ht : d.table.Simulated slot) (hh : d.handle = .encode slot .context)
    (hd : s.bridge.device ≠ .undecided) (request : Request) :
    (serve d request).Ends s fun r s' =>
      s'.bridge.table = s.bridge.table ∧
        Worked slot (some (request.Leads slot)) s s' none (faultOf r) := by
  unfold serve
  refine Ends.bind ((loadOn_ends ht hh hd request.code).mono fun r s1 hr => ?_)
  obtain ⟨hb, hk, he, got, heff, hrec⟩ := hr
  have hev := Evolves.single heff hrec
  rcases r with e | k
  · exact ⟨by rw [hb], .calm got hev (.inr ⟨e, rfl, he e rfl⟩)⟩
  obtain ⟨-, hname, hon⟩ := hk k rfl
  refine Ends.bind ((launchOn_ends ht request.dim request.args request.signature).mono
    fun r s2 hr => ?_)
  obtain ⟨hb', hl⟩ := hr
  have hboth : s2.bridge.table = s.bridge.table ∧
      Worked slot (some (request.Leads slot)) s s2 none (faultOf r) :=
    ⟨by rw [hb', hb],
      .launched s1.fleet got _ (by rwa [hb']) ⟨_, rfl, hname, rfl, rfl, hon⟩ (by rwa [hb'])⟩
  rcases r with e | k'
  · exact hboth
  · exact ends_of_ok (pure_apply () s2) hboth

/-- With the device at hand, an offload tries a registration only if no region is active. -/
lemma provide_ends {d : Device} (h : s.bridge.Linked slot) (hd : s.bridge.device = .ready d)
    (request : Request) (heap : Region) :
    (provide d request heap).Ends s fun r s' =>
      s'.bridge.table = s.bridge.table ∧ Worked slot (some (request.Leads slot)) s s'
        (if d.heap.isNone then some (heap, (registerOn d heap).succeeds s) else none)
        (faultOf r) := by
  have ht := h.table d.table (h.device d hd).1
  have hh := (h.device d hd).2
  unfold provide
  by_cases hheap : d.heap.isNone
  · rw [if_pos hheap, if_pos hheap]
    refine Ends.bind (((registerOn_ends h hd heap).and (registerOn_grave heap s)).mono
      fun r s1 hr => ?_)
    obtain ⟨⟨htab, hdec, got, heff, hrec⟩, hgrave⟩ := hr
    have hev := Evolves.single heff hrec
    rcases r with e | region
    · exact ⟨htab, .calm got hev
        (.inr ⟨e, rfl, Fault.notExecuted_of_isFatal (hgrave e rfl)⟩)⟩
    · refine (serve_ends ht hh hdec request).mono fun r s2 hr => ?_
      exact ⟨hr.1.trans htab, hev.trans_worked hr.2⟩
  · rw [if_neg hheap, if_neg hheap]
    exact serve_ends ht hh (by simp [hd]) request

/-- A kernel is loaded by a bridge that has its device. -/
lemma loadKernel_ends (h : s.bridge.Linked slot) (code : Code) :
    (loadKernel code).Ends s fun r s' => ∀ k, r = .ok k →
      s.bridge.device ≠ .undecided ∧ k.owner = s.bridge.id ∧ ∀ id, k.On slot id s'.fleet := by
  unfold loadKernel
  rcases hd : s.bridge.device with _ | _ | d
  · exact Ends.bind_of_error (by rw [requireDevice_apply, hd]) (by simp)
  · exact Ends.bind_of_error (by rw [requireDevice_apply, hd]) (by simp)
  · refine Ends.bind_of_ok (by rw [requireDevice_apply, hd]) ?_
    refine (loadOn_ends (h.table d.table (h.device d hd).1) (h.device d hd).2 (by simp [hd])
      code).mono fun r s' hr k hk => ?_
    obtain ⟨howner, -, hon⟩ := hr.2.1 k hk
    exact ⟨by simp, howner, hon⟩

/-- A kernel is launched through the bridge that loaded it alone. -/
lemma launch_ends (h : s.bridge.Linked slot) (k : Kernel) (dim : Int32) (args : List Value)
    (signature : Signature) :
    (launch k dim args signature).Ends s fun r s' =>
      s'.bridge.table = s.bridge.table ∧
        Worked slot (some fun _ l => l = ⟨k, dim, args⟩ ∧ k.owner = s.bridge.id) s s' none
          (faultOf r) := by
  have hstill : ∀ e : Fault, e.notExecuted = true → s.bridge.table = s.bridge.table ∧
      Worked slot (some fun _ l => l = ⟨k, dim, args⟩ ∧ k.owner = s.bridge.id) s s none (some e) :=
    fun e he => ⟨rfl, .calm [] .refl (.inr ⟨e, rfl, he⟩)⟩
  rcases hd : s.bridge.device with _ | _ | d
  · exact ends_of_error (by rw [launch_apply, hd]) (hstill _ rfl)
  · exact ends_of_error (by rw [launch_apply, hd]) (hstill _ rfl)
  by_cases hk : s.bridge.id = k.owner
  · have ht := h.table d.table (h.device d hd).1
    refine Ends.of_eq (launch_of_owner hd hk)
      ((launchOn_ends ht dim args signature).mono fun r s' hs => ?_)
    obtain ⟨hb, hl⟩ := hs
    exact ⟨by rw [hb],
      .launched s.fleet [] _ (by rw [hb]; exact .refl) ⟨_, rfl, rfl, hk.symm⟩ (by rwa [hb])⟩
  · exact ends_of_error (launch_of_stranger hd hk) (hstill _ rfl)

lemma offload_ends {sim : Nat} (h : s.bridge.Linked slot) (hr : s.bridge.resolver.Over sim)
    (hp : s.bridge.table = none → s.fleet.Placed sim slot) (request : Request) (heap : Region) :
    (offload request heap).Ends s fun r s' =>
      s'.bridge.table =
        s.bridge.table.or (if (Operation.offload request heap).links then s.offered? else none) ∧
      Worked slot (some (request.Leads slot)) s s' ((Operation.offload request heap).tried? s)
        (faultOf r) := by
  rcases hrange : Range.of request.dim with e | range
  · obtain ⟨hdim, he⟩ := Range.of_eq_error_iff.1 hrange
    refine ends_of_error (offload_of_not_range hrange) ⟨by simp [Operation.links, hdim], ?_⟩
    simp only [Operation.tried?, hrange]
    exact .calm [] .refl (.inr ⟨e, rfl, by rw [he]; rfl⟩)
  have hdim : (Operation.offload request heap).links = true := by
    by_contra hneg
    have hpos : ¬ 0 < request.dim := by simpa [Operation.links] using hneg
    unfold Range.of at hrange
    rw [dif_neg hpos] at hrange
    simp at hrange
  rw [hdim, if_pos rfl]
  -- what is tried depends on how connecting ended, so both ends are kept as equations
  have hconnect := connect_ends h hr hp
  have hgrave := connect_grave s
  unfold Ends at hconnect hgrave
  simp only [Operation.tried?, hrange]
  rcases hc : connect s with ⟨d, s1⟩ | ⟨e, s1⟩ <;> simp only [hc] at hconnect hgrave ⊢ <;>
    obtain ⟨htab, hready, got, hev⟩ := hconnect
  · have heq : offload request heap s = provide d request heap s1 := by
      rw [offload_of_range hrange, hc]
    refine Ends.of_eq heq ((provide_ends (hev.linked h) (hready d rfl) request heap).mono
      fun r s2 hr => ?_)
    exact ⟨hr.1.trans htab, by simpa using hev.trans_worked hr.2⟩
  · have heq : offload request heap s = .error e s1 := by
      rw [offload_of_range hrange, hc]
    exact ends_of_error heq
      ⟨htab, .calm got hev (.inr ⟨e, rfl, Fault.notExecuted_of_isFatal (hgrave e rfl)⟩)⟩

end Bridge

namespace Operation

open Bridge Offload.Action

variable {slot : Slot} {s : Scene} {sim : Nat}

lemma outcome_of_ends {o : Operation} {Q : Except Fault Answer → Scene → Prop}
    (h : o.action.Ends s Q) : Q (o.outcome s).1 (o.outcome s).2 := by
  rw [outcome_eq]
  exact ends_iff.1 h

/-- The launches that may end an operation of a bridge, if it is there to launch. -/
def leads? (slot : Slot) (b : Bridge) : Operation → Option (Fleet → Launch → Prop)
  | .launch k dim args _ => some fun _ l => l = ⟨k, dim, args⟩ ∧ k.owner = b.id
  | .offload request _ => some (request.Leads slot)
  | _ => none

/-- An operation that needs the device either runs on it or leaves the scene alone. -/
lemma requireDevice_ends {β : Type} {P : Option Fault → Scene → Prop} {f : Device → Action β}
    (operation : String) (hs : (∀ d, s.bridge.device ≠ .ready d) → ∀ e, P (some e) s)
    (hf : ∀ d, s.bridge.device = .ready d → (f d).Ends s fun r s' => P (faultOf r) s') :
    (requireDevice operation >>= f).Ends s fun r s' => P (faultOf r) s' := by
  rcases hd : s.bridge.device with _ | _ | d
  · exact Ends.bind_of_error (by rw [requireDevice_apply, hd]) (hs (by simp [hd]) _)
  · exact Ends.bind_of_error (by rw [requireDevice_apply, hd]) (hs (by simp [hd]) _)
  · exact Ends.bind_of_ok (by rw [requireDevice_apply, hd]) (hf d hd)

/-- What an operation does, and how it ends: effects and perhaps a launch after them. It tries the
registration that it should, and binds a table only by linking. -/
structure Does (slot : Slot) (s : Scene) (o : Operation) (fault? : Option Fault) (s' : Scene) :
    Prop where
  table : s'.bridge.table = s.bridge.table.or (if o.links then s.offered? else none)
  worked : Worked slot (o.leads? slot s.bridge) s s' (o.tried? s) fault?

/-- **One operation** does what it should, however it ends. -/
lemma outcome_does (h : s.bridge.Linked slot) (hr : s.bridge.resolver.Over sim)
    (hp : s.bridge.table = none → s.fleet.Placed sim slot) (o : Operation) :
    o.Does slot s (faultOf (o.outcome s).1) (o.outcome s).2 := by
  refine outcome_of_ends (Q := fun r s' => o.Does slot s (faultOf r) s') ?_
  cases o with
  | link =>
    refine Ends.map (P := Does slot s .link) _
      (Ends.bind ((ensureTable_ends hr hp).mono fun r s' hs => ?_))
    obtain ⟨hfl, -, htab, -, heff⟩ := hs
    have hev : Evolves slot s.bridge s.fleet s'.bridge s'.fleet [] none :=
      .single heff (by rw [hfl]; exact .refl s.fleet)
    cases r with
    | error e => exact ⟨htab, .calm [] hev (.inl rfl)⟩
    | ok t => exact ends_of_ok (pure_apply () s') ⟨htab, .calm [] hev (.inl rfl)⟩
  | connect =>
    refine Ends.map (P := Does slot s .connect) _ ((connect_ends h hr hp).mono fun r s' hs => ?_)
    obtain ⟨htab, -, got, hev⟩ := hs
    exact ⟨htab, .calm got hev (.inl rfl)⟩
  | totalCores =>
    refine Ends.map (P := Does slot s .totalCores) _
      (requireDevice_ends _ (fun _ _ => ?_) fun d _ => ends_of_ok (pure_apply d.cores s) ?_)
    · exact ⟨by simp [links], .calm [] .refl (.inl rfl)⟩
    · exact ⟨by simp [links], .calm [] .refl (.inl rfl)⟩
  | registerHeap region =>
    refine Ends.map (P := Does slot s (.registerHeap region)) _
      (requireDevice_ends _ (fun hn e => ?_) fun d hd => ?_)
    · have htried : (Operation.registerHeap region).tried? s = none := by
        rcases hd : s.bridge.device with _ | _ | d
        · simp [tried?, hd]
        · simp [tried?, hd]
        · exact absurd hd (hn d)
      refine ⟨by simp [links], ?_⟩
      rw [htried]
      exact .calm [] .refl (.inl rfl)
    · refine (registerOn_ends h hd region).mono fun r s' hs => ?_
      obtain ⟨htab, -, got, heff, hrec⟩ := hs
      have htried : (Operation.registerHeap region).tried? s =
          some (region, (registerOn d region).succeeds s) := by
        simp only [tried?, hd]
      refine ⟨by simp [htab, links], ?_⟩
      rw [htried]
      exact .calm got (.single heff hrec) (.inl rfl)
  | loadKernel code =>
    refine Ends.map (P := Does slot s (.loadKernel code)) _
      (requireDevice_ends _ (fun _ _ => ?_) fun d hd => ?_)
    · exact ⟨by simp [links], .calm [] .refl (.inl rfl)⟩
    · refine (loadOn_ends (h.table d.table (h.device d hd).1) (h.device d hd).2 (by simp [hd])
        code).mono fun r s' hs => ?_
      obtain ⟨hb, -, -, got, heff, hrec⟩ := hs
      exact ⟨by simp [hb, links], .calm got (.single heff hrec) (.inl rfl)⟩
  | launch k dim args signature =>
    refine Ends.map (P := Does slot s (.launch k dim args signature)) _
      ((launch_ends h k dim args signature).mono fun r s' hs => ?_)
    exact ⟨by simp [hs.1, links], hs.2⟩
  | offload request heap =>
    refine Ends.map (P := Does slot s (.offload request heap)) _
      ((offload_ends h hr hp request heap).mono fun r s' hs => ?_)
    exact ⟨hs.1, hs.2⟩

end Operation

end Offload
