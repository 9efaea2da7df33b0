import Offload.Proofs.Bridge.Stepwise
import Offload.Proofs.Run.Books

/-!
Attempts to register a heap: which operations make one, what the device is told by it, and what it
leaves registered.

Only two operations attempt a registration, and an offload only over a bridge that has its device
by then and no region. Between attempts the registered heap stays as it is: connecting creates a
device without one, and nothing else touches it.
-/

namespace Offload

open Simulator

/-- What the runtime answers when a device is told of a region. -/
def Device.accepts (d : Device) (f : Fleet) (region : Region) : Bool :=
  (f.registerHeap d.table.registerHeap region.base region.size).1

/-- The region that an operation attempts to register, and whether the runtime accepts it. -/
def Operation.attempt? (s : Scene) : Operation → Option (Region × Bool)
  | .registerHeap region =>
    match s.bridge.device with
    | .ready d => some (region, d.accepts s.fleet region)
    | _ => none
  | .offload request heap =>
    if 0 < request.dim then
      match Bridge.connect s with
      | .ok d s' => if s'.bridge.heap?.isNone then some (heap, d.accepts s'.fleet heap) else none
      | .error _ _ => none
    else none
  | _ => none

/-- The registered heap after an attempt: the region, if it is one and was accepted. -/
def outcomeOf (attempt : Region × Bool) : Option Region :=
  if attempt.1.isEmpty = false ∧ attempt.2 = true then some attempt.1 else none

/-- What a device is told by an attempt: the region, if it is one. -/
def Region.told (r : Region) : List Region := if r.isEmpty then [] else [r]

/-- All regions that an instance was told of, by its journal. -/
def Simulator.Fleet.registrations (f : Fleet) (id : Nat) : List Region :=
  (f.journal id).toList.filterMap Call.region?

lemma outcomeOf_eq_some_iff {attempt : Region × Bool} {r : Region} :
    outcomeOf attempt = some r ↔ attempt = (r, true) ∧ r.isEmpty = false := by
  obtain ⟨region, accepted⟩ := attempt
  unfold outcomeOf
  constructor
  · intro h
    split at h
    · rename_i hboth
      obtain rfl := Option.some.inj h
      exact ⟨Prod.ext rfl hboth.2, hboth.1⟩
    · simp at h
  · rintro ⟨heq, hne⟩
    obtain ⟨rfl, rfl⟩ := Prod.mk.inj heq
    exact if_pos ⟨hne, rfl⟩

namespace Bridge

open Offload.Action

variable {slot : Slot} {f f' : Fleet} {b b' : Bridge} {got : List (Nat × Call)} {sim : Nat}
  {tried : Option (Region × Bool)}

lemma succeeds_registerOn (d : Device) (region : Region) (s : Scene) :
    (registerOn d region).succeeds s = (!region.isEmpty && d.accepts s.fleet region) := by
  rcases he : region.isEmpty
  · rcases ha : d.accepts s.fleet region
    · obtain ⟨notices, heq⟩ := registerOn_of_rejected he ha
      rw [not_succeeds_of_error heq]
      rfl
    · obtain ⟨notices, heq⟩ := registerOn_of_accepted he ha
      rw [succeeds_of_ok heq]
      rfl
  · rw [not_succeeds_of_error (registerOn_of_isEmpty he)]
    rfl

/-! ### The registered heap -/

/-- An effect leaves the heap of the registration that it tries, and otherwise the one before. -/
lemma Effect.heap? (h : Effect slot f b b' got tried) :
    b'.heap? = tried.elim b.heap? fun x => if x.2 then some x.1 else none := by
  cases h with
  | missed => rfl
  | bound => rfl
  | loaded => rfl
  | registered d region accepted => rfl
  | decided t state rest ht hu hs hr =>
    have hbefore : b.heap? = none := by simp [Bridge.heap?, device?, hu]
    rw [Option.elim_none, hbefore]
    cases state with
    | undecided => exact absurd rfl hs
    | unavailable => rfl
    | ready d => exact (heap?_of_ready rfl).trans (hr d rfl).2.2

lemma Evolves.heap? (h : Evolves slot b f b' f' got tried) :
    b'.heap? = tried.elim b.heap? fun x => if x.2 then some x.1 else none := by
  induction h with
  | refl => rfl
  | @tail b' b'' f' f'' got got' tried tried' _ he _ ih =>
    rw [he.heap?]
    cases tried' with
    | none => rw [Option.elim_none, Option.none_or, ih]
    | some x => rfl

/-! ### What a device is told -/

lemma Effect.region?_eq_none (h : Effect slot f b b' got none) : ∀ x ∈ got, x.2.region? = none := by
  cases h with
  | missed => simp
  | bound => simp
  | decided t state rest ht hu hs hr hrest =>
    intro x hx
    have hmem := (Fleet.mem_through hx).2
    rcases hrest with rfl | rfl
    · rw [List.mem_singleton.1 hmem]
      rfl
    · rcases List.mem_pair.1 hmem with hc | hc <;> rw [hc] <;> rfl
  | loaded name size hd =>
    intro x hx
    rw [List.mem_singleton.1 (Fleet.mem_through hx).2]
    rfl

lemma Evolves.region?_eq_none (h : Evolves slot b f b' f' got tried) (ht : tried = none) :
    ∀ x ∈ got, x.2.region? = none := by
  induction h with
  | refl => simp
  | tail _ he _ ih =>
    obtain ⟨rfl, rfl⟩ := Option.or_eq_none_iff.1 ht
    intro x hx
    rcases List.mem_append.1 hx with hx | hx
    · exact ih rfl x hx
    · exact he.region?_eq_none x hx

lemma Effect.told {region : Region} {accepted : Bool}
    (h : Effect slot f b b' got (some (region, accepted))) (ho : f.owner? slot = some sim) :
    (callsTo sim got).filterMap Call.region? = region.told := by
  cases h with
  | registered d =>
    rw [callsTo_through ho, Region.told]
    split <;> rfl

end Bridge

namespace Simulator.Fleet.Received

variable {f f' : Fleet} {got : List (Nat × Call)}

lemma registrations (h : Received f f' got) (sim : Nat) :
    f'.registrations sim = f.registrations sim ++ (callsTo sim got).filterMap Call.region? := by
  rw [Fleet.registrations, h.journal, List.filterMap_append]
  rfl

/-- Calls that register nothing add no registration. -/
lemma registrations_eq (h : Received f f' got) (hnone : ∀ x ∈ got, x.2.region? = none)
    (sim : Nat) : f'.registrations sim = f.registrations sim := by
  have hnew : (callsTo sim got).filterMap Call.region? = [] :=
    List.filterMap_eq_nil_iff.2 fun c hc => hnone _ (mem_callsTo.1 hc)
  rw [h.registrations, hnew, List.append_nil]

end Simulator.Fleet.Received

namespace Bridge

open Offload.Action

variable {slot : Slot} {sim sim' : Nat} {tried : Option (Region × Bool)} {s s' : Scene}
  {d : Device} {may : Option (Fleet → Launch → Prop)} {fault? : Option Fault}

lemma Worked.heap? (h : Worked slot may s s' tried fault?) :
    s'.bridge.heap? = tried.elim s.bridge.heap? fun x => if x.2 then some x.1 else none := by
  obtain ⟨f, got, id, launched, hev, -, -⟩ := h.split
  exact hev.heap?

/-- Without an attempt nothing is told; a launch tells nothing either. -/
lemma Worked.registrations_eq (h : Worked slot may s s' none fault?) (sim : Nat) :
    s'.fleet.registrations sim = s.fleet.registrations sim := by
  obtain ⟨f, got, id, launched, hev, hl, hf⟩ := h.split
  have hlaunched : ∀ x ∈ launched.map (id, ·), x.2.region? = none := by
    intro x hx
    obtain ⟨c, hc, rfl⟩ := List.mem_map.1 hx
    have hlaunch := hl.isLaunch c hc
    cases c <;> simp_all [Call.isLaunch, Call.region?]
  calc s'.fleet.registrations sim
      = f.registrations sim := hf.registrations_eq hlaunched sim
    _ = s.fleet.registrations sim :=
        hev.received.registrations_eq (hev.region?_eq_none rfl) sim

lemma registerOn_registrations (h : s.bridge.Linked slot) (hd : s.bridge.device = .ready d)
    (ho : s.fleet.owner? slot = some sim) (region : Region) :
    (registerOn d region).Ends s fun _ s' =>
      s'.fleet.registrations sim = s.fleet.registrations sim ++ region.told := by
  refine (registerOn_ends h hd region).mono fun r s' hr => ?_
  obtain ⟨-, -, got, heff, hrec⟩ := hr
  rw [hrec.registrations, heff.told ho]

lemma provide_registrations (h : s.bridge.Linked slot) (hd : s.bridge.device = .ready d)
    (ho : s.fleet.owner? slot = some sim) (request : Request) (heap : Region) :
    (provide d request heap).Ends s fun _ s' => s'.fleet.registrations sim =
      s.fleet.registrations sim ++ if d.heap.isNone then heap.told else [] := by
  have ht := h.table d.table (h.device d hd).1
  have hh := (h.device d hd).2
  unfold provide
  by_cases hheap : d.heap.isNone
  · rw [if_pos hheap, if_pos hheap]
    refine Ends.bind (((registerOn_ends h hd heap).and (registerOn_registrations h hd ho heap)).mono
      fun r s1 hr => ?_)
    obtain ⟨⟨-, hdec, -⟩, htold⟩ := hr
    rcases r with e | region
    · exact htold
    · refine (serve_ends ht hh hdec request).mono fun r s2 hr => ?_
      rw [hr.2.registrations_eq, htold]
  · rw [if_neg hheap, if_neg hheap]
    refine (serve_ends ht hh (by simp [hd]) request).mono fun r s2 hr => ?_
    rw [hr.2.registrations_eq, List.append_nil]

lemma offload_registrations (h : s.bridge.Linked slot) (hr : s.bridge.resolver.Over sim')
    (hp : s.bridge.table = none → s.fleet.Placed sim' slot) (ho : s.fleet.owner? slot = some sim)
    (request : Request) (heap : Region) :
    (offload request heap).Ends s fun _ s' => s'.fleet.registrations sim =
      s.fleet.registrations sim ++
        ((Operation.offload request heap).attempt? s).elim [] fun x => x.1.told := by
  by_cases hdim : 0 < request.dim
  · have hrange := Range.of_pos hdim
    have hconnect := connect_ends h hr hp
    unfold Ends at hconnect
    simp only [Operation.attempt?, hdim, if_true]
    rcases hc : connect s with ⟨d, s1⟩ | ⟨e, s1⟩ <;> simp only [hc] at hconnect ⊢ <;>
      obtain ⟨-, hready, got, hev⟩ := hconnect <;>
      have hsame : s1.fleet.registrations sim = s.fleet.registrations sim :=
        hev.received.registrations_eq (hev.region?_eq_none rfl) sim
    · have heq : offload request heap s = provide d request heap s1 := by
        rw [offload_of_range hrange, hc]
      have hd := hready d rfl
      have ho' : s1.fleet.owner? slot = some sim := by rw [hev.received.owner, ho]
      refine Ends.of_eq heq ((provide_registrations (hev.linked h) hd ho' request heap).mono
        fun r s2 htold => ?_)
      rw [htold, hsame, heap?_of_ready hd]
      split <;> rfl
    · have heq : offload request heap s = .error e s1 := by
        rw [offload_of_range hrange, hc]
      exact ends_of_error heq (by rw [hsame, Option.elim_none, List.append_nil])
  · refine ends_of_error (offload_of_not_range (Range.of_not_pos hdim)) ?_
    simp [Operation.attempt?, hdim]

end Bridge

namespace Operation

open Bridge Offload.Action

variable {slot : Slot} {sim sim' : Nat} {s s' : Scene} {fault? : Option Fault} {o : Operation}

/-- An attempt succeeds if the region is one and the runtime accepts it. -/
lemma tried?_eq_map (o : Operation) (s : Scene) :
    o.tried? s = (o.attempt? s).map fun x => (x.1, !x.1.isEmpty && x.2) := by
  cases o with
  | registerHeap region =>
    rcases hd : s.bridge.device with _ | _ | d
    · simp [tried?, attempt?, hd]
    · simp [tried?, attempt?, hd]
    · simp [tried?, attempt?, hd, succeeds_registerOn]
  | offload request heap =>
    by_cases hdim : 0 < request.dim
    · have hrange := Range.of_pos hdim
      rcases hc : Bridge.connect s with ⟨d, s1⟩ | ⟨e, s1⟩
      · have hheap := heap?_of_ready (ready_of_connect hc)
        simp only [tried?, attempt?, hrange, hc, hdim, if_true, hheap, succeeds_registerOn]
        split <;> rfl
      · simp [tried?, attempt?, hrange, hc]
    · simp [tried?, attempt?, Range.of_not_pos hdim, hdim]
  | _ => rfl

/-- **The registered heap** after an operation is the outcome of its attempt, and the one before if
it made none. -/
lemma Does.heap? (h : o.Does slot s fault? s') :
    s'.bridge.heap? = (o.attempt? s).elim s.bridge.heap? outcomeOf := by
  have hheap := h.worked.heap?
  rw [tried?_eq_map] at hheap
  rcases ha : o.attempt? s with _ | ⟨r, accepted⟩ <;> rw [ha] at hheap
  · exact hheap
  · rw [hheap, Option.map_some, Option.elim_some, Option.elim_some, outcomeOf]
    cases r.isEmpty <;> cases accepted <;> rfl

/-- **What a device is told** by an operation: the region of its attempt, if it makes one over a
region, and nothing otherwise. -/
lemma registrations_outcome (h : s.bridge.Linked slot) (hr : s.bridge.resolver.Over sim')
    (hp : s.bridge.table = none → s.fleet.Placed sim' slot) (ho : s.fleet.owner? slot = some sim)
    (o : Operation) :
    (o.outcome s).2.fleet.registrations sim =
      s.fleet.registrations sim ++ (o.attempt? s).elim [] fun x => x.1.told := by
  have hquiet : o.attempt? s = none → (o.outcome s).2.fleet.registrations sim =
      s.fleet.registrations sim ++ (o.attempt? s).elim [] fun x => x.1.told := by
    intro hnone
    have hw := (outcome_does h hr hp o).worked
    rw [tried?_eq_map, hnone] at hw
    rw [hnone, Option.elim_none, List.append_nil, hw.registrations_eq]
  cases o with
  | registerHeap region =>
    rcases hd : s.bridge.device with _ | _ | d
    · exact hquiet (by simp [attempt?, hd])
    · exact hquiet (by simp [attempt?, hd])
    · have ha : (Operation.registerHeap region).attempt? s =
          some (region, d.accepts s.fleet region) := by simp only [attempt?, hd]
      have htold := ends_iff.1 (Ends.of_eq (registerHeap_of_ready hd region)
        (registerOn_registrations h hd ho region))
      rw [ha, Option.elim_some, outcome_of_action (o := .registerHeap region) rfl]
      exact htold
  | offload request heap =>
    rw [outcome_of_action (o := .offload request heap) rfl]
    exact ends_iff.1 (offload_registrations h hr hp ho request heap)
  | _ => exact hquiet rfl

/-- An attempt over no region is answered with the fault that names it. -/
lemma outcome_of_isEmpty {r : Region} {accepted : Bool} (ha : o.attempt? s = some (r, accepted))
    (he : r.isEmpty = true) : (o.outcome s).1 = .error (.heapRegistration r.base r.size) := by
  cases o with
  | registerHeap region =>
    rcases hd : s.bridge.device with _ | _ | d <;> simp only [attempt?, hd] at ha
    · cases ha
    · cases ha
    · obtain ⟨rfl, -⟩ := Prod.mk.inj (Option.some.inj ha)
      have haction : (Operation.registerHeap region).action s =
          .error (.heapRegistration region.base region.size) (s.withHeap none) := by
        change ((Answer.region <$> Bridge.registerHeap region) : Action Answer) s = _
        rw [map_apply, registerHeap_of_ready hd, registerOn_of_isEmpty he]
      rw [outcome, haction]
  | offload request heap =>
    simp only [attempt?] at ha
    split at ha
    · rename_i hdim
      have hrange := Range.of_pos hdim
      rcases hc : Bridge.connect s with ⟨d, s1⟩ | ⟨e, s1⟩ <;> simp only [hc] at ha
      · rw [heap?_of_ready (ready_of_connect hc)] at ha
        split at ha
        · rename_i hheap
          obtain ⟨rfl, -⟩ := Prod.mk.inj (Option.some.inj ha)
          have haction : (Operation.offload request heap).action s =
              .error (.heapRegistration heap.base heap.size) (s1.withHeap none) := by
            change (((fun _ => Answer.done) <$> Bridge.offload request heap) : Action Answer) s = _
            rw [map_apply, offload_of_range hrange, hc]
            simp only [provide, if_pos hheap]
            rw [bind_apply, registerOn_of_isEmpty he]
          rw [outcome, haction]
        · cases ha
      · cases ha
    · cases ha
  | _ => cases ha

end Operation

end Offload
