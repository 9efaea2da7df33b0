import Mathlib.Algebra.BigOperators.Group.Finset.Piecewise
import Mathlib.Data.List.Induction
import Offload.Proofs.Bridge.Operation

/-!
The life of a bridge over a simulated device, whatever it finds from one operation to the next.

Its table is settled before its device, each of them once; and the one call that creates a context
is made when the device is settled.
-/

namespace Offload

open Simulator

/-! ### Calls that create contexts -/

/-- How many calls to create a context the instances of a fleet have received. -/
def Simulator.Fleet.contextCalls (f : Fleet) : Nat :=
  ∑ id ∈ Finset.range f.cells.size, (f.journal id).toList.count .createContext

/-- Whether an instance answers to an entry point that creates contexts. -/
def Simulator.Fleet.answers (f : Fleet) : EntryPoint → Bool
  | .createContext slot => (f.owner? slot).isSome
  | _ => false

namespace Simulator.Fleet

variable {f f' : Fleet} {got : List (Nat × Call)} {slot : Slot}

lemma sum_count_callsTo {n : Nat} {c : Call} (hn : ∀ x ∈ got, x.2 = c → x.1 < n) :
    ∑ id ∈ Finset.range n, (callsTo id got).count c = (got.map Prod.snd).count c := by
  induction got with
  | nil => simp
  | cons x got ih =>
    have hx : ∀ id, callsTo id (x :: got) = (if x.1 = id then [x.2] else []) ++ callsTo id got := by
      intro id
      by_cases h : x.1 = id <;> simp [callsTo, h]
    have hone :
        ∑ id ∈ Finset.range n, (if x.1 = id then [x.2] else []).count c = [x.2].count c := by
      by_cases hc : x.2 = c
      · have hlt := hn x (by simp) hc
        simp [apply_ite (List.count c), hlt]
      · simp [apply_ite (List.count c), hc]
    simp only [hx, List.count_append, Finset.sum_add_distrib, hone,
      ih fun y hy => hn y (List.mem_cons_of_mem x hy), List.map_cons]
    rw [← List.count_append, List.singleton_append]

/-- Calls raise the count by as many as create a context. -/
lemma Received.contextCalls_eq (h : Received f f' got) :
    f'.contextCalls = f.contextCalls + (got.map Prod.snd).count .createContext := by
  rw [contextCalls, contextCalls, h.size_eq, ← sum_count_callsTo fun x hx _ => h.known x hx,
    ← Finset.sum_add_distrib]
  refine Finset.sum_congr rfl fun id _ => ?_
  rw [h.journal, List.count_append]

lemma map_snd_through (calls : List Call) :
    (f.through slot calls).map Prod.snd = if (f.owner? slot).isSome then calls else [] := by
  unfold through
  cases f.owner? slot <;> simp [Function.comp_def]

end Simulator.Fleet

/-! ### What stays settled -/

/-- The device as it was settled, apart from the heap. -/
def DeviceState.outcome : DeviceState → DeviceState
  | .ready d => .ready { d with heap := none }
  | state => state

namespace Bridge

def outcome (b : Bridge) : DeviceState := b.device.outcome

def isDecided (b : Bridge) : Bool :=
  match b.device with
  | .undecided => false
  | _ => true

/-- Whether an instance of a fleet answers to the bridge when it creates a context. -/
def isHosted (b : Bridge) (f : Fleet) : Bool :=
  match b.table with
  | some t => f.answers t.createContext
  | none => false

/-- What is settled in one bridge is so in the other. -/
structure Settled (b b' : Bridge) : Prop where
  table : ∀ t, b.table = some t → b'.table = some t
  outcome : b.device ≠ .undecided → b'.outcome = b.outcome

variable {slot : Slot} {f f' : Fleet} {b b' b'' : Bridge} {got : List (Nat × Call)}
  {tried : Option (Region × Bool)}

lemma isDecided_iff : b.isDecided = true ↔ b.device ≠ .undecided := by
  unfold isDecided
  cases b.device <;> simp

lemma outcome_eq_undecided_iff : b.outcome = .undecided ↔ b.device = .undecided := by
  unfold outcome DeviceState.outcome
  cases b.device <;> simp

namespace Settled

lemma refl (b : Bridge) : b.Settled b := ⟨fun _ h => h, fun _ => rfl⟩

lemma device_ne (h : b.Settled b') (hd : b.device ≠ .undecided) : b'.device ≠ .undecided := by
  rw [ne_eq, ← outcome_eq_undecided_iff, h.outcome hd, outcome_eq_undecided_iff]
  exact hd

lemma decided (h : b.Settled b') (hd : b.isDecided = true) : b'.isDecided = true :=
  isDecided_iff.2 (h.device_ne (isDecided_iff.1 hd))

lemma trans (h : b.Settled b') (h' : b'.Settled b'') : b.Settled b'' where
  table t ht := h'.table t (h.table t ht)
  outcome hd := (h'.outcome (h.device_ne hd)).trans (h.outcome hd)

/-- A device that was had is still had, with another heap perhaps. -/
lemma device_of_ready (h : b.Settled b') {d : Device} (hd : b.device = .ready d) :
    ∃ heap, b'.device = .ready { d with heap } := by
  have hout := h.outcome (by simp [hd])
  unfold Bridge.outcome DeviceState.outcome at hout
  rw [hd] at hout
  rcases hd' : b'.device with _ | _ | d'
  · simp [hd'] at hout
  · simp [hd'] at hout
  · simp only [hd', DeviceState.ready.injEq, Device.mk.injEq, and_true] at hout
    obtain ⟨ht, hh, hc⟩ := hout
    exact ⟨d'.heap, by rw [← ht, ← hh, ← hc]⟩

/-- A device that could not be had is still not had. -/
lemma device_of_unavailable (h : b.Settled b') (hd : b.device = .unavailable) :
    b'.device = .unavailable := by
  have hout := h.outcome (by simp [hd])
  unfold Bridge.outcome DeviceState.outcome at hout
  rw [hd] at hout
  rcases hd' : b'.device with _ | _ | d' <;> simp [hd'] at hout
  rfl

end Settled

lemma Effect.settled (h : Effect slot f b b' got tried) : b.Settled b' := by
  refine ⟨h.keeps_table, fun hd => ?_⟩
  cases h with
  | missed => rfl
  | bound => rfl
  | decided _ _ _ _ hu => exact absurd hu hd
  | registered d region accepted hd' => simp [Bridge.outcome, DeviceState.outcome, hd']
  | loaded => rfl

lemma Evolves.settled (h : Evolves slot b f b' f' got tried) : b.Settled b' := by
  induction h with
  | refl => exact .refl b
  | tail _ he _ ih => exact ih.trans he.settled

/-- A context is created by the effect that settles the device, and by no other. -/
lemma Effect.count_createContext (h : Effect slot f b b' got tried) :
    (got.map Prod.snd).count .createContext +
        (if b.isDecided && (f.owner? slot).isSome then 1 else 0) =
      if b'.isDecided && (f.owner? slot).isSome then 1 else 0 := by
  cases h with
  | missed => simp [isDecided]
  | bound => simp [isDecided]
  | decided t state rest ht hu hs hr hrest =>
    have hdec : ({ b with device := state } : Bridge).isDecided = true := isDecided_iff.2 hs
    have hund : b.isDecided = false := by simp [isDecided, hu]
    rw [Fleet.map_snd_through, hdec, hund]
    rcases hrest with rfl | rfl <;> cases (f.owner? slot).isSome <;> simp
  | registered d region accepted hd =>
    have hdec : b.isDecided = true := by simp [isDecided, hd]
    rw [Fleet.map_snd_through, hdec]
    cases region.isEmpty <;> cases (f.owner? slot).isSome <;> simp [isDecided]
  | loaded name size =>
    rw [Fleet.map_snd_through]
    cases (f.owner? slot).isSome <;> simp

lemma Evolves.contextCalls_eq (h : Evolves slot b f b' f' got tried) :
    f'.contextCalls + (if b.isDecided && (f.owner? slot).isSome then 1 else 0) =
      f.contextCalls + (if b'.isDecided && (f.owner? slot).isSome then 1 else 0) := by
  induction h with
  | refl => rfl
  | tail hev he hf ih =>
    -- calls take no instance out of its slot, so one condition serves for the whole chain
    have hcount := he.count_createContext
    rw [hev.received.owner slot] at hcount
    rw [hf.contextCalls_eq]
    omega

variable {may : Option (Fleet → Launch → Prop)} {s s' : Scene} {fault? : Option Fault}

lemma Worked.settled (h : Worked slot may s s' tried fault?) : s.bridge.Settled s'.bridge := by
  obtain ⟨f, got, id, launched, hev, -, -⟩ := h.split
  exact hev.settled

lemma Worked.contextCalls_eq (h : Worked slot may s s' tried fault?) :
    s'.fleet.contextCalls +
        (if s.bridge.isDecided && (s.fleet.owner? slot).isSome then 1 else 0) =
      s.fleet.contextCalls +
        (if s'.bridge.isDecided && (s.fleet.owner? slot).isSome then 1 else 0) := by
  obtain ⟨f, got, id, launched, hev, hl, hf⟩ := h.split
  have hnone : Call.createContext ∉ launched := by
    intro hc
    simpa [Call.isLaunch] using hl.isLaunch _ hc
  have hcount : (launched.map (Prod.snd ∘ (id, ·))).count .createContext = 0 := by
    simpa [Function.comp_def] using List.count_eq_zero.2 hnone
  rw [hf.contextCalls_eq, List.map_map, ← hev.contextCalls_eq]
  omega

end Bridge

/-! ### Refusals -/

namespace Operation

open Bridge Offload.Action

/-- The name under which an operation asks for the device, if it cannot settle it. -/
def required? : Operation → Option String
  | .totalCores => some "total_cores"
  | .registerHeap _ => some "register_heap"
  | .loadKernel _ => some "generate_kernel"
  | .launch .. => some "execute_kernel_void_1d"
  | _ => none

/-- Whether an operation comes to the device at all. -/
def usesDevice : Operation → Bool
  | .link => false
  | .offload request _ => 0 < request.dim
  | _ => true

variable {s : Scene} {o : Operation}

/-- An operation that asks for the device ends there if it is refused. -/
lemma action_of_refused {name : String} (hn : o.required? = some name) {e : Fault}
    (hr : requireDevice name s = .error e s) : o.action s = .error e s := by
  have hbind : ∀ {β : Type} (f : Device → Action β) (g : β → Answer),
      (g <$> (requireDevice name >>= f)) s = .error e s := by
    intro β f g
    rw [map_apply, bind_apply, hr]
  cases o with
  | link => simp [required?] at hn
  | connect => simp [required?] at hn
  | totalCores =>
    obtain rfl := Option.some.inj hn
    exact hbind _ _
  | registerHeap region =>
    obtain rfl := Option.some.inj hn
    exact hbind _ _
  | loadKernel code =>
    obtain rfl := Option.some.inj hn
    exact hbind _ _
  | launch k dim args signature =>
    obtain rfl := Option.some.inj hn
    exact hbind _ _
  | offload request heap => simp [required?] at hn

lemma outcome_of_error {s' : Scene} {e : Fault} (h : o.action s = .error e s') :
    o.outcome s = (.error e, s') := by
  rw [outcome, h]

/-- Until the device is settled, an operation that asks for it fails and does nothing. -/
lemma outcome_of_undecided {name : String} (hn : o.required? = some name)
    (hu : s.bridge.device = .undecided) : o.outcome s = (.error (.notInitialized name), s) :=
  outcome_of_error (action_of_refused hn (by rw [requireDevice_apply, hu]))

/-- Once the device could not be had, an operation that comes to it fails and does nothing. -/
lemma outcome_of_unavailable (ho : o.usesDevice = true) {t : Table EntryPoint}
    (ht : s.bridge.table = some t) (hu : s.bridge.device = .unavailable) :
    o.outcome s = (.error .context, s) := by
  have hconnect : Bridge.connect s = .error .context s := by
    rw [connect_apply, ensureTable_of_bound ht]
    simp only [hu]
  apply outcome_of_error
  cases o with
  | link => simp [usesDevice] at ho
  | connect =>
    change ((fun d => Answer.device d) <$> Bridge.connect) s = _
    rw [map_apply, hconnect]
  | offload request heap =>
    have hpos : 0 < request.dim := by simpa [usesDevice] using ho
    have hrange : Range.of request.dim = .ok ⟨request.dim, hpos⟩ := dif_pos hpos
    change ((fun _ => Answer.done) <$> Bridge.offload request heap) s = _
    rw [map_apply, offload_of_range hrange, hconnect]
  | _ => exact action_of_refused rfl (by rw [requireDevice_apply, hu])

lemma connect_outcome_of_ready {t : Table EntryPoint} (ht : s.bridge.table = some t) {d : Device}
    (hd : s.bridge.device = .ready d) : (Operation.connect.outcome s).1 = .ok (.device d) := by
  have hconnect : Bridge.connect s = .ok d s := by
    rw [connect_apply, ensureTable_of_bound ht]
    simp only [hd]
  have haction : Operation.connect.action s = .ok (.device d) s := by
    change ((fun d => Answer.device d) <$> Bridge.connect) s = _
    rw [map_apply, hconnect]
  rw [outcome, haction]

end Operation

/-! ### Rounds -/

/-- What a bridge finds, and what it is asked to do. -/
structure Round where
  fleet : Fleet
  operation : Operation

namespace Bridge

/-- How a round ends for a bridge, and the scene it leaves. -/
def round (b : Bridge) (x : Round) : Except Fault Answer × Scene :=
  x.operation.outcome (.of b x.fleet)

def after (b : Bridge) (rounds : List Round) : Bridge :=
  rounds.foldl (fun b x => (b.round x).2.bridge) b

/-- How many calls to create a context reach an instance in these rounds. -/
def contextCalls (b : Bridge) : List Round → Nat
  | [] => 0
  | x :: rest =>
    ((b.round x).2.fleet.contextCalls - x.fleet.contextCalls) +
      (b.round x).2.bridge.contextCalls rest

/-- A bridge over a simulated device, in the slot where it found it. -/
def Over (b : Bridge) (sim : Nat) : Prop := b.resolver = .simulated sim ∧ ∃ slot, b.Linked slot

variable {b : Bridge} {sim : Nat}

/-- Before there is a table, the bridge may be bound to any slot. -/
lemma Linked.of_unbound {slot : Slot} (h : b.Linked slot) (ht : b.table = none) (slot' : Slot) :
    b.Linked slot' where
  table t ht' := by simp [ht] at ht'
  bound := h.bound
  device d hd := by
    have hbound := (h.device d hd).1
    simp [ht] at hbound

lemma Over.exists_placed (h : b.Over sim) (f : Fleet) :
    ∃ slot, b.Linked slot ∧ (b.table = none → f.Placed sim slot) := by
  obtain ⟨-, slot, hl⟩ := h
  rcases ht : b.table with _ | t
  -- nothing ties an unbound bridge to a slot yet, so it is taken for the one that is there now
  · rcases hc : f.cells[sim]?.map Cell.slot with _ | slot'
    · exact ⟨slot, hl, fun _ _ hs => by simp [hc] at hs⟩
    · refine ⟨slot', hl.of_unbound ht slot', fun _ slot'' hs => ?_⟩
      rw [hc] at hs
      exact (Option.some.inj hs).symm
  · exact ⟨slot, hl, fun hn => by simp at hn⟩

lemma Linked.isHosted_eq {slot : Slot} (h : b.Linked slot) (hd : b.isDecided = true) (f : Fleet) :
    b.isHosted f = (f.owner? slot).isSome := by
  obtain ⟨t, ht⟩ := h.bound (isDecided_iff.1 hd)
  rw [isHosted, ht]
  simp only [(h.table t ht).createContext, Fleet.answers]

/-- **One round**: what was settled stays so; only linking binds a table; a context is created if
and only if the device is settled. -/
lemma Over.round (h : b.Over sim) (x : Round) :
    (b.round x).2.bridge.Over sim ∧ b.Settled (b.round x).2.bridge ∧
      (b.round x).2.bridge.table =
        b.table.or (if x.operation.links then (Scene.of b x.fleet).offered? else none) ∧
      (b.round x).2.fleet.contextCalls = x.fleet.contextCalls +
        if !b.isDecided && (b.round x).2.bridge.isDecided && (b.round x).2.bridge.isHosted x.fleet
        then 1 else 0 := by
  obtain ⟨slot, hl, hp⟩ := h.exists_placed x.fleet
  obtain ⟨htab, hw⟩ := x.operation.outcome_does (s := .of b x.fleet) hl
    (h.1 ▸ Resolver.over_simulated sim) hp
  have hid := hw.identity
  simp only [Bridge.identity, Prod.mk.injEq] at hid
  have hl' : (b.round x).2.bridge.Linked slot := hw.linked hl
  refine ⟨⟨hid.2.1.trans h.1, slot, hl'⟩, hw.settled, htab, ?_⟩
  have hcalls : (b.round x).2.fleet.contextCalls +
      (if b.isDecided && (x.fleet.owner? slot).isSome then 1 else 0) = x.fleet.contextCalls +
      (if (b.round x).2.bridge.isDecided && (x.fleet.owner? slot).isSome then 1 else 0) :=
    hw.contextCalls_eq
  rcases hdec : b.isDecided
  · rcases hdec' : (b.round x).2.bridge.isDecided
    · simpa [hdec, hdec'] using hcalls
    · rw [hl'.isHosted_eq hdec']
      simpa [hdec, hdec'] using hcalls
  · have hdec' : (b.round x).2.bridge.isDecided = true := hw.settled.decided hdec
    rw [hdec, hdec'] at hcalls
    simp only [Bool.not_true, Bool.false_and, Bool.false_eq_true, if_false]
    omega

/-- **All rounds** of a run keep what was settled. -/
lemma Over.after (h : b.Over sim) (rounds : List Round) :
    (b.after rounds).Over sim ∧ b.Settled (b.after rounds) := by
  induction rounds generalizing b with
  | nil => exact ⟨h, .refl b⟩
  | cons x rounds ih =>
    obtain ⟨hover, hset, -, -⟩ := h.round x
    obtain ⟨hover', hset'⟩ := ih hover
    exact ⟨hover', hset.trans hset'⟩

lemma Over.round_contextCalls_le (h : b.Over sim) (x : Round) :
    (b.round x).2.fleet.contextCalls - x.fleet.contextCalls + b.isDecided.toNat ≤
      (b.round x).2.bridge.isDecided.toNat := by
  obtain ⟨-, hset, -, hcalls⟩ := h.round x
  rw [hcalls, Nat.add_sub_cancel_left]
  rcases hdec : b.isDecided
  · rcases (b.round x).2.bridge.isDecided
    · simp
    · simp only [Bool.toNat_false, Bool.toNat_true, Nat.add_zero]
      split <;> omega
  · have hdec' : (b.round x).2.bridge.isDecided = true := hset.decided hdec
    simp [hdec']

/-- At most one context is created from now on, and none if the device is settled already. -/
lemma Over.contextCalls_le (h : b.Over sim) (rounds : List Round) :
    b.contextCalls rounds + b.isDecided.toNat ≤ (b.after rounds).isDecided.toNat := by
  induction rounds generalizing b with
  | nil =>
    rw [contextCalls, Nat.zero_add]
    exact Nat.le_refl _
  | cons x rounds ih =>
    have hfirst := h.round_contextCalls_le x
    have hrest := ih (h.round x).1
    calc b.contextCalls (x :: rounds) + b.isDecided.toNat
        = (b.round x).2.bridge.contextCalls rounds +
            ((b.round x).2.fleet.contextCalls - x.fleet.contextCalls + b.isDecided.toNat) := by
          rw [contextCalls]
          omega
      _ ≤ (b.round x).2.bridge.contextCalls rounds + (b.round x).2.bridge.isDecided.toNat :=
          Nat.add_le_add_left hfirst _
      _ ≤ (b.after (x :: rounds)).isDecided.toNat := hrest

lemma over_of (n sim : Nat) (settings : Settings) :
    (Bridge.of n (.simulated sim) settings).Over sim :=
  ⟨rfl, 0, linked_of n (.simulated sim) settings 0⟩

/-- **Monotone lifecycle**: over a simulated device, whatever a bridge finds from one operation to
the next. The table is bound by the first resolution that succeeds and stays; the device is settled
only with a table, and stays; the call that creates a context is made when the device is settled,
at most once. A device that was had is given again to whoever connects; one that could not be had
fails every later use; and before that is known nothing but connecting can use it. -/
theorem lifecycle_monotone (n sim : Nat) (settings : Settings) (rounds : List Round) :
    let start := Bridge.of n (.simulated sim) settings
    let b := start.after rounds
    start.contextCalls rounds ≤ 1 ∧
    (b.isDecided = true → b.isLinked = true) ∧
    (∀ x : Round,
      let s' := (b.round x).2
      s'.bridge.table =
        b.table.or (if x.operation.links then (Scene.of b x.fleet).offered? else none) ∧
      s'.fleet.contextCalls = x.fleet.contextCalls +
        if !b.isDecided && s'.bridge.isDecided && s'.bridge.isHosted x.fleet then 1 else 0) ∧
    (∀ later, b.Settled (b.after later)) ∧
    (∀ d, b.device = .ready d → ∀ later fleet, ∃ heap,
      ((b.after later).round ⟨fleet, .connect⟩).1 = .ok (.device { d with heap })) ∧
    (b.device = .unavailable → ∀ later, ∀ x : Round, x.operation.usesDevice = true →
      (b.after later).round x = (.error .context, .of (b.after later) x.fleet)) ∧
    (b.device = .undecided → ∀ x : Round, ∀ name, x.operation.required? = some name →
      b.round x = (.error (.notInitialized name), .of b x.fleet)) := by
  intro start b
  obtain ⟨hover, -⟩ := (over_of n sim settings).after rounds
  refine ⟨?_, fun hd => ?_, fun x => (hover.round x).2.2, fun later => (hover.after later).2,
    fun d hd later fleet => ?_, fun hd later x hx => ?_, fun hu x name hn => ?_⟩
  · have hle := (over_of n sim settings).contextCalls_le rounds
    have hone := Bool.toNat_le (((of n (.simulated sim) settings).after rounds).isDecided)
    exact (Nat.le_add_right _ _).trans (hle.trans hone)
  · obtain ⟨-, slot, hl⟩ := hover
    obtain ⟨t, ht⟩ := hl.bound (isDecided_iff.1 hd)
    rw [isLinked, ht]
    rfl
  · obtain ⟨⟨-, slot, hl⟩, hset⟩ := hover.after later
    obtain ⟨heap, hd'⟩ := hset.device_of_ready hd
    obtain ⟨t, ht⟩ := hl.bound (by simp [hd'])
    exact ⟨heap, Operation.connect_outcome_of_ready ht hd'⟩
  · obtain ⟨⟨-, slot, hl⟩, hset⟩ := hover.after later
    have hd' := hset.device_of_unavailable hd
    obtain ⟨t, ht⟩ := hl.bound (by simp [hd'])
    exact Operation.outcome_of_unavailable hx ht hd'
  · exact Operation.outcome_of_undecided hn hu

/-- A bridge that failed once fails again on a device that has been mended. -/
theorem lifecycle_monotone_mended :
    let failing := Fleet.empty.install { failContext := true }
    let mended := failing.configure 0 fun _ => {}
    let b := (Bridge.of 0 (.simulated 0) .default).after [⟨failing, .connect⟩]
    b.device = .unavailable ∧ b.round ⟨mended, .connect⟩ = (.error .context, .of b mended) := by
  intro failing mended b
  have hd : b.device = .unavailable := by rfl
  obtain ⟨-, -, -, -, -, hfail, -⟩ := lifecycle_monotone 0 0 .default [⟨failing, .connect⟩]
  exact ⟨hd, hfail hd [] ⟨mended, .connect⟩ rfl⟩

end Bridge

end Offload
