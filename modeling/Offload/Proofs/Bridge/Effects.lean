import Offload.Proofs.Bridge.Faults
import Offload.Proofs.Simulator.Calls

/-!
The effects of a bridge over a simulated device: what it can do to itself, and the calls it makes
while it does.

An action is a sequence of effects, a launch at its end apart. What every effect preserves, every
operation preserves; no property of runs looks into an action again.
-/

namespace Offload

open Simulator

/-- The table that linking would bind now. -/
def Scene.offered? (s : Scene) : Option (Table EntryPoint) :=
  (s.bridge.resolver.attempt s.fleet s.bridge.attempts).answers.link.1.toOption

/-- An instance, if it is there, has this slot. -/
def Simulator.Fleet.Placed (f : Fleet) (id : Nat) (slot : Slot) : Prop :=
  ∀ slot', f.cells[id]?.map Cell.slot = some slot' → slot' = slot

/-- Whether a call belongs to a launch. -/
def Simulator.Call.isLaunch : Call → Bool
  | .clearArgs _ | .push _ _ | .execute _ _ _ => true
  | _ => false

/-- A kernel with what it is launched over. -/
structure Launch where
  kernel : Kernel
  dim : Int32
  args : List Value

/-- A kernel's handle is of this slot and, while the slot yields this instance, names a kernel of
the same name. -/
def Kernel.On (k : Kernel) (slot : Slot) (id : Nat) (f : Fleet) : Prop :=
  ∃ i, k.handle.kernelIndex? = some (slot, i) ∧
    (f.owner? slot = some id → ∃ d, f.instance? id = some d ∧ d.names[i]? = some k.name)

/-- What is behind such a handle, if anything, is that kernel of that instance. -/
lemma Kernel.On.behind {k : Kernel} {slot : Slot} {id id' : Nat} {f : Fleet} {loaded : Loaded}
    (h : k.On slot id f) (ho : f.owner? slot = some id)
    (hb : f.behind? k.handle = some (id', loaded)) : id' = id ∧ loaded.name = k.name := by
  obtain ⟨i, hi, hname⟩ := h
  obtain ⟨d, hd, hk⟩ := hname ho
  obtain ⟨slot', i', d', hi', ho', hd', hk'⟩ := Fleet.behind?_eq_some_iff.1 hb
  obtain ⟨rfl, rfl⟩ := Prod.mk.inj (Option.some.inj (hi.symm.trans hi'))
  obtain rfl := Option.some.inj (ho.symm.trans ho')
  obtain rfl := Option.some.inj (hd.symm.trans hd')
  have hname' : d.names[i]? = some loaded.name := by simp [Simulator.Instance.names, hk']
  exact ⟨rfl, Option.some.inj (hname'.symm.trans hk)⟩

lemma Kernel.On.later {k : Kernel} {slot : Slot} {id : Nat} {f f' : Fleet} (h : k.On slot id f)
    (hf : Fleet.Later f f') (hlt : id < f.cells.size) : k.On slot id f' := by
  obtain ⟨i, hi, hname⟩ := h
  refine ⟨i, hi, fun ho => ?_⟩
  obtain ⟨d, hd, hk⟩ := hname (hf.owner id slot hlt ho)
  obtain ⟨d', hd', more, hmore⟩ := hf.names id d hd
  have hindex : i < d.names.length := (List.getElem?_eq_some_iff.1 hk).1
  exact ⟨d', hd', by rw [← hmore, List.getElem?_append_left hindex, hk]⟩

namespace Bridge

open Offload.Action

/-! ### Effects -/

/-- A device in this slot is all that the bridge can be bound to. -/
structure Linked (b : Bridge) (slot : Slot) : Prop where
  table : ∀ t, b.table = some t → t.Simulated slot
  bound : b.device ≠ .undecided → ∃ t, b.table = some t
  device : ∀ d, b.device = .ready d → b.table = some d.table ∧ d.handle = .encode slot .context

lemma linked_of (n : Nat) (resolver : Resolver) (settings : Settings) (slot : Slot) :
    (Bridge.of n resolver settings).Linked slot :=
  ⟨by simp [Bridge.of], by simp [Bridge.of], by simp [Bridge.of]⟩

/-- What of a bridge no action changes. -/
def identity (b : Bridge) : Nat × Resolver × Settings := (b.id, b.resolver, b.settings)

/-- One effect on a bridge over a slot: the bridge after it, the calls with the instance that each
reaches, and the registration that was tried, with its success. -/
inductive Effect (slot : Slot) (f : Fleet) (b : Bridge) :
    Bridge → List (Nat × Call) → Option (Region × Bool) → Prop
  | missed (attempts : Nat) : Effect slot f b { b with attempts } [] none
  | bound (attempts : Nat) (t : Table EntryPoint) (hb : b.table = none) (ht : t.Simulated slot) :
      Effect slot f b { b with attempts, table := some t } [] none
  | decided (t : Table EntryPoint) (state : DeviceState) (rest : List Call)
      (ht : b.table = some t) (hu : b.device = .undecided) (hs : state ≠ .undecided)
      (hr : ∀ d, state = .ready d →
        d.table = t ∧ d.handle = .encode slot .context ∧ d.heap = none)
      (hrest : rest = [] ∨ rest = [.totalCores]) :
      Effect slot f b { b with device := state } (f.through slot (.createContext :: rest)) none
  | registered (d : Device) (region : Region) (accepted : Bool) (hd : b.device = .ready d)
      (he : accepted = true → region.isEmpty = false) :
      Effect slot f b
        { b with device := .ready { d with heap := if accepted then some region else none } }
        (f.through slot
          (if region.isEmpty then [] else [.registerHeap region.base region.size]))
        (some (region, accepted))
  | loaded (name : String) (size : Nat) (hd : b.device ≠ .undecided) :
      Effect slot f b b (f.through slot [.createKernel name size]) none

/-- Effects one after another, the fleet changing by their calls alone. The last registration
that was tried is kept. -/
inductive Evolves (slot : Slot) (b : Bridge) (f : Fleet) :
    Bridge → Fleet → List (Nat × Call) → Option (Region × Bool) → Prop
  | refl : Evolves slot b f b f [] none
  | tail {b' b'' : Bridge} {f' f'' : Fleet} {got got' : List (Nat × Call)}
      {tried tried' : Option (Region × Bool)} (h : Evolves slot b f b' f' got tried)
      (he : Effect slot f' b' b'' got' tried') (hf : Fleet.Received f' f'' got') :
      Evolves slot b f b'' f'' (got ++ got') (tried'.or tried)

/-- The calls of a launch on one kernel, as far as it comes: the queue cleared, some of the
arguments pushed, and the execution only after all of them. -/
inductive Sequence (kernel : String) (args : List Pushed) : List Call → Prop
  | broken (done rest : List Pushed) (h : done ++ rest = args) :
      Sequence kernel args (.clearArgs kernel :: done.map (.push kernel))
  | whole (dim : Int32) :
      Sequence kernel args
        (.clearArgs kernel :: args.map (.push kernel) ++ [.execute kernel dim args])

/-- Arguments that pass the check under some signature, over a registered heap. -/
def Admits (b : Bridge) (args : List Value) : Prop :=
  ∃ region signature, b.heap? = some region ∧
    Marshal.validate signature args region b.settings.verifyObjects = .ok ()

/-- The calls of what may be a launch: none, or one sequence over the registered heap. -/
inductive Launches (b : Bridge) : List Call → Prop
  | none : Launches b []
  | calls (region : Region) (kernel : String) (args : List Value) (signature : Signature)
      (calls : List Call) (hh : b.heap? = some region)
      (hv : Marshal.validate signature args region b.settings.verifyObjects = .ok ())
      (hc : Sequence kernel (args.map Value.pushed) calls) :
      Launches b calls

/-- The launch of a kernel on a bridge, as its calls make one fleet of another and as it ends: it is
refused, or it breaks off before the execution, or it executes the kernel over its arguments. -/
inductive Launched (b : Bridge) (l : Launch) (f f' : Fleet) (fault? : Option Fault) : Prop
  | refused (e : Fault) (h : fault? = some e) (he : e.notExecuted = true) (hf : f' = f)
  | broken (e : Fault) (h : fault? = some e) (he : e.notExecuted = true) (ha : b.Admits l.args)
      (id : Nat) (loaded : Loaded) (hb : f.behind? l.kernel.handle = some (id, loaded))
      (done rest : List Pushed) (hsplit : done ++ rest = l.args.map Value.pushed)
      (hf : Fleet.Received f f'
        ((.clearArgs loaded.name :: done.map (.push loaded.name)).map (id, ·)))
  | executed (ha : b.Admits l.args) (id : Nat) (loaded : Loaded)
      (hb : f.behind? l.kernel.handle = some (id, loaded)) (f₁ : Fleet)
      (hf : Fleet.Received f f₁
        ((.clearArgs loaded.name :: (l.args.map Value.pushed).map (.push loaded.name)).map (id, ·)))
      (hx : f₁.execute .execute l.kernel.handle l.dim = (fault?.isNone, f'))
      (hf' : Fleet.Received f₁ f'
        [(id, .execute loaded.name l.dim (l.args.map Value.pushed))])
      (h : ∀ e, fault? = some e → e = .execution l.kernel.name)

variable {slot : Slot} {f f' : Fleet} {b b' : Bridge} {got : List (Nat × Call)}
  {tried : Option (Region × Bool)} {l : Launch} {fault? : Option Fault}

/-- What a launch calls is one sequence or nothing, and reaches the instance of its kernel. -/
lemma Launched.launches (h : Launched b l f f' fault?) : ∃ id launched, Launches b launched ∧
    Fleet.Received f f' (launched.map (id, ·)) ∧
    (launched ≠ [] → ∃ loaded, f.behind? l.kernel.handle = some (id, loaded)) := by
  cases h with
  | refused e h he hf => exact ⟨0, [], .none, hf ▸ .refl f, by simp⟩
  | broken e h he ha id loaded hb done rest hsplit hf =>
    obtain ⟨region, signature, hh, hv⟩ := ha
    exact ⟨id, _, .calls region loaded.name l.args signature _ hh hv (.broken done rest hsplit), hf,
      fun _ => ⟨loaded, hb⟩⟩
  | executed ha id loaded hb f₁ hf hx hf' h =>
    obtain ⟨region, signature, hh, hv⟩ := ha
    refine ⟨id, _, .calls region loaded.name l.args signature _ hh hv (.whole l.dim), ?_,
      fun _ => ⟨loaded, hb⟩⟩
    rw [List.map_append]
    exact hf.trans hf'

lemma Sequence.cases_of_mem {kernel : String} {args : List Pushed} {calls : List Call} {c : Call}
    (hs : Sequence kernel args calls) (hc : c ∈ calls) :
    c = .clearArgs kernel ∨ (∃ arg ∈ args, c = .push kernel arg) ∨
      ∃ dim, c = .execute kernel dim args := by
  cases hs with
  | broken done rest hargs =>
    rcases List.mem_cons.1 hc with rfl | hc
    · exact .inl rfl
    · obtain ⟨arg, harg, rfl⟩ := List.mem_map.1 hc
      have hmem : arg ∈ args := hargs ▸ List.mem_append_left rest harg
      exact .inr (.inl ⟨arg, hmem, rfl⟩)
  | whole dim =>
    rcases List.mem_append.1 hc with hc | hc
    · rcases List.mem_cons.1 hc with rfl | hc
      · exact .inl rfl
      · obtain ⟨arg, harg, rfl⟩ := List.mem_map.1 hc
        exact .inr (.inl ⟨arg, harg, rfl⟩)
    · exact .inr (.inr ⟨dim, List.mem_singleton.1 hc⟩)

lemma Sequence.isLaunch {kernel : String} {args : List Pushed} {calls : List Call}
    (hs : Sequence kernel args calls) : ∀ c ∈ calls, c.isLaunch = true := by
  intro c hc
  obtain rfl | ⟨arg, -, rfl⟩ | ⟨dim, rfl⟩ := hs.cases_of_mem hc
  · rfl
  · rfl
  · rfl

lemma Launches.isLaunch {calls : List Call} (hl : Launches b calls) :
    ∀ c ∈ calls, c.isLaunch = true := by
  cases hl with
  | none => simp
  | calls _ _ _ _ _ _ _ hc => exact hc.isLaunch

lemma Effect.identity (h : Effect slot f b b' got tried) : b'.identity = b.identity := by
  cases h <;> rfl

lemma Effect.linked (h : Effect slot f b b' got tried) (hb : b.Linked slot) : b'.Linked slot := by
  cases h with
  | missed => exact ⟨hb.table, hb.bound, hb.device⟩
  | bound attempts t hn ht =>
    refine ⟨fun t' ht' => by rwa [← Option.some.inj ht'], fun _ => ⟨t, rfl⟩, fun d hd => ?_⟩
    have hbound := (hb.device d hd).1
    rw [hn] at hbound
    simp at hbound
  | decided t state rest ht hu hs hr =>
    refine ⟨hb.table, fun _ => ⟨t, ht⟩, fun d hd => ?_⟩
    obtain ⟨rfl, hh, -⟩ := hr d hd
    exact ⟨ht, hh⟩
  | registered d region accepted hd =>
    refine ⟨hb.table, fun _ => hb.bound (by simp [hd]), fun d' hd' => ?_⟩
    cases hd'
    exact hb.device d hd
  | loaded => exact hb

lemma Effect.keeps_table (h : Effect slot f b b' got tried) (t : Table EntryPoint)
    (ht : b.table = some t) : b'.table = some t := by
  cases h with
  | bound _ _ hn => rw [ht] at hn; simp at hn
  | _ => exact ht

/-- Outside a launch nothing is pushed and nothing executed. -/
lemma Effect.quiet (h : Effect slot f b b' got tried) : ∀ x ∈ got, x.2.isLaunch = false := by
  cases h with
  | missed => simp
  | bound => simp
  | decided t state rest ht hu hs hr hrest =>
    intro x hx
    have hmem := (Fleet.mem_through hx).2
    rcases hrest with rfl | rfl
    · rw [List.mem_singleton.1 hmem]
      rfl
    · rcases List.mem_pair.1 hmem with hc | hc <;> rw [hc] <;> rfl
  | registered d region accepted hd he =>
    intro x hx
    have hmem := (Fleet.mem_through hx).2
    split at hmem
    · simp at hmem
    · rw [List.mem_singleton.1 hmem]
      rfl
  | loaded name size hd =>
    intro x hx
    rw [List.mem_singleton.1 (Fleet.mem_through hx).2]
    rfl

/-- All calls outside a launch reach the instance that the slot yields. -/
lemma Effect.reaches (h : Effect slot f b b' got tried) : ∀ x ∈ got, f.owner? slot = some x.1 := by
  cases h with
  | missed => simp
  | bound => simp
  | _ => exact fun x hx => (Fleet.mem_through hx).1

namespace Evolves

lemma single (he : Effect slot f b b' got tried) (hf : Fleet.Received f f' got) :
    Evolves slot b f b' f' got tried := by
  simpa using Evolves.refl.tail he hf

lemma received (h : Evolves slot b f b' f' got tried) : Fleet.Received f f' got := by
  induction h with
  | refl => exact .refl f
  | tail _ _ hf ih => exact ih.trans hf

lemma identity (h : Evolves slot b f b' f' got tried) : b'.identity = b.identity := by
  induction h with
  | refl => rfl
  | tail _ he _ ih => exact he.identity.trans ih

lemma linked (h : Evolves slot b f b' f' got tried) (hb : b.Linked slot) : b'.Linked slot := by
  induction h with
  | refl => exact hb
  | tail _ he _ ih => exact he.linked ih

lemma quiet (h : Evolves slot b f b' f' got tried) : ∀ x ∈ got, x.2.isLaunch = false := by
  induction h with
  | refl => simp
  | tail _ he _ ih =>
    intro x hx
    rcases List.mem_append.1 hx with hx | hx
    · exact ih x hx
    · exact he.quiet x hx

lemma reaches (h : Evolves slot b f b' f' got tried) : ∀ x ∈ got, f.owner? slot = some x.1 := by
  induction h with
  | refl => simp
  | tail hev he _ ih =>
    intro x hx
    rcases List.mem_append.1 hx with hx | hx
    · exact ih x hx
    · rw [← hev.received.owner]
      exact he.reaches x hx

lemma trans {b'' : Bridge} {f'' : Fleet} {got' : List (Nat × Call)}
    {tried' : Option (Region × Bool)}
    (h : Evolves slot b f b' f' got tried) (h' : Evolves slot b' f' b'' f'' got' tried') :
    Evolves slot b f b'' f'' (got ++ got') (tried'.or tried) := by
  induction h' with
  | refl => simpa using h
  | tail _ he hf ih =>
    rw [← List.append_assoc, Option.or_assoc]
    exact ih.tail he hf

end Evolves

/-- What a whole operation does: effects alone, or effects and then a launch, if it may make one. An
operation that may launch but does not fails. -/
inductive Worked (slot : Slot) (may : Option (Fleet → Launch → Prop)) (s s' : Scene)
    (tried : Option (Region × Bool)) (fault? : Option Fault) : Prop
  | calm (got : List (Nat × Call))
      (h : Evolves slot s.bridge s.fleet s'.bridge s'.fleet got tried)
      (hn : may = none ∨ ∃ e, fault? = some e ∧ e.notExecuted = true)
  | launched (f : Fleet) (got : List (Nat × Call)) (l : Launch)
      (h : Evolves slot s.bridge s.fleet s'.bridge f got tried) (hm : ∃ p ∈ may, p f l)
      (hl : Launched s'.bridge l f s'.fleet fault?)

variable {may : Option (Fleet → Launch → Prop)} {s s' : Scene}

lemma Evolves.trans_worked {s1 : Scene} {tried' : Option (Region × Bool)}
    (h : Evolves slot s.bridge s.fleet s1.bridge s1.fleet got tried)
    (h' : Worked slot may s1 s' tried' fault?) : Worked slot may s s' (tried'.or tried) fault? := by
  cases h' with
  | calm got' hev hn => exact .calm _ (h.trans hev) hn
  | launched f got' l hev hm hl => exact .launched f _ l (h.trans hev) hm hl

/-- Apart from the result: effects, and the calls of what may be a launch. -/
lemma Worked.split (h : Worked slot may s s' tried fault?) : ∃ f got id launched,
    Evolves slot s.bridge s.fleet s'.bridge f got tried ∧ Launches s'.bridge launched ∧
      Fleet.Received f s'.fleet (launched.map (id, ·)) := by
  cases h with
  | calm got hev _ => exact ⟨s'.fleet, got, 0, [], hev, .none, .refl _⟩
  | launched f got l hev _ hl =>
    obtain ⟨id, launched, hlaunches, hf, -⟩ := hl.launches
    exact ⟨f, got, id, launched, hev, hlaunches, hf⟩

lemma Worked.received (h : Worked slot may s s' tried fault?) :
    ∃ got, Fleet.Received s.fleet s'.fleet got := by
  obtain ⟨f, got, id, launched, hev, -, hf⟩ := h.split
  exact ⟨_, hev.received.trans hf⟩

lemma Worked.identity (h : Worked slot may s s' tried fault?) :
    s'.bridge.identity = s.bridge.identity := by
  obtain ⟨f, got, id, launched, hev, -, -⟩ := h.split
  exact hev.identity

lemma Worked.linked (h : Worked slot may s s' tried fault?) (hb : s.bridge.Linked slot) :
    s'.bridge.Linked slot := by
  obtain ⟨f, got, id, launched, hev, -, -⟩ := h.split
  exact hev.linked hb

/-! ### Linking and connecting -/

lemma ensureTable_ends {sim : Nat} (hr : s.bridge.resolver.Over sim)
    (hp : s.bridge.table = none → s.fleet.Placed sim slot) :
    ensureTable.Ends s fun r s' =>
      s'.fleet = s.fleet ∧ s'.bridge.device = s.bridge.device ∧
      s'.bridge.table = s.bridge.table.or s.offered? ∧ s'.bridge.table = r.toOption ∧
      Effect slot s.fleet s.bridge s'.bridge [] none := by
  rcases ht : s.bridge.table with _ | t
  · rcases hl : (s.bridge.resolver.attempt s.fleet s.bridge.attempts).answers.link.1 with e | t
    · obtain ⟨notices, heq⟩ := ensureTable_of_not_linked ht hl
      refine ends_of_error heq ⟨rfl, rfl, ?_, ht, .missed _⟩
      simp [ht, Scene.offered?, hl, Except.toOption]
    · obtain ⟨notices, heq⟩ := ensureTable_of_linked ht hl
      have hslot : t.Simulated slot := by
        obtain ⟨slot', hs, hsim⟩ := hr.simulated_of_link hl
        rwa [← hp ht slot' hs]
      refine ends_of_ok heq ⟨rfl, rfl, ?_, rfl, .bound _ t ht hslot⟩
      simp [Scene.offered?, hl, Except.toOption]
  · exact ends_of_ok (ensureTable_of_bound ht) ⟨rfl, rfl, by simp [ht], ht, .missed _⟩

lemma createDevice_ends {t : Table EntryPoint} (h : s.bridge.Linked slot)
    (ht : s.bridge.table = some t) (hu : s.bridge.device = .undecided) :
    (createDevice t).Ends s fun r s' =>
      s'.bridge.table = s.bridge.table ∧ (∀ d, r = .ok d → s'.bridge.device = .ready d) ∧
      ∃ got, Effect slot s.fleet s.bridge s'.bridge got none ∧
        Fleet.Received s.fleet s'.fleet got := by
  have hsim := h.table t ht
  have hc := hsim.createContext
  have hrec := Fleet.received_createContext (f := s.fleet) slot
  rw [← hc] at hrec
  rcases hn : (s.fleet.createContext t.createContext).1.isNull
  · have hh : (s.fleet.createContext t.createContext).1 = .encode slot .context := by
      rw [hc] at hn ⊢
      exact Fleet.isNull_createContext slot hn
    rcases hq : t.totalCores with _ | query
    · obtain ⟨notices, heq⟩ := createDevice_of_not_queried hn hq
      refine ends_of_ok heq ⟨rfl, by simp, _, ?_, hrec⟩
      refine .decided t _ [] ht hu (by simp) (fun d hd => ?_) (.inl rfl)
      cases hd
      exact ⟨rfl, hh, rfl⟩
    · obtain ⟨notices, heq⟩ := createDevice_of_queried hn hq
      rw [hsim.totalCores hq] at heq
      have hrec' := Fleet.received_totalCores (f := (s.fleet.createContext t.createContext).2) slot
        (h := (s.fleet.createContext t.createContext).1) (by rw [hh]; simp)
      refine ends_of_ok heq ⟨rfl, by simp, _, ?_, hrec.through_trans hrec'⟩
      refine .decided t _ [.totalCores] ht hu (by simp) (fun d hd => ?_) (.inr rfl)
      cases hd
      exact ⟨rfl, hh, rfl⟩
  · obtain ⟨notices, heq⟩ := createDevice_of_null hn
    refine ends_of_error heq ⟨rfl, by simp, _, ?_, hrec⟩
    exact .decided t _ [] ht hu (by simp) (by simp) (.inl rfl)

/-- Connecting leaves the device as it is or, once it can link, decides about it. -/
lemma connect_ends {sim : Nat} (h : s.bridge.Linked slot) (hr : s.bridge.resolver.Over sim)
    (hp : s.bridge.table = none → s.fleet.Placed sim slot) :
    connect.Ends s fun r s' =>
      s'.bridge.table = s.bridge.table.or s.offered? ∧
      (∀ d, r = .ok d → s'.bridge.device = .ready d) ∧
      ∃ got, Evolves slot s.bridge s.fleet s'.bridge s'.fleet got none := by
  have htable := ensureTable_ends hr hp
  unfold Ends at htable ⊢
  rw [connect_apply]
  rcases he : ensureTable s with ⟨t, s1⟩ | ⟨e, s1⟩ <;> simp only [he] at htable ⊢ <;>
    obtain ⟨hfl, hdev, htab, hres, heff⟩ := htable <;>
    have hev : Evolves slot s.bridge s.fleet s1.bridge s1.fleet [] none :=
      .single heff (by rw [hfl]; exact .refl s.fleet)
  · rcases hd : s1.bridge.device with _ | _ | d
    · have hcreate := createDevice_ends (s := s1) (heff.linked h) hres hd
      unfold Ends at hcreate
      simp only
      rcases hc : createDevice t s1 with ⟨d, s2⟩ | ⟨e, s2⟩ <;> simp only [hc] at hcreate ⊢ <;>
        obtain ⟨htab', hready, got, heff', hrec⟩ := hcreate <;>
        exact ⟨htab'.trans htab, hready, _, hev.tail heff' hrec⟩
    · exact ⟨htab, by simp, _, hev⟩
    · refine ⟨htab, ?_, _, hev⟩
      rintro d' hd'
      cases hd'
      exact hd
  · exact ⟨htab, by simp, _, hev⟩

/-! ### Registering and loading -/

variable {d : Device}

lemma withHeap_of_ready (hd : s.bridge.device = .ready d) (heap : Option Region) :
    s.withHeap heap = { s with bridge := { s.bridge with device := .ready { d with heap } } } := by
  simp [Scene.withHeap, hd]

/-- A region is active exactly after a registration that succeeds. -/
lemma registerOn_ends (h : s.bridge.Linked slot) (hd : s.bridge.device = .ready d)
    (region : Region) :
    (registerOn d region).Ends s fun _ s' =>
      s'.bridge.table = s.bridge.table ∧ s'.bridge.device ≠ .undecided ∧
      ∃ got, Effect slot s.fleet s.bridge s'.bridge got
          (some (region, (registerOn d region).succeeds s)) ∧
        Fleet.Received s.fleet s'.fleet got := by
  have ht := (h.table d.table (h.device d hd).1).registerHeap
  have hrec := Fleet.received_registerHeap (f := s.fleet) slot region.base region.size
  rw [← ht] at hrec
  rcases he : region.isEmpty
  · rcases ha : (s.fleet.registerHeap d.table.registerHeap region.base region.size).1
    · obtain ⟨notices, heq⟩ := registerOn_of_rejected he ha
      rw [withHeap_of_ready hd] at heq
      rw [not_succeeds_of_error heq]
      refine ends_of_error heq ⟨rfl, by simp, _, .registered d region false hd (by simp), ?_⟩
      simpa [he] using hrec
    · obtain ⟨notices, heq⟩ := registerOn_of_accepted he ha
      rw [withHeap_of_ready hd] at heq
      rw [succeeds_of_ok heq]
      refine ends_of_ok heq ⟨rfl, by simp, _, .registered d region true hd fun _ => he, ?_⟩
      simpa [he] using hrec
  · have heq := registerOn_of_isEmpty (d := d) (s := s) he
    rw [withHeap_of_ready hd] at heq
    rw [not_succeeds_of_error heq]
    refine ends_of_error heq ⟨rfl, by simp, _, .registered d region false hd (by simp), ?_⟩
    rw [he, if_pos rfl, Fleet.through_nil]
    exact .refl s.fleet

/-- A kernel that was loaded is the one of its name behind its handle. -/
lemma loadOn_ends (ht : d.table.Simulated slot) (hh : d.handle = .encode slot .context)
    (hd : s.bridge.device ≠ .undecided) (code : Code) :
    (loadOn d code).Ends s fun r s' =>
      s'.bridge = s.bridge ∧
      (∀ k, r = .ok k → k.owner = s.bridge.id ∧ k.name = code.name ∧
        ∀ id, k.On slot id s'.fleet) ∧
      (∀ e, r = .error e → e.notExecuted = true) ∧
      ∃ got, Effect slot s.fleet s.bridge s'.bridge got none ∧
        Fleet.Received s.fleet s'.fleet got := by
  have hcontext : d.handle.contextSlot? = some slot := by rw [hh]; simp
  have hrec := Fleet.received_createKernel (f := s.fleet) slot hcontext code.terminated
    (Text.utf8 code.name ++ [0])
  rw [← ht.createKernel] at hrec
  rcases hn : (loading d code s.fleet).1.isNull
  · obtain ⟨notices, heq⟩ := loadOn_of_loaded hn
    refine ends_of_ok heq ⟨rfl, fun k hk => ?_, by simp, _, .loaded _ _ hd, hrec⟩
    obtain rfl := Except.ok.inj hk
    refine ⟨rfl, rfl, fun id => ?_⟩
    unfold loading at hn ⊢
    rw [ht.createKernel] at hn ⊢
    obtain ⟨id', i, ho, hi, hb⟩ := Fleet.behind?_createKernel hcontext hn
    refine ⟨i, hi, fun ho' => ?_⟩
    obtain ⟨slot', i', e, hi', -, he, hk⟩ := Fleet.behind?_eq_some_iff.1 hb
    obtain ⟨rfl, rfl⟩ := Prod.mk.inj (Option.some.inj (hi.symm.trans hi'))
    rw [ht.createKernel] at hrec
    rw [hrec.owner, ho] at ho'
    obtain rfl := Option.some.inj ho'
    refine ⟨e, he, ?_⟩
    have hname := upToZero_append_zero (Text.zero_notMem_utf8 code.name_noZero)
    simp [Simulator.Instance.names, hk, hname]
  · obtain ⟨notices, heq⟩ := loadOn_of_null hn
    exact ends_of_error heq ⟨rfl, by simp, by simp [Fault.notExecuted], _, .loaded _ _ hd, hrec⟩

/-! ### Launching -/

variable {k : Kernel}

/-- The pushes that are made are those of the first arguments; all succeed if the last does. -/
lemma pushAll_ends (ht : d.table.Simulated slot) {id : Nat} {name : String} {queue : Array Pushed}
    (hb : s.fleet.behind? k.handle = some (id, ⟨name, queue⟩)) (i : Nat) (args : List Value) :
    (pushAll d k i args).Ends s fun r s' =>
      s'.bridge = s.bridge ∧ ∃ done rest, done ++ rest = args.map Value.pushed ∧
        Fleet.Received s.fleet s'.fleet (done.map fun arg => (id, .push name arg)) ∧
        (r = .ok () → rest = [] ∧
          s'.fleet.behind? k.handle = some (id, ⟨name, queue ++ done.toArray⟩)) ∧
        ∀ e, r = .error e → ∃ index kind, e = .argumentPush index kind := by
  induction args generalizing s queue i with
  | nil =>
    have heq : pushAll d k i [] s = .ok () s := rfl
    exact ends_of_ok heq ⟨rfl, [], [], rfl, .refl s.fleet, fun _ => ⟨rfl, by simpa using hb⟩,
      by simp⟩
  | cons v args ih =>
    change (pushOne d k i v >>= fun _ => pushAll d k (i + 1) args).Ends s _
    obtain ⟨hrec, hnext⟩ := Fleet.received_push hb v.pushed
    rw [← ht.push] at hrec hnext
    rcases hp : (s.fleet.push (d.table.push v.pushed.kind) k.handle v.pushed).1
    · obtain ⟨notices, heq⟩ := pushOne_of_failed (i := i) hp
      exact Ends.bind_of_error heq ⟨rfl, [v.pushed], args.map Value.pushed, rfl, hrec, by simp,
        fun e he => ⟨i, v.kind, (Except.error.inj he).symm⟩⟩
    · have heq := pushOne_of_pushed (i := i) hp
      refine Ends.bind_of_ok heq ?_
      set s1 : Scene :=
        { s with fleet := (s.fleet.push (d.table.push v.pushed.kind) k.handle v.pushed).2 }
      refine (ih (s := s1) (hnext hp) (i + 1)).mono fun r s' hr => ?_
      obtain ⟨hbr, done, rest, hsplit, hrec', hok, herr⟩ := hr
      refine ⟨hbr, v.pushed :: done, rest, by simp [hsplit], hrec.trans hrec', fun hr => ?_, herr⟩
      obtain ⟨hrest, hb'⟩ := hok hr
      exact ⟨hrest, by rw [hb']; simp⟩

/-- A launch that calls anything is over a registered heap that its arguments fit, and it ends as
the runtime answers. -/
lemma launchOn_ends (ht : d.table.Simulated slot) (dim : Int32) (args : List Value)
    (signature : Signature) :
    (launchOn d k dim args signature).Ends s fun r s' =>
      s'.bridge = s.bridge ∧ Launched s.bridge ⟨k, dim, args⟩ s.fleet s'.fleet (faultOf r) := by
  rcases hc : check s k dim args signature with e | range
  · exact ends_of_error (launchOn_of_unfit hc)
      ⟨rfl, .refused e rfl (isRefusal_of_check hc).2 rfl⟩
  obtain ⟨hdim, region, hheap, hvalid⟩ := of_check_eq_ok hc
  have hadmits : s.bridge.Admits args := ⟨region, signature, hheap, hvalid⟩
  rcases hb : s.fleet.behind? k.handle with _ | ⟨id, loaded⟩
  · have hcl := Fleet.clearArgs_of_behind?_eq_none hb
    rw [← ht.clearArgs] at hcl
    exact ends_of_error (launchOn_of_not_cleared hc (by rw [hcl]))
      ⟨rfl, .refused _ rfl rfl (by rw [hcl])⟩
  obtain ⟨hrec, hcleared⟩ := Fleet.received_clearArgs hb
  rw [← ht.clearArgs] at hrec hcleared
  rcases hcl : (s.fleet.clearArgs d.table.clearArgs k.handle).1
  · exact ends_of_error (launchOn_of_not_cleared hc hcl)
      ⟨rfl, .broken _ rfl rfl hadmits id loaded hb [] _ rfl hrec⟩
  refine Ends.of_eq (launchOn_of_cleared hc hcl) (Ends.bind ?_)
  -- the scene is given, so that it is not searched for among the fleets
  set s0 : Scene := { s with fleet := (s.fleet.clearArgs d.table.clearArgs k.handle).2 }
  refine (pushAll_ends (s := s0) ht (hcleared hcl) 0 args).mono fun r s1 hr => ?_
  obtain ⟨hbr, done, rest, hsplit, hrec', hok⟩ := hr
  have hpushed : Fleet.Received s.fleet s1.fleet
      ((.clearArgs loaded.name :: done.map (.push loaded.name)).map (id, ·)) := by
    simpa [Function.comp_def] using hrec.trans hrec'
  rcases r with e | u
  · obtain ⟨index, kind, rfl⟩ := hok.2 e rfl
    exact ⟨hbr, .broken _ rfl rfl hadmits id loaded hb done rest hsplit hpushed⟩
  · obtain ⟨rfl, hb1⟩ := hok.1 rfl
    rw [List.append_nil] at hsplit
    have hexec := Fleet.received_execute hb1 range.dim
    rw [← ht.execute] at hexec
    rcases hx : (s1.fleet.execute d.table.execute k.handle range.dim).1
    · obtain ⟨notices, heq⟩ := execute_of_failed hx
      refine ends_of_error heq ⟨hbr, .executed hadmits id loaded hb s1.fleet ?_ ?_ ?_ ?_⟩
      · rwa [← hsplit]
      · rw [← ht.execute, ← hdim]
        exact Prod.ext hx rfl
      · rw [← hsplit, ← hdim]
        simpa using hexec
      · simp
    · obtain ⟨notices, heq⟩ := execute_of_ran hx
      refine ends_of_ok heq ⟨hbr, .executed hadmits id loaded hb s1.fleet ?_ ?_ ?_ ?_⟩
      · rwa [← hsplit]
      · rw [← ht.execute, ← hdim]
        exact Prod.ext hx rfl
      · rw [← hsplit, ← hdim]
        simpa using hexec
      · simp

end Bridge

end Offload
