import Offload.Proofs.Bridge.Attempts
import Offload.Proofs.Simulator.Exports
import Offload.Settings.Sources

/-!
The number of cores that a bridge over a simulated device tells, whatever becomes of the device's
options from one operation to the next.

Two rounds of a run decide it. Whether the query for the number is there is settled when the table
is bound, by what the device exports then; the query is put once, right after the context is
created, and is answered by the options of then.
-/

namespace Offload

open Simulator

/-! ### What settings say -/

/-- The number of cores to tell: what the query was answered, unless that is none. -/
def Settings.cores (s : Settings) (isQueried : Bool) (reported : UInt32) : UInt32 :=
  if isQueried ∧ 0 < reported then reported else s.fallbackCores

lemma exists_of_bind_eq_ok {ε α β : Type} {a : Except ε α} {f : α → Except ε β} {b : β}
    (h : (a >>= f) = .ok b) : ∃ x, a = .ok x ∧ f x = .ok b := by
  cases a with
  | ok x => exact ⟨x, rfl, h⟩
  | error e => cases h

/-- Settings that the environment gives have been checked. -/
lemma Settings.fallbackCores_of_ofEnvironment {vars : Settings.Variables} {files : Files}
    {s : Settings} (h : Settings.ofEnvironment vars files = .ok s) : s.fallbackCores ≠ 0 := by
  have hchecked : ∃ s', Settings.checked s' = .ok s := by
    unfold Settings.ofEnvironment at h
    rcases hv : vars Settings.configVariable with _ | path <;> simp only [hv] at h <;>
      obtain ⟨base, -, h⟩ := exists_of_bind_eq_ok h <;>
      obtain ⟨s', -, h⟩ := exists_of_bind_eq_ok h <;>
      exact ⟨s', h⟩
  obtain ⟨s', h⟩ := hchecked
  unfold Settings.checked at h
  split at h
  · cases h
  · rename_i hne
    rwa [← Except.ok.inj h]

lemma Settings.one_le_cores {s : Settings} (h : s.fallbackCores ≠ 0) (isQueried : Bool)
    (reported : UInt32) : 1 ≤ s.cores isQueried reported := by
  have hone : ∀ n : UInt32, n ≠ 0 → 1 ≤ n := by
    intro n hn
    rw [UInt32.le_iff_toNat_le]
    have hnat : n.toNat ≠ 0 := fun h0 => hn (UInt32.toNat_inj.1 h0)
    change 1 ≤ n.toNat
    omega
  unfold cores
  split
  · rename_i hpos
    exact hone _ (UInt32.pos_iff_ne_zero.1 hpos.2)
  · exact hone _ h

/-! ### Rounds that decide -/

namespace Simulator

/-- Whether a call belongs to the creation of a context. -/
def Call.isSetup : Call → Bool
  | .createContext | .totalCores => true
  | _ => false

/-- The calls that create a context; a context that is there is queried, if there is a query. -/
def Options.setup (o : Options) (isQueried : Bool) : List Call :=
  .createContext :: if isQueried && !o.failContext then [.totalCores] else []

end Simulator

/-- Whether an operation creates the context, if that was not tried before. -/
def Operation.connects : Operation → Bool
  | .connect => true
  | .offload request _ => 0 < request.dim
  | _ => false

namespace Round

variable (x : Round) (sim : Nat)

/-- The options of an instance during a round. -/
def options : Options := x.fleet.optionsOf sim

/-- Whether a round binds a table to an instance, if there was none before. -/
def binds : Bool := x.operation.links && (x.options sim).isWhole

/-- The rounds of a run that bind the table and create the context. -/
def decisive : List Round → Option (Round × Round)
  | [] => none
  | x :: rest =>
    if x.binds sim then ((x :: rest).find? (·.operation.connects)).map (x, ·) else decisive rest

end Round

namespace Bridge

open Offload.Action

/-- The number of cores that the bridge tells, once it has its device. -/
def cores? (b : Bridge) : Option UInt32 := b.device?.map Device.cores

/-- The calls of a round that reach an instance. -/
def callsIn (b : Bridge) (id : Nat) (x : Round) : List Call :=
  ((b.round x).2.fleet.journal id).toList.drop (x.fleet.journal id).size

/-- The calls of a run that reach an instance. -/
def made (b : Bridge) (id : Nat) : List Round → List Call
  | [] => []
  | x :: rest => b.callsIn id x ++ (b.round x).2.bridge.made id rest

/-- Whether connecting has succeeded in a run. -/
def hasConnected (b : Bridge) : List Round → Bool
  | [] => false
  | x :: rest =>
    match (b.round x).1 with
    | .ok (.device _) => true
    | _ => (b.round x).2.bridge.hasConnected rest

variable {slot : Slot} {sim : Nat} {b b' : Bridge} {f f' : Fleet} {s s' s₁ : Scene}
  {got : List (Nat × Call)} {tried : Option (Region × Bool)} {t : Table EntryPoint}
  {rounds : List Round} {x : Round}

lemma callsIn_eq (h : Fleet.Received x.fleet (b.round x).2.fleet got) (id : Nat) :
    b.callsIn id x = callsTo id got := by
  rw [callsIn, h.journal, ← Array.length_toList, List.drop_left]

/-! ### After the device is decided -/

lemma Settled.cores?_eq (h : b.Settled b') (hd : b.isDecided = true) : b'.cores? = b.cores? := by
  rcases hdev : b.device with _ | _ | d
  · simp [isDecided, hdev] at hd
  · simp [cores?, device?, hdev, h.device_of_unavailable hdev]
  · obtain ⟨heap, hdev'⟩ := h.device_of_ready hdev
    simp [cores?, device?, hdev, hdev']

lemma Effect.not_isSetup (h : Effect slot f b b' got tried) (hd : b.isDecided = true) :
    ∀ x ∈ got, x.2.isSetup = false := by
  cases h with
  | missed => simp
  | bound => simp
  | decided _ _ _ _ hu => exact absurd hu (isDecided_iff.1 hd)
  | registered d region accepted =>
    intro x hx
    have hmem := (Fleet.mem_through hx).2
    split at hmem
    · simp at hmem
    · rw [List.mem_singleton.1 hmem]
      rfl
  | loaded name size =>
    intro x hx
    rw [List.mem_singleton.1 (Fleet.mem_through hx).2]
    rfl

lemma Evolves.not_isSetup (h : Evolves slot b f b' f' got tried) (hd : b.isDecided = true) :
    ∀ x ∈ got, x.2.isSetup = false := by
  induction h with
  | refl => simp
  | tail hev he _ ih =>
    intro x hx
    rcases List.mem_append.1 hx with hx | hx
    · exact ih x hx
    · exact he.not_isSetup (hev.settled.decided hd) x hx

/-- No context is created or queried by a bridge that is decided about its device. -/
lemma Worked.exists_received {may : Option (Fleet → Launch → Prop)} {fault? : Option Fault}
    (h : Worked slot may s s' tried fault?) (hd : s.bridge.isDecided = true) :
    ∃ got, Fleet.Received s.fleet s'.fleet got ∧ ∀ x ∈ got, x.2.isSetup = false := by
  obtain ⟨f, got, id, launched, hev, hl, hf⟩ := h.split
  refine ⟨_, hev.received.trans hf, fun x hx => ?_⟩
  rcases List.mem_append.1 hx with hx | hx
  · exact hev.not_isSetup hd x hx
  · obtain ⟨c, hc, rfl⟩ := List.mem_map.1 hx
    have hlaunch := hl.isLaunch c hc
    cases c <;> simp_all [Call.isLaunch, Call.isSetup]

lemma Over.callsIn_not_isSetup (h : b.Over sim) (hd : b.isDecided = true) (x : Round) (id : Nat) :
    ∀ c ∈ b.callsIn id x, c.isSetup = false := by
  obtain ⟨slot, hl, hp⟩ := h.exists_placed x.fleet
  have hdoes := x.operation.outcome_does (s := .of b x.fleet) hl
    (h.1 ▸ Resolver.over_simulated sim) hp
  obtain ⟨got, hrec, hnot⟩ := hdoes.worked.exists_received hd
  intro c hc
  rw [callsIn_eq hrec, mem_callsTo] at hc
  exact hnot _ hc

lemma Over.made_not_isSetup (h : b.Over sim) (hd : b.isDecided = true) (rounds : List Round)
    (id : Nat) : ∀ c ∈ b.made id rounds, c.isSetup = false := by
  induction rounds generalizing b with
  | nil => simp [made]
  | cons x rest ih =>
    obtain ⟨hover, hset, -, -⟩ := h.round x
    intro c hc
    rcases List.mem_append.1 hc with hc | hc
    · exact h.callsIn_not_isSetup hd x id c hc
    · exact ih hover (hset.decided hd) c hc

/-! ### Coming to a table -/

/-- Linking goes through in a scene: there is this table then, and nothing else has changed about
the bridge and the devices. -/
structure Links (s : Scene) (t : Table EntryPoint) (s₁ : Scene) : Prop where
  eq : ensureTable s = .ok t s₁
  table : s₁.bridge.table = some t
  device : s₁.bridge.device = s.bridge.device
  settings : s₁.bridge.settings = s.bridge.settings
  fleet : s₁.fleet = s.fleet

lemma links_of_bound (ht : s.bridge.table = some t) : Links s t s :=
  ⟨ensureTable_of_bound ht, ht, rfl, rfl, rfl⟩

/-- A device that exports all that is required is linked, and the table has the query if it exports
that too. -/
lemma links_of_whole (hr : s.bridge.resolver = .simulated sim) (hk : s.fleet.Keeps sim slot)
    (ht : s.bridge.table = none) (hw : (s.fleet.optionsOf sim).isWhole = true) :
    ∃ t s₁, Links s t s₁ ∧ t.Simulated slot ∧
      t.totalCores.isSome = (s.fleet.optionsOf sim).exports .totalCores := by
  have hexported : ∀ x ∈ Symbol.required, s.fleet.exported? sim x.name ≠ none := by
    intro x hx
    have hx' : (s.fleet.optionsOf sim).exports x = true := List.all_eq_true.1 hw x hx
    simp [hk.exported?_eq, hx']
  obtain ⟨t, hlink, hentry⟩ := Resolver.link_of_exported s.bridge.attempts hexported
  have hok : (attempted s).1 = .ok t := by rw [attempted, hr, hlink]
  obtain ⟨notices, heq⟩ := ensureTable_of_linked ht hok
  refine ⟨t, _, ⟨heq, rfl, rfl, rfl, rfl⟩, fun x p hp => ?_, ?_⟩
  · rw [hentry, hk.exported?_eq] at hp
    split at hp
    · exact (Option.some.inj hp).symm
    · cases hp
  · have hquery : t.totalCores = _ := hentry .totalCores
    rw [hquery, hk.exported?_eq]
    split <;> simp_all

lemma attempt_of_not_whole (hr : b.resolver = .simulated sim) (hk : f.Keeps sim slot)
    (hw : (f.optionsOf sim).isWhole = false) : ∃ e, (b.attempt f).1 = .error e := by
  obtain ⟨x, hx, hnot⟩ := List.all_eq_false.1 hw
  rw [attempt, hr]
  exact Resolver.link_of_not_exported b.attempts hx (by simp [hk.exported?_eq, hnot])

/-! ### Creating the context -/

lemma coreCount_some (n fallback : UInt32) :
    (coreCount (some n) fallback).1 = if 0 < n then n else fallback := by
  by_cases hn : n = 0
  · simp [coreCount, hn]
  · simp [coreCount, hn, UInt32.pos_iff_ne_zero]

/-- The device and the calls are as the options say. -/
lemma createDevice_cores (ht : t.Simulated slot) (hk : s.fleet.Keeps sim slot) :
    (createDevice t).Ends s fun _ s' =>
      let o := s.fleet.optionsOf sim
      s'.bridge.isDecided = true ∧
      s'.bridge.cores? = (if o.failContext then none
        else some (s.bridge.settings.cores t.totalCores.isSome o.reported)) ∧
      Fleet.Received s.fleet s'.fleet ((o.setup t.totalCores.isSome).map (sim, ·)) := by
  have hrec := Fleet.received_createContext (f := s.fleet) slot
  have hnull := hk.isNull_createContext
  rw [← ht.createContext] at hrec hnull
  rw [hk.through_eq] at hrec
  rcases hf : (s.fleet.optionsOf sim).failContext <;> rw [hf] at hnull
  · rcases hq : t.totalCores with _ | query
    · obtain ⟨notices, heq⟩ := createDevice_of_not_queried hnull hq
      refine ends_of_ok heq ⟨rfl, ?_, ?_⟩
      · simp [cores?, device?, Settings.cores, hf]
      · simpa [Options.setup, hf] using hrec
    · obtain rfl := ht.totalCores hq
      obtain ⟨notices, heq⟩ := createDevice_of_queried hnull hq
      have hkept := hk.of_kept hrec.toKept
      have hslot : (s.fleet.createContext t.createContext).1.contextSlot? = some slot := by
        rw [ht.createContext] at hnull ⊢
        rw [Fleet.isNull_createContext slot hnull, Handle.contextSlot?_encode]
      have hreported := hkept.reported_eq hslot
      have hoptions := hk.optionsOf_createContext
      rw [← ht.createContext] at hoptions
      have hrec' := Fleet.received_totalCores
        (f := (s.fleet.createContext t.createContext).2) slot hslot
      rw [hkept.through_eq] at hrec'
      refine ends_of_ok heq ⟨rfl, ?_, ?_⟩
      · simp [cores?, device?, Settings.cores, hf, hreported, hoptions, coreCount_some]
      · simpa [Options.setup, hf] using hrec.trans hrec'
  · obtain ⟨notices, heq⟩ := createDevice_of_null hnull
    refine ends_of_error heq ⟨rfl, ?_, ?_⟩
    · simp [cores?, device?, hf]
    · simpa [Options.setup, hf] using hrec

end Bridge

/-! ### One operation -/

namespace Operation

open Bridge Offload.Action

variable {o : Operation} {s s₁ : Scene} {slot : Slot} {sim : Nat} {t : Table EntryPoint}

/-- What an operation does after it has connected is done with a device that was had. -/
lemma exists_rest_of_connects (h : o.connects = true) :
    ∃ rest : Device → Action Answer, o.action = Bridge.connect >>= rest ∧
      ∀ (slot : Slot) (s : Scene) (d : Device), s.bridge.Linked slot → s.bridge.device = .ready d →
        (rest d).Ends s fun r s' => ∃ may tried, Worked slot may s s' tried (faultOf r) := by
  cases o with
  | connect =>
    refine ⟨fun d => pure (.device d), map_eq_pure_bind _ _, fun slot s d _ _ => ?_⟩
    exact ends_of_ok (pure_apply (Answer.device d) s) ⟨none, none, .calm [] .refl (.inl rfl)⟩
  | offload request heap =>
    have hpos : 0 < request.dim := by simpa [connects] using h
    refine ⟨fun d => (fun _ => .done) <$> provide d request heap, ?_, fun slot s d hl hd => ?_⟩
    · change (fun _ => Answer.done) <$> Bridge.offload request heap = _
      rw [offload_eq_provide hpos heap, map_bind]
    · refine Ends.map (P := fun fault? s' => ∃ may tried, Worked slot may s s' tried fault?) _
        ((provide_ends hl hd request heap).mono fun r s' hr => ?_)
      exact ⟨_, _, hr.2⟩
  | _ => simp [connects] at h

/-- An operation that connects while the device is undecided creates the context, and the device
stays as it was decided then. -/
lemma ends_of_connects (hc : o.connects = true) (hlinks : Links s t s₁)
    (ht : t.Simulated slot) (hu : s.bridge.device = .undecided) (hk : s.fleet.Keeps sim slot) :
    o.action.Ends s fun _ s' =>
      let options := s.fleet.optionsOf sim
      s'.bridge.isDecided = true ∧
      s'.bridge.cores? = (if options.failContext then none
        else some (s.bridge.settings.cores t.totalCores.isSome options.reported)) ∧
      ∃ rest, (∀ x ∈ rest, x.2.isSetup = false) ∧ Fleet.Received s.fleet s'.fleet
        ((options.setup t.totalCores.isSome).map (sim, ·) ++ rest) := by
  have hu₁ : s₁.bridge.device = .undecided := hlinks.device.trans hu
  have hl : s₁.bridge.Linked slot := by
    refine ⟨fun t' ht' => ?_, fun hd => absurd hu₁ hd, fun d hd => by simp [hu₁] at hd⟩
    rw [hlinks.table] at ht'
    rwa [← Option.some.inj ht']
  have hconnect : Bridge.connect s = createDevice t s₁ := by
    rw [connect_apply, hlinks.eq]
    simp only [hu₁]
  obtain ⟨rest, heq, hrest⟩ := exists_rest_of_connects hc
  rw [← hlinks.fleet] at hk ⊢
  rw [← hlinks.settings, heq]
  refine Ends.bind (Ends.of_eq hconnect (((createDevice_ends hl hlinks.table hu₁).and
    (createDevice_cores ht hk)).mono fun r s₂ hr => ?_))
  obtain ⟨⟨-, hready, got, heff, -⟩, hdec, hcores, hrec⟩ := hr
  cases r with
  | error e => exact ⟨hdec, hcores, [], by simp, by simpa using hrec⟩
  | ok d =>
    refine (hrest slot s₂ d (heff.linked hl) (hready d rfl)).mono fun r s₃ hr => ?_
    obtain ⟨may, tried, hw⟩ := hr
    obtain ⟨rest, hrec', hnot⟩ := hw.exists_received hdec
    exact ⟨hw.settled.decided hdec, (hw.settled.cores?_eq hdec).trans hcores, rest, hnot,
      hrec.trans hrec'⟩

/-- Until the device is decided, an operation that does not link does nothing. -/
lemma outcome_of_not_links (hu : s.bridge.device = .undecided) (h : o.links = false) :
    (o.outcome s).2 = s := by
  cases o with
  | link => simp [links] at h
  | connect => simp [links] at h
  | offload request heap =>
    have hneg : ¬ 0 < request.dim := by simpa [links] using h
    have hoff : Bridge.offload request heap s = .error (.invalidRange request.dim) s :=
      offload_of_not_range (Range.of_not_pos hneg)
    have haction : (Operation.offload request heap).action s =
        .error (.invalidRange request.dim) s := by
      change ((fun _ => Answer.done) <$> Bridge.offload request heap) s = _
      rw [map_apply, hoff]
    rw [outcome_of_error haction]
  | _ => rw [outcome_of_undecided rfl hu]

/-- Linking alone leaves the scene that it comes to. -/
lemma outcome_link (hlinks : Links s t s₁) : (Operation.link.outcome s).2 = s₁ := by
  have haction : Operation.link.action s = .ok .done s₁ := by
    change ((fun _ => Answer.done) <$> (ensureTable >>= fun _ => pure ())) s = _
    rw [map_apply, bind_apply, hlinks.eq]
    rfl
  rw [outcome, haction]

lemma eq_link_of_links (h : o.links = true) (hc : o.connects = false) : o = .link := by
  cases o <;> simp_all [links, connects]

end Operation

/-! ### All rounds -/

namespace Bridge

variable {slot : Slot} {sim : Nat} {b : Bridge} {t : Table EntryPoint} {rounds : List Round}
  {x : Round} {s₁ : Scene}

/-- What a run comes to that creates the context over these options, with a query in the table or
not: the bridge after it, and the calls that reach each instance. -/
structure Decides (sim : Nat) (isQueried : Bool) (o : Options) (settings : Settings)
    (b : Bridge) (made : Nat → List Call) : Prop where
  isDecided : b.isDecided = true
  cores? : b.cores? = if o.failContext then none else some (settings.cores isQueried o.reported)
  calls : ∃ rest, (∀ c ∈ rest, c.isSetup = false) ∧ made sim = o.setup isQueried ++ rest
  elsewhere : ∀ id, id ≠ sim → ∀ c ∈ made id, c.isSetup = false

/-- The rounds after the one that connects add nothing. -/
lemma decides_of_connects (h : b.Over sim) (hu : b.device = .undecided)
    (hk : x.fleet.Keeps sim slot) (hlinks : Links (.of b x.fleet) t s₁) (ht : t.Simulated slot)
    (hc : x.operation.connects = true) (rest : List Round) :
    Decides sim t.totalCores.isSome (x.options sim) b.settings (b.after (x :: rest))
      fun id => b.made id (x :: rest) := by
  obtain ⟨hdec, hcores, more, hmore, hrec⟩ :=
    Operation.outcome_of_ends (Operation.ends_of_connects hc hlinks ht hu hk)
  obtain ⟨hover, -⟩ := h.round x
  obtain ⟨-, hset⟩ := hover.after rest
  have hlater := hover.made_not_isSetup hdec rest
  have hmade : ∀ id, b.made id (x :: rest) = callsTo id
      (((x.options sim).setup t.totalCores.isSome).map (sim, ·)) ++
        (callsTo id more ++ (b.round x).2.bridge.made id rest) := by
    intro id
    rw [made, callsIn_eq hrec, callsTo_append, List.append_assoc]
    rfl
  have hrest : ∀ id, ∀ c ∈ callsTo id more ++ (b.round x).2.bridge.made id rest,
      c.isSetup = false := by
    intro id c hc
    rcases List.mem_append.1 hc with hc | hc
    · exact hmore _ (mem_callsTo.1 hc)
    · exact hlater id c hc
  refine ⟨hset.decided hdec, (hset.cores?_eq hdec).trans hcores, ⟨_, hrest sim, ?_⟩,
    fun id hid => ?_⟩
  · rw [hmade, callsTo_map_self]
  · rw [hmade, callsTo_map_of_ne (Ne.symm hid), List.nil_append]
    exact hrest id

/-- A round that leaves the fleet as it was reaches no instance. -/
lemma made_cons_of_still (h : (b.round x).2.fleet = x.fleet) (rest : List Round) (id : Nat) :
    b.made id (x :: rest) = (b.round x).2.bridge.made id rest := by
  rw [made, callsIn, h, ← Array.length_toList, List.drop_length, List.nil_append]

/-- **With a table**, a run comes to the first operation that connects, and before it does
nothing. -/
lemma run_of_bound (h : b.Over sim) (ht : b.table = some t) (hsim : t.Simulated slot)
    (hu : b.device = .undecided) (hkeeps : ∀ x ∈ rounds, x.fleet.Keeps sim slot) :
    match rounds.find? (·.operation.connects) with
    | none => (b.after rounds).device = .undecided ∧ ∀ id, b.made id rounds = []
    | some y => Decides sim t.totalCores.isSome (y.options sim) b.settings (b.after rounds)
        fun id => b.made id rounds := by
  induction rounds with
  | nil => exact ⟨hu, fun _ => rfl⟩
  | cons x rest ih =>
    have hlinks : Links (.of b x.fleet) t (.of b x.fleet) := links_of_bound ht
    rcases hc : x.operation.connects
    · have hstill : (b.round x).2 = .of b x.fleet := by
        rcases hl : x.operation.links
        · exact Operation.outcome_of_not_links hu hl
        · rw [round, Operation.eq_link_of_links hl hc]
          exact Operation.outcome_link hlinks
      have hmade := made_cons_of_still (b := b) (x := x) (by rw [hstill]; rfl) rest
      have hrest := ih fun y hy => hkeeps y (List.mem_cons_of_mem x hy)
      simp only [List.find?_cons, hc, after_cons, hmade, hstill]
      exact hrest
    · simp only [List.find?_cons, hc]
      exact decides_of_connects h hu (hkeeps x (by simp)) hlinks hsim hc rest

/-- A round that cannot bind a table leaves the bridge without one, and reaches no instance. -/
lemma round_of_not_binds (h : b.Over sim) (ht : b.table = none) (hu : b.device = .undecided)
    (hk : x.fleet.Keeps sim slot) (hx : x.binds sim = false) :
    (b.round x).2.fleet = x.fleet ∧ (b.round x).2.bridge.table = none ∧
      (b.round x).2.bridge.device = .undecided ∧
      (b.round x).2.bridge.settings = b.settings := by
  rcases hl : x.operation.links
  · have hstill : (b.round x).2 = .of b x.fleet := Operation.outcome_of_not_links hu hl
    rw [hstill]
    exact ⟨rfl, ht, hu, rfl⟩
  · have hw : (x.options sim).isWhole = false := by simpa [Round.binds, hl] using hx
    obtain ⟨e, he⟩ := attempt_of_not_whole h.1 hk hw
    obtain ⟨-, hbridge, hfleet, -⟩ := round_of_failed ht hl he
    rw [hbridge]
    exact ⟨hfleet, ht, hu, rfl⟩

/-- **Without a table**, a run comes to the first round that binds one, and before it does
nothing. -/
lemma run_of_unbound (h : b.Over sim) (ht : b.table = none) (hu : b.device = .undecided)
    (hkeeps : ∀ x ∈ rounds, x.fleet.Keeps sim slot) :
    match Round.decisive sim rounds with
    | none => (b.after rounds).device = .undecided ∧ ∀ id, b.made id rounds = []
    | some (x, y) => Decides sim ((x.options sim).exports .totalCores) (y.options sim) b.settings
        (b.after rounds) fun id => b.made id rounds := by
  induction rounds generalizing b with
  | nil => exact ⟨hu, fun _ => rfl⟩
  | cons x rest ih =>
    have hk := hkeeps x (by simp)
    have hkeeps' := fun y hy => hkeeps y (List.mem_cons_of_mem x hy)
    rcases hx : x.binds sim
    · obtain ⟨hfleet, ht', hu', hsettings⟩ := round_of_not_binds h ht hu hk hx
      have hmade := made_cons_of_still hfleet rest
      have hrest := ih (h.round x).1 ht' hu' hkeeps'
      rw [hsettings] at hrest
      simp only [Round.decisive, hx, after_cons, hmade, Bool.false_eq_true, if_false]
      exact hrest
    · obtain ⟨hl, hw⟩ := Bool.and_eq_true_iff.1 hx
      obtain ⟨t, s₁, hlinks, hsim, hquery⟩ :=
        links_of_whole (s := .of b x.fleet) h.1 hk ht hw
      rw [Round.decisive, hx, if_pos rfl, List.find?_cons]
      have hquery' : (x.options sim).exports .totalCores = t.totalCores.isSome := hquery.symm
      -- the round that binds creates the context too, unless it only links
      rcases hc : x.operation.connects
      · have hround : (b.round x).2 = s₁ := by
          rw [round, Operation.eq_link_of_links hl hc]
          exact Operation.outcome_link hlinks
        have hmade := made_cons_of_still (b := b) (x := x)
          (by rw [hround, hlinks.fleet]; rfl) rest
        have hrest := run_of_bound (h.round x).1 (by rw [hround, hlinks.table]) hsim
          (by rw [hround, hlinks.device]; exact hu) hkeeps'
        have hsettings : (b.round x).2.bridge.settings = b.settings := by
          rw [hround, hlinks.settings]
          rfl
        rw [hsettings] at hrest
        simp only [after_cons, hmade]
        rcases hy : rest.find? (·.operation.connects) with _ | y
        · simpa [hy] using hrest
        · simpa [hy, hquery'] using hrest
      · simp only [Option.map_some, hquery']
        exact decides_of_connects h hu hk hlinks hsim hc rest

/-! ### What is told -/

lemma round_totalCores {c : UInt32} (h : b.cores? = some c) (fleet : Fleet) :
    (b.round ⟨fleet, .totalCores⟩).1 = .ok (.cores c) := by
  rcases hd : b.device with _ | _ | d
  · simp [cores?, device?, hd] at h
  · simp [cores?, device?, hd] at h
  · have hcores : d.cores = c := by simpa [cores?, device?, hd] using h
    have haction : Operation.totalCores.action (.of b fleet) =
        .ok (.cores c) (.of b fleet) := by
      change (Answer.cores <$> Bridge.totalCores) (.of b fleet) = _
      rw [Action.map_apply, Bridge.totalCores, Action.bind_apply, requireDevice_apply]
      simp only [Scene.of, hd, Action.pure_apply, hcores]
    rw [round, Operation.outcome, haction]

/-- Only connecting answers with the device, and then the bridge has it. -/
lemma Over.ready_of_answer (h : b.Over sim) {d : Device} (hx : (b.round x).1 = .ok (.device d)) :
    (b.round x).2.bridge.device = .ready d := by
  obtain ⟨slot, hl, hp⟩ := h.exists_placed x.fleet
  rw [Bridge.round] at hx ⊢
  rcases ho : x.operation with _ | _ | _ | region | code | ⟨k, dim, args, signature⟩ | ⟨r, heap⟩
  case connect =>
    have hready := Action.ends_iff.1 (connect_ends (s := .of b x.fleet) hl
      (h.1 ▸ Resolver.over_simulated sim) hp)
    rw [ho, Operation.outcome_eq, Operation.action, Action.outcome_map] at hx
    rw [Operation.outcome_of_action (g := Answer.device) rfl]
    refine hready.2.1 d ?_
    rcases hr : (Action.outcome connect (.of b x.fleet)).1 with e | d' <;> rw [hr] at hx
    · cases hx
    · cases hx
      rfl
  all_goals
    rw [ho, Operation.outcome_eq, Operation.action, Action.outcome_map] at hx
    unfold Except.map at hx
    split at hx <;> cases hx

lemma Over.cores?_of_hasConnected (h : b.Over sim) (hc : b.hasConnected rounds = true) :
    (b.after rounds).cores?.isSome = true := by
  induction rounds generalizing b with
  | nil => simp [hasConnected] at hc
  | cons x rest ih =>
    obtain ⟨hover, -⟩ := h.round x
    rw [after_cons]
    rw [hasConnected] at hc
    split at hc
    · rename_i d hx
      have hd := h.ready_of_answer hx
      have hcores := (hover.after rest).2.cores?_eq (isDecided_iff.2 (by simp [hd]))
      rw [hcores]
      simp [cores?, device?, hd]
    · exact ih hover hc

/-- **The number of cores is settled once**: over a device that keeps its slot, whatever becomes of
its options from one operation to the next. If connecting has succeeded, then asking for the number
of cores is answered forever by what the device reported when the context was created, provided
that the query was exported when the table was bound and that the report is not zero; else by what
the settings say. That is at least one if the environment gave the settings.

The device is queried if and only if the query was bound and a context was had: once, and right
after the call that creates the context. Nothing is called before that one, and no other device is
called for either. -/
theorem cores_settled (n sim : Nat) {slot : Slot} (settings : Settings) {rounds : List Round}
    (hkeeps : ∀ x ∈ rounds, x.fleet.Keeps sim slot) :
    let start := Bridge.of n (.simulated sim) settings
    let b := start.after rounds
    let decisive := Round.decisive sim rounds
    (start.hasConnected rounds = true → b.device?.isSome = true) ∧
    (b.device?.isSome = true → ∃ x y, decisive = some (x, y) ∧
      (y.options sim).failContext = false ∧
      let cores := settings.cores ((x.options sim).exports .totalCores) (y.options sim).reported
      (∀ later fleet, ((b.after later).round ⟨fleet, .totalCores⟩).1 = .ok (.cores cores)) ∧
      ∀ vars files, Settings.ofEnvironment vars files = .ok settings → 1 ≤ cores) ∧
    (decisive = none → start.made sim rounds = []) ∧
    (∀ x y, decisive = some (x, y) → ∃ rest, (∀ c ∈ rest, c.isSetup = false) ∧
      start.made sim rounds =
        (y.options sim).setup ((x.options sim).exports .totalCores) ++ rest) ∧
    ∀ id, id ≠ sim → ∀ c ∈ start.made id rounds, c.isSetup = false := by
  intro start b decisive
  have hstart := over_of n sim settings
  obtain ⟨hover, -⟩ := hstart.after rounds
  have hsome : b.cores?.isSome = b.device?.isSome := Option.isSome_map
  have hrun := run_of_unbound hstart rfl rfl hkeeps
  refine ⟨fun hc => hsome ▸ hstart.cores?_of_hasConnected hc, ?_⟩
  rcases hx : Round.decisive sim rounds with _ | ⟨x, y⟩ <;> rw [hx] at hrun
  · obtain ⟨hu, hmade⟩ := hrun
    have hnone : b.device?.isSome = false := by
      rw [device?, hu]
      rfl
    refine ⟨fun hd => ?_, fun _ => hmade sim, fun x y h => ?_, fun id _ => by simp [start, hmade]⟩
    · rw [hnone] at hd
      cases hd
    · rw [show decisive = none from hx] at h
      cases h
  · obtain ⟨hdec, hcores, hcalls, helsewhere⟩ := hrun
    refine ⟨fun hd => ⟨x, y, hx, ?_⟩, fun h => ?_, fun x' y' h => ?_, helsewhere⟩
    · rcases hf : (y.options sim).failContext <;> rw [hf] at hcores
      · refine ⟨rfl, fun later fleet => ?_, fun vars files henv => ?_⟩
        · exact round_totalCores (((hover.after later).2.cores?_eq hdec).trans hcores) fleet
        · exact Settings.one_le_cores (Settings.fallbackCores_of_ofEnvironment henv) _ _
      · rw [← hsome, hcores] at hd
        cases hd
    · rw [show decisive = some (x, y) from hx] at h
      cases h
    · obtain ⟨rfl, rfl⟩ := Prod.mk.inj (Option.some.inj (hx.symm.trans h))
      exact hcalls

/-- A query that was bound is put to a device that has stopped to report: the settings decide. -/
theorem cores_settled_cleared :
    let reporting := Fleet.empty.install { totalCores := some 8 }
    let cleared := reporting.configure 0 fun o => { o with totalCores := none }
    let rounds : List Round := [⟨reporting, .link⟩, ⟨cleared, .connect⟩]
    let settings : Settings := { Settings.default with fallbackCores := 5 }
    let start := Bridge.of 0 (.simulated 0) settings
    (∀ x ∈ rounds, x.fleet.Keeps 0 0) ∧ start.hasConnected rounds = true ∧
      Settings.ofEnvironment (fun name => if name = Settings.coresVariable then some "5" else none)
        (fun _ => .error .notFound) = .ok settings ∧
      (∀ later fleet,
        (((start.after rounds).after later).round ⟨fleet, .totalCores⟩).1 = .ok (.cores 5)) ∧
      ∃ rest, start.made 0 rounds = .createContext :: .totalCores :: rest := by
  intro reporting cleared rounds settings start
  have hkeeps : ∀ x ∈ rounds, x.fleet.Keeps 0 0 := by
    intro x hx
    simp only [rounds, List.mem_cons, List.not_mem_nil, or_false] at hx
    rcases hx with rfl | rfl <;> exact ⟨by decide +kernel, by decide +kernel⟩
  have hconnected : start.hasConnected rounds = true := by decide +kernel
  have hbinds : Round.binds ⟨reporting, .link⟩ 0 = true := by decide +kernel
  have hdecisive : Round.decisive 0 rounds =
      some (⟨reporting, .link⟩, ⟨cleared, .connect⟩) := by
    simp only [rounds, Round.decisive, hbinds, if_true]
    rfl
  have hqueried : (Round.options ⟨reporting, .link⟩ 0).exports .totalCores = true := by
    decide +kernel
  have hreported : (Round.options ⟨cleared, .connect⟩ 0).reported = 0 := by decide +kernel
  have hfits : (Round.options ⟨cleared, .connect⟩ 0).failContext = false := by decide +kernel
  have henv : Settings.ofEnvironment
      (fun name => if name = Settings.coresVariable then some "5" else none)
      (fun _ => .error .notFound) = .ok settings := by rfl
  obtain ⟨hready, htold, -, hcalls, -⟩ := cores_settled 0 0 settings hkeeps
  obtain ⟨x, y, hx, -, hforever, -⟩ := htold (hready hconnected)
  obtain ⟨rfl, rfl⟩ := Prod.mk.inj (Option.some.inj (hdecisive.symm.trans hx))
  refine ⟨hkeeps, hconnected, henv, fun later fleet => ?_, ?_⟩
  · rw [hforever later fleet, hqueried, hreported]
    rfl
  · obtain ⟨rest, -, hmade⟩ := hcalls _ _ hdecisive
    refine ⟨rest, ?_⟩
    rw [hmade, hqueried, Options.setup, hfits]
    rfl

end Bridge

end Offload
