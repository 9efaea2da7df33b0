import Offload.Proofs.Bridge.Operation
import Offload.Proofs.Simulator.Entries
import Offload.Proofs.Simulator.Slots
import Offload.Session.Step

/-!
The invariant of sessions: every bridge is bound, if at all, to the slot of the simulated device
that it was made on, and every kernel is one of that device.

A slot may be taken over by a later device; then neither is true of the slot any more. What stays
true is that a slot does not come back to the device it was taken from.
-/

namespace Offload

open Simulator

/-- A device that a bridge of this seat may be on, and a slot that this device may be in. -/
def Seat.Fits (seat : Seat) (f : Fleet) (id : Nat) (slot : Slot) : Prop :=
  f.Placed id slot ∧ ∀ sim, seat.sim = some sim → id = sim

/-- A seat keeps its simulated device alive, and its bridge is bound to no other. A bridge on no
device fits all of them, so it is bound to none. -/
structure Seat.Sound (seat : Seat) (i : Nat) (f : Fleet) : Prop where
  number : seat.bridge.id = i
  live : ∀ sim, seat.sim = some sim → f.isLive sim = true
  linked : ∀ id slot, seat.Fits f id slot →
    seat.bridge.resolver.Over id ∧ seat.bridge.Linked slot

/-- A kernel was loaded on the simulated device of the seat that owns it. -/
def Kernel.Sound (k : Kernel) (s : Session) : Prop :=
  ∃ seat sim, s.seat? k.owner = some seat ∧ seat.sim = some sim ∧
    ∀ slot, s.fleet.cells[sim]?.map Cell.slot = some slot → k.On slot sim s.fleet

structure Session.Sound (s : Session) : Prop where
  tracked : s.fleet.Tracked
  bounded : s.fleet.Bounded
  size : s.held.size = s.fleet.cells.size
  held : ∀ sim, s.holds sim = true → s.fleet.isLive sim = true
  seats : ∀ i seat, s.seat? i = some seat → seat.Sound i s.fleet
  kernels : ∀ i k, s.kernel? i = some k → k.Sound s

variable {s s' : Session} {seat : Seat} {i : Nat} {f f' : Fleet}

lemma Fleet.exists_slot_of_isLive {id : Nat} (h : f.isLive id = true) :
    ∃ slot, f.cells[id]?.map Cell.slot = some slot := by
  obtain ⟨c, hc, -⟩ := Fleet.isLive_eq_true_iff.1 h
  exact ⟨c.slot, by rw [hc]; rfl⟩

/-! ### Seats and kernels in a later fleet -/

namespace Seat

lemma fits_of_slot {sim : Nat} {slot : Slot} (hsim : seat.sim = some sim)
    (hs : f.cells[sim]?.map Cell.slot = some slot) : seat.Fits f sim slot := by
  refine ⟨fun slot' hs' => ?_, fun sim' hsim' => ?_⟩
  · rw [hs] at hs'
    exact (Option.some.inj hs').symm
  · rw [hsim] at hsim'
    exact Option.some.inj hsim'

lemma Sound.exists_fits (h : seat.Sound i f) : ∃ id slot, seat.Fits f id slot := by
  rcases hsim : seat.sim with _ | sim
  · refine ⟨f.cells.size, 0, fun slot hs => ?_, by simp [hsim]⟩
    simp at hs
  · obtain ⟨slot, hs⟩ := Fleet.exists_slot_of_isLive (h.live sim hsim)
    exact ⟨sim, slot, fits_of_slot hsim hs⟩

lemma Fits.of_later {id : Nat} {slot : Slot} (h : seat.Fits f' id slot) (hf : Fleet.Later f f') :
    seat.Fits f id slot :=
  ⟨fun slot' hs => h.1 slot' (hf.slot id slot' hs), h.2⟩

lemma Sound.later (h : seat.Sound i f) (hf : Fleet.Later f f')
    (hl : ∀ sim, seat.sim = some sim → f'.isLive sim = true) : seat.Sound i f' where
  number := h.number
  live := hl
  linked id slot hfits := h.linked id slot (hfits.of_later hf)

/-- A bridge that has a device is on a simulated one. -/
lemma Sound.exists_sim (h : seat.Sound i f) (hd : seat.bridge.device ≠ .undecided) :
    ∃ sim, seat.sim = some sim := by
  rcases hsim : seat.sim with _ | sim
  · have hfits : ∀ slot, seat.Fits f f.cells.size slot := by
      intro slot
      refine ⟨fun slot' hs => ?_, by simp [hsim]⟩
      simp at hs
    -- no table is of two slots
    obtain ⟨t, ht⟩ := (h.linked _ 0 (hfits 0)).2.bound hd
    have h0 := ((h.linked _ 0 (hfits 0)).2.table t ht).createContext
    have h1 := ((h.linked _ 1 (hfits 1)).2.table t ht).createContext
    rw [h0] at h1
    exact absurd (EntryPoint.createContext.inj h1) (by decide)
  · exact ⟨sim, rfl⟩

end Seat

lemma Kernel.Sound.later {k : Kernel} (h : k.Sound s) (hs : s.Sound)
    (hf : Fleet.Later s.fleet s'.fleet)
    (hseat : ∀ seat, s.seat? k.owner = some seat →
      ∃ seat', s'.seat? k.owner = some seat' ∧ seat'.sim = seat.sim) : k.Sound s' := by
  obtain ⟨seat, sim, howner, hsim, hon⟩ := h
  obtain ⟨seat', howner', hsim'⟩ := hseat seat howner
  have hlive := (hs.seats _ seat howner).live sim hsim
  obtain ⟨slot, hslot⟩ := Fleet.exists_slot_of_isLive hlive
  refine ⟨seat', sim, howner', hsim'.trans hsim, fun slot' hslot' => ?_⟩
  have heq : slot = slot' := Option.some.inj ((hf.slot sim slot hslot).symm.trans hslot')
  exact heq ▸ (hon slot hslot).later hf (Fleet.lt_size_of_isLive hlive)

namespace Session

/-! ### Steps that work on simulated devices -/

lemma Sound.later (h : s.Sound) (hf : Fleet.Later s.fleet s'.fleet) (ht : s'.fleet.Tracked)
    (hb : s'.fleet.Bounded) (hsize : s'.held.size = s'.fleet.cells.size)
    (hheld : ∀ sim, s'.holds sim = true → s'.fleet.isLive sim = true)
    (hseats : ∀ i seat, s'.seat? i = some seat → s.seat? i = some seat ∧
      ∀ sim, seat.sim = some sim → s'.fleet.isLive sim = true)
    (hkernels : ∀ i k, s'.kernel? i = some k →
      s.kernel? i = some k ∧ s'.seat? k.owner = s.seat? k.owner) : s'.Sound where
  tracked := ht
  bounded := hb
  size := hsize
  held := hheld
  seats i seat hi := (h.seats i seat (hseats i seat hi).1).later hf (hseats i seat hi).2
  kernels i k hi := by
    obtain ⟨hi', howner⟩ := hkernels i k hi
    exact (h.kernels i k hi').later h hf fun seat hseat => ⟨seat, howner.trans hseat, rfl⟩

/-- Calls and settings alone. -/
lemma Sound.kept (h : s.Sound) (hf : Fleet.Kept s.fleet s'.fleet) (hheld : s'.held = s.held)
    (hseats : s'.seats = s.seats) (hkernels : s'.kernels = s.kernels) : s'.Sound := by
  have hseat : ∀ i, s'.seat? i = s.seat? i := fun i => by rw [seat?, hseats, seat?]
  have hkernel : ∀ i, s'.kernel? i = s.kernel? i := fun i => by rw [kernel?, hkernels, kernel?]
  have hholds : ∀ sim, s'.holds sim = s.holds sim := fun sim => by rw [holds, hheld, holds]
  refine h.later hf.later (hf.tracked h.tracked) (hf.bounded h.bounded) ?_ ?_ ?_ ?_
  · rw [hheld, hf.size_eq, h.size]
  · intro sim hs
    rw [hholds] at hs
    rw [hf.live, h.held sim hs]
  · intro i seat hi
    rw [hseat] at hi
    exact ⟨hi, fun sim hsim => by rw [hf.live, (h.seats i seat hi).live sim hsim]⟩
  · intro i k hi
    rw [hkernel] at hi
    exact ⟨hi, hseat _⟩

lemma Sound.install (h : s.Sound) (options : Options) : (s.install options).Sound := by
  have hlive : ∀ sim, s.fleet.isLive sim = true → (s.fleet.install options).isLive sim = true := by
    intro sim hl
    rw [Fleet.isLive_install, hl, Bool.or_true]
  refine h.later (h.tracked.later_install options) (h.tracked.install options)
    (h.bounded.install options) ?_ ?_ ?_ fun i k hi => ⟨hi, rfl⟩
  · simp [Session.install, Fleet.install, h.size]
  · intro sim hs
    change (s.fleet.install options).isLive sim = true
    have hpush : (s.install options).holds sim =
        ((if sim = s.held.size then some true else s.held[sim]?).getD false) := by
      simp [holds, Session.install, Array.getElem?_push]
    rw [hpush] at hs
    split at hs
    · rename_i heq
      rw [Fleet.isLive_install, heq, h.size, decide_eq_true rfl, Bool.true_or]
    · exact hlive sim (h.held sim hs)
  · intro i seat hi
    exact ⟨hi, fun sim hsim => hlive sim ((h.seats i seat hi).live sim hsim)⟩

lemma Sound.installMany (h : s.Sound) (options : Options) (n : Nat) :
    (s.installMany options n).2.Sound := by
  induction n generalizing s with
  | zero => exact h
  | succ n ih => exact ih (h.install options)

/-! ### Ends of simulated devices -/

lemma lt_size_of_seat? (h : s.seat? i = some seat) : i < s.seats.size := by
  by_contra hge
  simp [seat?, Array.getElem?_eq_none (Nat.le_of_not_lt hge)] at h

lemma any_sim_iff (s : Session) (sim : Nat) :
    (s.seats.any fun seat => seat.any fun x => x.sim = some sim) = true ↔
      ∃ i seat, s.seat? i = some seat ∧ seat.sim = some sim := by
  rw [Array.any_eq_true]
  constructor
  · rintro ⟨i, hi, hany⟩
    rcases hseat : s.seats[i] with _ | seat
    · simp [hseat] at hany
    · rw [hseat, Option.any_some] at hany
      exact ⟨i, seat, by simp [seat?, hi, hseat], of_decide_eq_true hany⟩
  · rintro ⟨i, seat, hseat, hsim⟩
    have hlt := lt_size_of_seat? hseat
    have hget : s.seats[i] = some seat := by simpa [seat?, hlt] using hseat
    exact ⟨i, hlt, by simp [hget, hsim]⟩

lemma keeps_iff (s : Session) (sim : Nat) :
    s.keeps sim = true ↔
      s.holds sim = true ∨ ∃ i seat, s.seat? i = some seat ∧ seat.sim = some sim := by
  rw [keeps, Bool.or_eq_true, any_sim_iff]

/-- A simulated device ends only if nothing keeps it. -/
lemma Sound.release (h : s.Sound) (sim : Nat) : (s.release sim).Sound := by
  unfold Session.release
  by_cases hk : s.keeps sim = true
  · rw [if_pos hk]
    exact h
  rw [if_neg hk]
  have hfree := mt (keeps_iff s sim).2 hk
  rw [not_or, not_exists] at hfree
  have hlive : ∀ sim', sim' ≠ sim → s.fleet.isLive sim' = true →
      (s.fleet.retire sim).isLive sim' = true := by
    intro sim' hne hl
    rw [Fleet.isLive_retire, hl, decide_eq_true hne, Bool.and_true]
  refine h.later (h.tracked.later_retire sim) (h.tracked.retire sim) (h.bounded.retire sim) ?_ ?_ ?_
    fun i k hi => ⟨hi, rfl⟩
  · simp [h.size, Fleet.cells_retire]
  · intro sim' hs
    have hne : sim' ≠ sim := by
      rintro rfl
      exact hfree.1 hs
    exact hlive sim' hne (h.held sim' hs)
  · intro i seat hi
    refine ⟨hi, fun sim' hsim => ?_⟩
    have hne : sim' ≠ sim := by
      rintro rfl
      exact hfree.2 i ⟨seat, hi, hsim⟩
    exact hlive sim' hne ((h.seats i seat hi).live sim' hsim)

lemma Sound.dropSim (h : s.Sound) (sim : Nat) : (s.dropSim sim).Sound := by
  refine Sound.release ?_ sim
  refine h.later (.refl s.fleet) h.tracked h.bounded (by simp [h.size]) ?_ ?_
    fun i k hi => ⟨hi, rfl⟩
  · intro sim' hs
    refine h.held sim' ?_
    simp only [holds, Array.getElem?_setIfInBounds] at hs ⊢
    split at hs
    · split at hs <;> simp at hs
    · exact hs
  · exact fun i seat hi => ⟨hi, (h.seats i seat hi).live⟩

/-! ### Bridges made and dropped -/

lemma seat?_setIfInBounds {s' : Session} {x : Option Seat}
    (hs : s'.seats = s.seats.setIfInBounds i x) (j : Nat) :
    s'.seat? j = if j = i ∧ i < s.seats.size then x else s.seat? j := by
  rw [seat?, hs, Array.getElem?_setIfInBounds, seat?]
  by_cases hj : i = j
  · subst hj
    by_cases hi : i < s.seats.size
    · simp [hi]
    · simp [hi]
  · simp [hj, Ne.symm hj]

lemma kernel?_map_filter {s' : Session} {p : Kernel → Bool}
    (hs : s'.kernels = s.kernels.map fun k => k.filter p) {j : Nat} {k : Kernel} :
    s'.kernel? j = some k ↔ s.kernel? j = some k ∧ p k = true := by
  rw [kernel?, hs, Array.getElem?_map, kernel?]
  rcases s.kernels[j]? with _ | _ | k'
  · simp
  · simp
  · simp only [Option.map_some, Option.join_some, Option.filter_eq_some_iff]

lemma Sound.dropBridge (h : s.Sound) (i : Nat) : (s.dropBridge i).Sound := by
  have hdropped : Session.Sound { s with
      seats := s.seats.setIfInBounds i none
      kernels := s.kernels.map fun k => k.filter fun k => k.owner ≠ i } := by
    refine h.later (.refl s.fleet) h.tracked h.bounded h.size h.held ?_ ?_
    · intro j seat hj
      rw [seat?_setIfInBounds rfl] at hj
      split at hj
      · simp at hj
      · exact ⟨hj, (h.seats j seat hj).live⟩
    · intro j k hj
      obtain ⟨hj', howner⟩ := (kernel?_map_filter rfl).1 hj
      have hne : ¬(k.owner = i ∧ i < s.seats.size) := by
        rintro ⟨heq, -⟩
        simp [heq] at howner
      refine ⟨hj', ?_⟩
      rw [seat?_setIfInBounds rfl, if_neg hne]
  rcases hsim : (s.seat? i).bind Seat.sim with _ | sim <;> simp only [Session.dropBridge, hsim]
  · exact hdropped
  · exact hdropped.release sim

lemma Sound.addBridge (h : s.Sound) {resolver : Resolver} {sim : Option Nat}
    (hr : ∀ id, (∀ sim', sim = some sim' → id = sim') → resolver.Over id)
    (hsim : ∀ sim', sim = some sim' → s.holds sim' = true) (settings : Settings)
    (watched : Bool) : (s.addBridge resolver settings sim watched).Sound := by
  have hseat : ∀ j, (s.addBridge resolver settings sim watched).seat? j =
      if j = s.seats.size then some ⟨.of s.seats.size resolver settings, sim, watched⟩
      else s.seat? j := by
    intro j
    simp only [seat?, Session.addBridge, Array.getElem?_push]
    split <;> rfl
  refine ⟨h.tracked, h.bounded, h.size, h.held, fun j seat hj => ?_, fun j k hj => ?_⟩
  · rw [hseat] at hj
    split at hj
    · rename_i heq
      obtain rfl := Option.some.inj hj
      exact ⟨heq.symm, fun sim' hs => h.held sim' (hsim sim' hs),
        fun id slot hfits => ⟨hr id hfits.2, Bridge.linked_of _ _ _ slot⟩⟩
    · exact h.seats j seat hj
  · refine (h.kernels j k hj).later h (.refl s.fleet) fun seat howner => ?_
    have hlt := lt_size_of_seat? howner
    exact ⟨seat, by rw [hseat, if_neg (Nat.ne_of_lt hlt), howner], rfl⟩

/-! ### Kernels loaded and launched -/

lemma Sound.addKernel (h : s.Sound) {k : Kernel} (hk : k.Sound s) : (s.addKernel k).Sound := by
  refine ⟨h.tracked, h.bounded, h.size, h.held, h.seats, fun j k' hj => ?_⟩
  have hkernel : (s.addKernel k).kernel? j =
      if j = s.kernels.size then some k else s.kernel? j := by
    simp only [kernel?, Session.addKernel, Array.getElem?_push]
    split <;> rfl
  rw [hkernel] at hj
  split at hj
  · exact Option.some.inj hj ▸ hk
  · exact h.kernels j k' hj

lemma Sound.setKernel (h : s.Sound) {j : Nat} {k : Kernel} (hk : k.Sound s) :
    (s.setKernel j k).Sound := by
  refine ⟨h.tracked, h.bounded, h.size, h.held, h.seats, fun j' k' hj' => ?_⟩
  simp only [kernel?, Session.setKernel, Array.getElem?_setIfInBounds] at hj'
  split at hj'
  · split at hj'
    · exact Option.some.inj hj' ▸ hk
    · simp at hj'
  · exact h.kernels j' k' hj'

/-! ### Operations of a bridge -/

/-- A session once an action of a bridge has left this scene. -/
def left (s : Session) (i : Nat) (seat : Seat) (scene : Scene) : Session :=
  { s with
    fleet := scene.fleet
    seats := s.seats.setIfInBounds i (some { seat with bridge := scene.bridge }) }

lemma run_of_absent {β : Type} (h : s.seat? i = none) (a : Action β) :
    s.run i a = (none, s) := by
  rw [run, h]

lemma run_of_seat {β : Type} (h : s.seat? i = some seat) (a : Action β) :
    s.run i a =
      let (r, scene) := a.outcome (.of seat.bridge s.fleet)
      (some (r, scene.notices, scene.queries), s.left i seat scene) := by
  unfold run Action.outcome
  rw [h]
  rcases ha : a (.of seat.bridge s.fleet) with ⟨b, scene⟩ | ⟨e, scene⟩ <;> simp only [ha] <;> rfl

/-- What an action of a bridge may come to, for the session: calls alone, and a bridge bound as
before. -/
structure Leaves (s : Session) (seat : Seat) (scene : Scene) : Prop where
  kept : Fleet.Kept s.fleet scene.fleet
  identity : scene.bridge.identity = seat.bridge.identity
  linked : ∀ id slot, seat.Fits s.fleet id slot → scene.bridge.Linked slot

lemma Sound.left (h : s.Sound) (hi : s.seat? i = some seat) {scene : Scene}
    (hs : s.Leaves seat scene) : (s.left i seat scene).Sound := by
  have hgood := h.seats i seat hi
  have hid := hs.identity
  simp only [Bridge.identity, Prod.mk.injEq] at hid
  have hseat : ∀ j, (s.left i seat scene).seat? j =
      if j = i ∧ i < s.seats.size then some { seat with bridge := scene.bridge } else s.seat? j :=
    seat?_setIfInBounds rfl
  have hlive : ∀ sim, s.fleet.isLive sim = true → scene.fleet.isLive sim = true :=
    fun sim hl => by rw [hs.kept.live, hl]
  refine ⟨hs.kept.tracked h.tracked, hs.kept.bounded h.bounded, ?_, ?_, ?_, ?_⟩
  · exact h.size.trans hs.kept.size_eq.symm
  · exact fun sim hsim => hlive sim (h.held sim hsim)
  · intro j seat' hj
    rw [hseat] at hj
    split at hj
    · rename_i heq
      obtain rfl := Option.some.inj hj
      refine ⟨?_, fun sim hsim => hlive sim (hgood.live sim hsim), fun id slot hfits => ?_⟩
      · rw [heq.1]
        exact hid.1.trans hgood.number
      · have hfits' : seat.Fits s.fleet id slot := Seat.Fits.of_later hfits hs.kept.later
        refine ⟨?_, hs.linked id slot hfits'⟩
        have hover := (hgood.linked id slot hfits').1
        exact hid.2.1 ▸ hover
    · have hgood' := h.seats j seat' hj
      exact hgood'.later hs.kept.later fun sim hsim => hlive sim (hgood'.live sim hsim)
  · intro j k hj
    refine (h.kernels j k hj).later h hs.kept.later fun seat' howner => ?_
    rw [hseat]
    by_cases hown : k.owner = i
    · rw [hown, hi] at howner
      obtain rfl := Option.some.inj howner
      exact ⟨_, if_pos ⟨hown, lt_size_of_seat? hi⟩, rfl⟩
    · exact ⟨seat', by rw [if_neg (fun hc => hown hc.1), howner], rfl⟩

/-- An operation of a bridge does what it should through every slot that fits. -/
lemma Sound.does (h : s.Sound) (hi : s.seat? i = some seat) {id : Nat} {slot : Slot}
    (hfits : seat.Fits s.fleet id slot) (o : Operation) :
    o.Does slot (.of seat.bridge s.fleet) (faultOf (o.outcome (.of seat.bridge s.fleet)).1)
      (o.outcome (.of seat.bridge s.fleet)).2 := by
  obtain ⟨hover, hlinked⟩ := (h.seats i seat hi).linked id slot hfits
  exact o.outcome_does (s := .of seat.bridge s.fleet) hlinked hover fun _ => hfits.1

/-- Every operation of a bridge comes to that. -/
lemma Sound.leaves (h : s.Sound) (hi : s.seat? i = some seat) (o : Operation) :
    s.Leaves seat (o.outcome (.of seat.bridge s.fleet)).2 := by
  have hgood := h.seats i seat hi
  obtain ⟨id, slot, hfits⟩ := hgood.exists_fits
  have hworked := (h.does hi hfits o).worked
  obtain ⟨got, hrec⟩ := hworked.received
  exact ⟨hrec.toKept, hworked.identity, fun id' slot' hfits' =>
    (h.does hi hfits' o).worked.linked (hgood.linked id' slot' hfits').2⟩

/-- An operation is given a kernel of this bridge only if the session has it. -/
def Knows (s : Session) (i : Nat) : Operation → Prop
  | .launch k _ _ _ => k.owner = i → ∃ j, s.kernel? j = some k
  | _ => True

/-- What an operation launches is a kernel of the device of its bridge. -/
lemma Sound.on_of_leads (h : s.Sound) (hi : s.seat? i = some seat) {sim : Nat}
    (hsim : seat.sim = some sim) {slot : Slot}
    (hslot : s.fleet.cells[sim]?.map Cell.slot = some slot) {o : Operation} (hk : s.Knows i o)
    {p : Fleet → Launch → Prop} (hp : p ∈ o.leads? slot seat.bridge) {f : Fleet} {l : Launch}
    (hf : Fleet.Later s.fleet f) (hm : p f l) : l.kernel.On slot sim f := by
  have hgood := h.seats i seat hi
  cases o with
  | launch k dim args signature =>
    obtain rfl := Option.some.inj hp
    obtain ⟨rfl, howner⟩ := hm
    have hown : k.owner = i := howner.trans hgood.number
    obtain ⟨j, hj⟩ := hk hown
    obtain ⟨seat', sim', hseat', hsim', hon⟩ := h.kernels j k hj
    rw [hown, hi] at hseat'
    obtain rfl := Option.some.inj hseat'
    obtain rfl := Option.some.inj (hsim.symm.trans hsim')
    exact (hon slot hslot).later hf (Fleet.lt_size_of_isLive (hgood.live sim hsim))
  | offload request heap =>
    obtain rfl := Option.some.inj hp
    exact hm.2.2.2 sim
  | _ => exact absurd hp (Option.not_mem_none p)

end Session

end Offload
