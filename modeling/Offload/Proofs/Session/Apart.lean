import Offload.Proofs.Session.Reachable

/-!
What the work on one simulated device leaves alone: all other devices.

Most entry points are the same for every device, and a call finds its device through the slot of a
handle. Two facts keep the devices apart: while there is room, the slot of a live device yields no
other, and the handles and tables that a device gives are of its slot.
-/

namespace Offload

open Simulator

namespace Simulator.Fleet

/-! ### Changes of one instance -/

/-- What happens on the way from one fleet to another happens to one instance, and its journal only
grows by it. -/
structure Confined (f f' : Fleet) (sim : Nat) : Prop where
  others : ∀ id ≠ sim, f'.instance? id = f.instance? id
  grows : ∃ new, (f'.journal sim).toList = (f.journal sim).toList ++ new

variable {f f' : Fleet} {got : List (Nat × Call)} {sim : Nat} {slot : Slot} {h : Handle}

lemma Received.confined (hrec : Received f f' got) (hg : ∀ x ∈ got, x.1 = sim) :
    f.Confined f' sim where
  others id hid := by
    refine hrec.instance?_eq (List.filterMap_eq_nil_iff.2 fun x hx => if_neg ?_)
    rw [hg x hx]
    exact Ne.symm hid
  grows := ⟨callsTo sim got, hrec.journal sim⟩

/-- Calls through the slot of an instance reach no other. -/
lemma OnlyThrough.confined (hf : OnlyThrough slot f f') (ho : f.owner? slot = some sim) :
    f.Confined f' sim := by
  obtain ⟨calls, hrec⟩ := hf
  refine hrec.confined fun x hx => ?_
  have hx' := (mem_through hx).1
  rw [ho] at hx'
  exact (Option.some.inj hx').symm

/-! ### What an instance gives -/

/-- A call that an instance answers with a handle, and the fleet that the call leaves. -/
inductive Issues (f : Fleet) (sim : Nat) : Handle → Fleet → Prop
  | context (slot : Slot) (ho : f.owner? slot = some sim) :
      Issues f sim (f.createContext (.createContext slot)).1
        (f.createContext (.createContext slot)).2
  | kernel (slot : Slot) (context : Handle) (code name : List UInt8)
      (hs : context.contextSlot? = some slot) (ho : f.owner? slot = some sim) :
      Issues f sim (f.createKernel .createKernel context (some code) (some name)).1
        (f.createKernel .createKernel context (some code) (some name)).2

/-- A handle that an instance has issued, in a fleet that was before this one. -/
def Issued (f : Fleet) (sim : Nat) (h : Handle) : Prop :=
  ∃ g g' : Fleet, g.Tracked ∧ g.Issues sim h g' ∧ Later g' f

/-- A table that a resolver of an instance has answered, in this fleet or in one before it. -/
def Linked (f : Fleet) (sim : Nat) (t : Table EntryPoint) : Prop :=
  ∃ (r : Resolver) (g : Fleet) (n : Nat), r.Over sim ∧
    (r.attempt g n).answers.link.1 = .ok t ∧ Later g f

lemma Issues.later (hi : f.Issues sim h f') : Later f f' := by
  cases hi with
  | context slot ho => exact (received_createContext slot).later
  | kernel slot context code name hs ho => exact (received_createKernel slot hs code name).later

/-- A handle, if it is one, is of the slot of the instance that answers it. -/
lemma Issues.placed (hi : f.Issues sim h f') (ht : f.Tracked) :
    ∀ slot ∈ h.slot?, f.cells[sim]?.map Cell.slot = some slot := by
  have hplace : ∀ slot, f.owner? slot = some sim → h.slot? = some slot →
      ∀ slot' ∈ h.slot?, f.cells[sim]?.map Cell.slot = some slot' := by
    intro slot ho hs slot' hs'
    obtain rfl := Option.some.inj (hs.symm.trans hs')
    exact ht.slot_of_owner? ho
  cases hi with
  | context slot ho =>
    rcases hn : (f.createContext (.createContext slot)).1.isNull
    · refine hplace slot ho (Handle.slot?_of_contextSlot? ?_)
      rw [isNull_createContext slot hn, Handle.contextSlot?_encode]
    · simp [Handle.slot?_of_isNull hn]
  | kernel slot context code name hs ho =>
    rcases hn : (f.createKernel .createKernel context (some code) (some name)).1.isNull
    · obtain ⟨-, i, -, hi, -⟩ := behind?_createKernel hs hn
      exact hplace slot ho (Handle.slot?_of_kernelIndex? hi)
    · simp [Handle.slot?_of_isNull hn]

/-- An issued handle is of the slot of its instance, for good. -/
lemma Issued.slot_eq (hi : f.Issued sim h) (hs : f.cells[sim]?.map Cell.slot = some slot) :
    ∀ slot' ∈ h.slot?, slot' = slot := by
  obtain ⟨g, g', ht, hissues, hf⟩ := hi
  intro slot' hs'
  have hnow := hf.slot sim slot' (hissues.later.slot sim slot' (hissues.placed ht slot' hs'))
  exact Option.some.inj (hnow.symm.trans hs)

/-- A linked table is of the slot of its instance, for good. -/
lemma Linked.simulated {t : Table EntryPoint} (hl : f.Linked sim t)
    (hs : f.cells[sim]?.map Cell.slot = some slot) : t.Simulated slot := by
  obtain ⟨r, g, n, hr, hlink, hf⟩ := hl
  obtain ⟨slot', hs', ht⟩ := hr.simulated_of_link hlink
  have heq : slot' = slot := Option.some.inj ((hf.slot sim slot' hs').symm.trans hs)
  exact heq ▸ ht

/-- What was issued stays so. -/
lemma Issued.later (hi : f.Issued sim h) (hf : Later f f') : f'.Issued sim h := by
  obtain ⟨g, g', ht, hissues, hg⟩ := hi
  exact ⟨g, g', ht, hissues, hg.trans hf⟩

lemma Linked.later {t : Table EntryPoint} (hl : f.Linked sim t) (hf : Later f f') :
    f'.Linked sim t := by
  obtain ⟨r, g, n, hr, hlink, hg⟩ := hl
  exact ⟨r, g, n, hr, hlink, hg.trans hf⟩

end Simulator.Fleet

/-! ### Operations of a bridge -/

namespace Bridge

open Fleet

/-- All calls of an operation reach the device of its bridge. -/
lemma Worked.confined {slot : Slot} {s s' : Scene} {tried : Option (Region × Bool)}
    {fault? : Option Fault} {may : Option (Fleet → Launch → Prop)} {sim : Nat}
    (h : Worked slot may s s' tried fault?) (ho : s.fleet.owner? slot = some sim)
    (hmay : ∀ p ∈ may, ∀ f l, Later s.fleet f → p f l → l.kernel.On slot sim f) :
    s.fleet.Confined s'.fleet sim := by
  have hreaches : ∀ x : Nat × Call, s.fleet.owner? slot = some x.1 → x.1 = sim := by
    intro x hx
    exact Option.some.inj (hx.symm.trans ho)
  cases h with
  | calm got hev _ => exact hev.received.confined fun x hx => hreaches x (hev.reaches x hx)
  | launched f got l hev hm hl =>
    obtain ⟨p, hp, hm⟩ := hm
    obtain ⟨id, launched, -, hrec, hb⟩ := hl.launches
    have hon : l.kernel.On slot sim f := hmay p hp f l hev.received.later hm
    have ho' : f.owner? slot = some sim := by rw [hev.received.owner, ho]
    refine (hev.received.trans hrec).confined fun x hx => ?_
    rcases List.mem_append.1 hx with hx | hx
    · exact hreaches x (hev.reaches x hx)
    · obtain ⟨c, hc, rfl⟩ := List.mem_map.1 hx
      obtain ⟨loaded, hloaded⟩ := hb (List.ne_nil_of_mem hc)
      exact (hon.behind ho' hloaded).1

end Bridge

namespace Session

variable {s s' : Session} {seat : Seat} {i sim : Nat} {slot : Slot} {f : Fleet} {t : BareTable}
  {call : RawCall}

lemma Sound.confined (h : s.Sound) (hseated : s.fleet.Seated) (hi : s.seat? i = some seat)
    (hsim : seat.sim = some sim) {o : Operation} (hk : s.Knows i o) :
    s.fleet.Confined (o.outcome (.of seat.bridge s.fleet)).2.fleet sim := by
  have hlive := (h.seats i seat hi).live sim hsim
  obtain ⟨slot, hslot⟩ := Fleet.exists_slot_of_isLive hlive
  have ho : s.fleet.owner? slot = some sim := hseated sim slot hslot hlive
  exact (h.does hi (Seat.fits_of_slot hsim hslot) o).worked.confined ho fun p hp f l hf hm =>
    h.on_of_leads hi hsim hslot hk hp hf hm

/-! ### Calls of a table -/

/-- A table and handles of one device lead to its slot alone. -/
lemma RawCall.slot?_of_linked (ht : f.Linked sim t.table)
    (hc : ∀ h ∈ call.handle? t.context, f.Issued sim h)
    (hs : f.cells[sim]?.map Cell.slot = some slot) : ∀ x ∈ call.slot? t, x = slot := by
  have htable := ht.simulated hs
  have hhandle : ∀ h ∈ call.handle? t.context, ∀ x ∈ h.slot?, x = slot :=
    fun h hh => (hc h hh).slot_eq hs
  intro x hx
  cases call with
  | createContext =>
    rw [RawCall.slot?, htable.createContext] at hx
    exact (Option.some.inj hx).symm
  | registerHeap base size =>
    rw [RawCall.slot?, htable.registerHeap] at hx
    exact (Option.some.inj hx).symm
  | _ => exact hhandle _ rfl x hx

/-- What a device answers to a table of its own with handles of its own is issued by it, too. -/
lemma RawCall.issued (ht : f.Linked sim t.table)
    (hc : ∀ h ∈ call.handle? t.context, f.Issued sim h) (htracked : f.Tracked)
    (hs : f.cells[sim]?.map Cell.slot = some slot) (ho : f.owner? slot = some sim) {h : Handle}
    (hr : (call.run t f).1.1 = .handle h) : h = .null ∨ (call.run t f).2.Issued sim h := by
  have htable := ht.simulated hs
  cases call with
  | createContext =>
    obtain rfl := Reply.handle.inj hr
    refine .inr ⟨f, _, htracked, ?_, .refl _⟩
    simp only [RawCall.run, htable.createContext]
    exact .context slot ho
  | createKernel context code name =>
    have hh : (f.createKernel t.table.createKernel (context.handle t.context) code name).1 = h :=
      Reply.handle.inj hr
    change h = .null ∨ Fleet.Issued
      (f.createKernel t.table.createKernel (context.handle t.context) code name).2 sim h
    rw [htable.createKernel] at hh ⊢
    rcases Fleet.createKernel_cases f (context.handle t.context) code name with
      heq | ⟨slot', code', name', hctx, rfl, rfl⟩
    · rw [heq] at hh
      exact .inl hh.symm
    · obtain rfl : slot' = slot :=
        (hc _ rfl).slot_eq hs slot' (Handle.slot?_of_contextSlot? hctx)
      subst hh
      exact .inr ⟨f, _, htracked, .kernel slot' _ code' name' hctx ho, .refl _⟩
  | totalCores context =>
    simp only [RawCall.run] at hr
    split at hr <;> simp at hr
  | _ => simp [RawCall.run] at hr

/-! ### Steps -/

lemma Sound.later_installMany (h : s.Sound) (options : Options) (n : Nat) :
    Fleet.Later s.fleet (s.installMany options n).2.fleet := by
  induction n generalizing s with
  | zero => exact .refl s.fleet
  | succ n ih => exact (h.tracked.later_install options).trans (ih (h.install options))

lemma Change.later (hc : Change s s') (h : s.Sound) : Fleet.Later s.fleet s'.fleet := by
  obtain hf | ⟨options, n, rfl⟩ | ⟨sim, hf⟩ := hc.fleet
  · exact hf.later
  · exact h.later_installMany options n
  · rw [hf]
    exact h.tracked.later_retire sim

/-- **One step** takes back no handle and no table that a device has given. -/
lemma Sound.given_step (h : s.Sound) {st : Step} (ha : s.allows st = true) (sim : Nat) :
    (∀ x, s.fleet.Issued sim x → (s.step st).2.fleet.Issued sim x) ∧
      ∀ t, s.fleet.Linked sim t → (s.step st).2.fleet.Linked sim t := by
  have hlater : Fleet.Later s.fleet (s.step st).2.fleet := (h.change_perform ha).later h
  exact ⟨fun _ hx => hx.later hlater, fun _ ht => ht.later hlater⟩

/-- **Devices are kept apart**, in every session that never had more of them alive than there are
slots: an operation of a bridge changes no device but the bridge's own, and a call of a table that a
resolver of a live device has answered, with handles that this device has issued, no device but that
one. -/
theorem devices_apart (h : Reachable Roomy s) (sim : Nat) :
    (∀ i seat o, s.seat? i = some seat → seat.sim = some sim → s.Knows i o →
      s.fleet.Confined (o.outcome (.of seat.bridge s.fleet)).2.fleet sim) ∧
    (s.fleet.isLive sim = true → ∀ (t : BareTable) (call : RawCall), s.fleet.Linked sim t.table →
      (∀ h ∈ call.handle? t.context, s.fleet.Issued sim h) →
      s.fleet.Confined (call.run t s.fleet).2 sim) := by
  have hseated := h.seated
  refine ⟨fun i seat o hi hsim hk => ?_, fun hlive t call ht hc => ?_⟩
  · exact h.sound.confined hseated hi hsim hk
  · obtain ⟨slot, hslot⟩ := Fleet.exists_slot_of_isLive hlive
    have hs := RawCall.slot?_of_linked ht hc hslot
    exact (call.onlyThrough t s.fleet hs).confined (hseated sim slot hslot hlive)

/-- With two devices, a bridge on the first and a context that the second has issued. -/
theorem devices_apart_two :
    let before := ((((start 0).step (.install id 2)).2.step (.bridgeOver 0 .default)).2.step
      (.table 1)).2
    let s := (before.step (.call 0 .createContext)).2
    let seat : Seat := ⟨.of 0 (.simulated 0) .default, some 0, false⟩
    let load := RawCall.createKernel (.field 0) (some [1]) (some [107])
    s.fleet.Confined (Operation.connect.outcome (.of seat.bridge s.fleet)).2.fleet 0 ∧
      ∃ t, s.tables[0]? = some t ∧ s.fleet.Confined (load.run t s.fleet).2 1 := by
  intro before s seat load
  have hbefore : Reachable Roomy before :=
    .step (.step (.step (.start 0 (by decide)) (.install id 2) rfl (by decide +kernel))
      (.bridgeOver 0 .default) (by decide +kernel) (by decide +kernel)) (.table 1)
      (by decide +kernel) (by decide +kernel)
  have hreach : Reachable Roomy s := .step hbefore (.call 0 .createContext) rfl (by decide +kernel)
  let t : BareTable := ⟨⟨.createContext 1, .createKernel, .push .object, .push .boolean,
    .push .byte, .push .double, .push .float, .push .int, .push .long, .execute, .clearArgs,
    .registerHeap 1, none⟩, .encode 1 .context⟩
  have hlinked : s.fleet.Linked 1 t.table :=
    ⟨.simulated 1, s.fleet, 0, Resolver.over_simulated 1, by rfl, .refl _⟩
  have hissued : s.fleet.Issued 1 t.context :=
    ⟨before.fleet, _, hbefore.sound.tracked, .context 1 (by decide +kernel),
      .refl s.fleet⟩
  refine ⟨?_, t, by rfl, ?_⟩
  · exact (devices_apart hreach 0).1 0 seat .connect (by rfl) rfl trivial
  · refine (devices_apart hreach 1).2 (by decide +kernel) t load hlinked fun h hh => ?_
    have hfield : (HandleText.field 0).handle t.context = t.context := by decide +kernel
    obtain rfl : t.context = h := hfield.symm.trans (Option.some.inj hh)
    exact hissued

end Session

end Offload
