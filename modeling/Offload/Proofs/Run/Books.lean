import Mathlib.Data.List.Induction
import Offload.Proofs.Run.Basic

/-!
The invariant of runs: the bridge's books agree with the history of the device.

Effects keep the books one at a time, and so does a launch; a move is a few of them or touches
neither side.
-/

namespace Offload

open Simulator Bridge

/-- What a history looks like for a bridge to be as it is. -/
structure Books (b : Bridge) (h : List Call) (tried : Option (Region × Bool)) : Prop where
  fresh : b.device = .undecided → h = []
  begun : b.device ≠ .undecided → h.head? = some .createContext
  heap : ∀ r, b.heap? = some r → registered? h = some r ∧ tried = some (r, true)

section Effects

variable {slot : Slot} {f f' : Fleet} {b b' : Bridge} {h : List Call} {sim : Nat}
  {got : List (Nat × Call)} {tried tried' : Option (Region × Bool)}

lemma callsTo_through (ho : f.owner? slot = some sim) (calls : List Call) :
    callsTo sim (f.through slot calls) = calls := by
  rw [Fleet.through, ho]
  exact callsTo_map_self sim calls

lemma Bridge.ready_of_heap? {r : Region} (hr : b.heap? = some r) : b.device ≠ .undecided := by
  intro hu
  simp [Bridge.heap?, Bridge.device?, hu] at hr

lemma head?_append_of_begun {c : Call} (hb : h.head? = some c) (new : List Call) :
    (h ++ new).head? = some c := by
  simp [List.head?_append, hb]

/-- The books are about the device alone. -/
lemma Books.of_device (hb : Books b h tried) (hd : b'.device = b.device) : Books b' h tried := by
  have hheap : b'.heap? = b.heap? := by
    unfold Bridge.heap? Bridge.device?
    rw [hd]
  exact ⟨fun hu => hb.fresh (hd ▸ hu), fun hu => hb.begun (hd ▸ hu),
    fun r hr => hb.heap r (hheap ▸ hr)⟩

/-- Calls that register nothing may follow, once the device is settled. -/
lemma Books.extend (hb : Books b h tried) (hd : b.device ≠ .undecided) {new : List Call}
    (hnone : registered? new = none) : Books b (h ++ new) tried where
  fresh hu := absurd hu hd
  begun _ := head?_append_of_begun (hb.begun hd) new
  heap r hr := by
    rw [registered?_append, hnone]
    exact hb.heap r hr

lemma Books.effect (hb : Books b h tried) (he : Effect slot f b b' got tried')
    (ho : f.owner? slot = some sim) : Books b' (h ++ callsTo sim got) (tried'.or tried) := by
  cases he with
  | missed =>
    rw [callsTo_nil, List.append_nil]
    exact hb.of_device rfl
  | bound =>
    rw [callsTo_nil, List.append_nil]
    exact hb.of_device rfl
  | decided t state rest ht hu hs hr =>
    rw [callsTo_through ho, hb.fresh hu]
    refine ⟨fun h' => absurd h' hs, fun _ => rfl, fun r hheap => ?_⟩
    cases state with
    | undecided => exact absurd rfl hs
    | unavailable => simp [Bridge.heap?, Bridge.device?] at hheap
    | ready d =>
      rw [heap?_of_ready rfl, (hr d rfl).2.2] at hheap
      simp at hheap
  | registered d region accepted hd he =>
    rw [callsTo_through ho]
    refine ⟨by simp, fun _ => head?_append_of_begun (hb.begun (by simp [hd])) _, fun r hheap => ?_⟩
    rw [heap?_of_ready rfl] at hheap
    cases accepted with
    | false => simp at hheap
    | true =>
      simp only [if_true, Option.some.injEq] at hheap
      subst hheap
      rw [he rfl, registered?_append]
      exact ⟨rfl, rfl⟩
  | loaded name size hd =>
    rw [callsTo_through ho]
    exact hb.extend hd rfl

lemma Books.evolves (hb : Books b h tried) (he : Evolves slot b f b' f' got tried')
    (ho : f.owner? slot = some sim) : Books b' (h ++ callsTo sim got) (tried'.or tried) := by
  induction he with
  | refl => simpa using hb
  | tail hev he _ ih =>
    have ho' := (hev.received.owner slot).trans ho
    rw [callsTo_append, ← List.append_assoc, Option.or_assoc]
    exact ih.effect he ho'

lemma Bridge.Launches.callsTo {calls : List Call} (hl : Launches b calls) (id sim : Nat) :
    Launches b (callsTo sim (calls.map (id, ·))) := by
  by_cases h : id = sim
  · rwa [h, callsTo_map_self]
  · rw [callsTo_map_of_ne h]
    exact .none

lemma Books.launches (hb : Books b h tried) {calls : List Call} (hl : Launches b calls) :
    Books b (h ++ calls) tried := by
  have hnone := registered?_of_isLaunch hl.isLaunch
  cases hl with
  | none => simpa using hb
  | calls region _ _ _ _ hh => exact hb.extend (ready_of_heap? hh) hnone

end Effects

/-! ### Moves -/

/-- What is left of an operation in the history of one device: calls that belong to no launch, and
then perhaps those of one launch over the books as they are by then. -/
lemma Bridge.Worked.books {slot : Slot} {may : Option (Fleet → Launch → Prop)} {s s' : Scene}
    {h : List Call} {sim : Nat} {tried tried' : Option (Region × Bool)} {fault? : Option Fault}
    (hw : Worked slot may s s' tried' fault?)
    (hb : Books s.bridge h tried) (ho : s.fleet.owner? slot = some sim) :
    ∃ quiet launched, (s'.fleet.journal sim).toList =
        (s.fleet.journal sim).toList ++ (quiet ++ launched) ∧
      (∀ c ∈ quiet, c.isLaunch = false) ∧ Books s'.bridge (h ++ quiet) (tried'.or tried) ∧
      Launches s'.bridge launched := by
  obtain ⟨f, got, id, launched, hev, hl, hf⟩ := hw.split
  refine ⟨_, _, ?_, fun c hc => hev.quiet _ (mem_callsTo.1 hc), hb.evolves hev ho,
    hl.callsTo id sim⟩
  rw [hf.journal, hev.received.journal, List.append_assoc]

namespace Run

/-- The bridge has its device to itself, and its books agree with the history. -/
structure Sound (s : Run) (slot : Slot) : Prop where
  placed : s.fleet.cells[s.sim]?.map Cell.slot = some slot
  owner : s.fleet.owner? slot = some s.sim
  resolver : s.bridge.resolver = .simulated s.sim
  linked : s.bridge.Linked slot
  books : Books s.bridge s.history s.tried

/-- What a move adds to the history: calls of no launch, and then perhaps those of one. -/
def Grows (s s' : Run) : Prop :=
  ∃ quiet launched, s'.history = s.history ++ (quiet ++ launched) ∧
    (∀ c ∈ quiet, c.isLaunch = false) ∧ Books s'.bridge (s.history ++ quiet) s'.tried ∧
    Launches s'.bridge launched

/-- What holds from one end of a move to the other. -/
structure Kept (slot : Slot) (s s' : Run) : Prop where
  sound : s'.Sound slot
  grows : s.Grows s'
  settings : s'.bridge.settings = s.bridge.settings

variable {s : Run} {slot : Slot}

/-- A move that the bridge has no part in. -/
lemma Sound.of_fleet (h : s.Sound slot) {s' : Run} (hb : s'.bridge = s.bridge)
    (hs : s'.sim = s.sim) (ht : s'.tried = s.tried) (hh : s'.history = s.history)
    (hp : s'.fleet.cells[s.sim]?.map Cell.slot = s.fleet.cells[s.sim]?.map Cell.slot)
    (ho : s'.fleet.owner? slot = some s.sim) : Kept slot s s' := by
  have hbooks : Books s'.bridge s.history s'.tried := by
    rw [hb, ht]
    exact h.books
  refine ⟨⟨?_, ?_, ?_, ?_, ?_⟩, ⟨[], [], by simp [hh], by simp, ?_, .none⟩, by rw [hb]⟩
  · rw [hs, hp, h.placed]
  · rw [hs, ho]
  · rw [hb, hs, h.resolver]
  · rw [hb]
    exact h.linked
  · rwa [hh]
  · rwa [List.append_nil]

lemma Sound.instance? (h : s.Sound slot) : ∃ d, s.fleet.instance? s.sim = some d :=
  s.fleet.exists_instance_of_owner h.owner

lemma Sound.does (h : s.Sound slot) (o : Operation) :
    let scene := Scene.of s.bridge s.fleet
    o.Does slot scene (faultOf (o.outcome scene).1) (o.outcome scene).2 :=
  o.outcome_does (s := .of s.bridge s.fleet) h.linked (h.resolver ▸ Resolver.over_simulated s.sim)
    fun _ _ hs => Option.some.inj (hs.symm.trans h.placed)

lemma Sound.perform (h : s.Sound slot) (o : Operation) :
    Kept slot s (s.step (.perform o)) := by
  have hw := (h.does o).worked
  have hid := hw.identity
  simp only [Bridge.identity, Prod.mk.injEq] at hid
  obtain ⟨quiet, launched, hj, hq, hb, hl⟩ := hw.books h.books h.owner
  obtain ⟨got, hrec⟩ := hw.received
  have hh : (s.step (.perform o)).history = s.history ++ (quiet ++ launched) := by
    rw [history, history, List.append_assoc]
    exact congrArg (s.drained ++ ·) hj
  refine ⟨⟨?_, ?_, ?_, hw.linked h.linked, ?_⟩, ⟨quiet, launched, hh, hq, hb, hl⟩, hid.2.2⟩
  · exact (hrec.slot s.sim).trans h.placed
  · exact (hrec.owner slot).trans h.owner
  · exact hid.2.1.trans h.resolver
  · rw [hh, ← List.append_assoc]
    exact hb.launches hl

lemma Sound.configure (h : s.Sound slot) (change : Options → Options) :
    Kept slot s (s.step (.configure change)) := by
  obtain ⟨d, hd⟩ := h.instance?
  have heq := s.fleet.configure_eq hd change
  refine h.of_fleet rfl rfl rfl ?_ ?_ ?_
  · simp only [history, step, heq]
    rw [Fleet.journal_eq (s.fleet.instance?_put_self hd _), Fleet.journal_eq hd]
  · simp only [step, heq, Fleet.slot_put]
  · simp only [step, heq, Fleet.owner?_put, h.owner]

/-- Draining only moves the end of the history out of the journal. -/
lemma Sound.drain (h : s.Sound slot) : Kept slot s (s.step .drain) := by
  obtain ⟨d, hd⟩ := h.instance?
  have heq := s.fleet.drain_eq hd
  refine h.of_fleet rfl rfl rfl ?_ ?_ ?_
  · simp only [history, step, heq]
    rw [Fleet.journal_eq (s.fleet.instance?_put_self hd _), Fleet.journal_eq hd]
    simp
  · simp only [step, heq, Fleet.slot_put]
  · simp only [step, heq, Fleet.owner?_put, h.owner]

lemma Sound.elsewhere (h : s.Sound slot) (fleet : Fleet) :
    Kept slot s (s.step (.elsewhere fleet)) := by
  by_cases hu : s.Undisturbed fleet
  · have heq : s.step (.elsewhere fleet) = { s with fleet } := if_pos hu
    rw [heq]
    refine h.of_fleet rfl rfl rfl ?_ (by rw [hu.1]) (hu.2 slot h.owner)
    simp only [history, Fleet.journal, Fleet.instance?, hu.1]
  · have heq : s.step (.elsewhere fleet) = s := if_neg hu
    rw [heq]
    exact h.of_fleet rfl rfl rfl rfl rfl h.owner

/-- **One move** keeps the books and the settings, and adds calls to the history as it should. -/
lemma Sound.step (h : s.Sound slot) (m : Move) : Kept slot s (s.step m) := by
  cases m with
  | perform o => exact h.perform o
  | configure change => exact h.configure change
  | drain => exact h.drain
  | elsewhere fleet => exact h.elsewhere fleet

lemma sound_start (f : Fleet) (options : Options) (n : Nat) (settings : Settings) :
    (start f options n settings).Sound f.nextSlot where
  placed := by simp [start, f.getElem?_install]
  owner := f.owner?_install options
  resolver := rfl
  linked := Bridge.linked_of n _ settings f.nextSlot
  books := by
    have hh : (start f options n settings).history = [] := by
      simp [history, start, Fleet.journal, Fleet.instance?, f.getElem?_install, Instance.fresh]
    rw [hh]
    exact ⟨fun _ => rfl, fun hne => absurd rfl hne, by simp [start, Bridge.of, Bridge.heap?,
      Bridge.device?]⟩

/-- **A whole run** keeps the books and the settings. -/
lemma sound_after (f : Fleet) (options : Options) (n : Nat) (settings : Settings)
    (moves : List Move) :
    ((start f options n settings).after moves).Sound f.nextSlot ∧
      ((start f options n settings).after moves).bridge.settings = settings := by
  induction moves using List.reverseRecOn with
  | nil => exact ⟨sound_start f options n settings, rfl⟩
  | append_singleton moves m ih =>
    have hkept := ih.1.step m
    rw [after_append_singleton]
    exact ⟨hkept.sound, hkept.settings.trans ih.2⟩

end Run

end Offload
