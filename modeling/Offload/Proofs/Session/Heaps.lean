import Offload.Proofs.Run.Registrations
import Offload.Proofs.Session.Steps

/-!
The registered heap of a bridge in a session, after any steps at all.

A step is an operation of one bridge, or it is none of any. So the heap of a bridge moves by its
own operations alone, and of these only attempts to register move it; what it is at the end is the
outcome of the last of them, whatever else the session did in between.
-/

namespace Offload

open Simulator

namespace Session

/-- The attempt to register a heap that a bridge makes in a step. -/
def attempt? (s : Session) (i : Nat) (st : Step) : Option (Region × Bool) :=
  match st.operation? s, s.seat? i with
  | some (j, o), some seat => if j = i then o.attempt? (.of seat.bridge s.fleet) else none
  | _, _ => none

/-- All attempts that a bridge makes in these steps. -/
def attempts (s : Session) (i : Nat) : List Step → List (Region × Bool)
  | [] => []
  | st :: steps => (s.attempt? i st).toList ++ (s.step st).2.attempts i steps

variable {s : Session} {i j : Nat} {seat seat' : Seat} {o : Operation} {st : Step}

lemma attempts_concat (s : Session) (i : Nat) (steps : List Step) (st : Step) :
    s.attempts i (steps ++ [st]) =
      s.attempts i steps ++ ((s.afterAll steps).attempt? i st).toList := by
  induction steps generalizing s with
  | nil => simp [attempts, afterAll]
  | cons first steps ih =>
    rw [List.cons_append, attempts, attempts, ih, List.append_assoc]
    rfl

/-! ### The registered heap -/

lemma attempt?_of_operation (ho : st.operation? s = some (i, o)) (hi : s.seat? i = some seat) :
    s.attempt? i st = o.attempt? (.of seat.bridge s.fleet) := by
  rw [attempt?, ho, hi]
  exact if_pos rfl

lemma attempt?_of_absent (hi : s.seat? i = none) (st : Step) : s.attempt? i st = none := by
  rw [attempt?, hi]
  rcases st.operation? s with _ | ⟨j, o⟩ <;> rfl

lemma attempt?_of_size_le (hi : s.seats.size ≤ i) (st : Step) : s.attempt? i st = none := by
  have habsent : s.seat? i = none := by
    rw [seat?, Array.getElem?_eq_none hi]
    rfl
  exact attempt?_of_absent habsent st

lemma attempt?_of_ne (ho : ∀ o, st.operation? s ≠ some (i, o)) : s.attempt? i st = none := by
  rw [attempt?]
  rcases hst : st.operation? s with _ | ⟨j, o⟩
  · rfl
  have hj : j ≠ i := by
    rintro rfl
    exact ho o hst
  rcases s.seat? i with _ | seat
  · rfl
  · exact if_neg hj

/-- **One step**: the heap of a bridge is the outcome of the attempt that the bridge makes in it,
and without one it stays, or is none because the bridge is new. -/
lemma Sound.heap?_step (h : s.Sound) (hi : (s.step st).2.seat? i = some seat') :
    (∃ seat, s.seat? i = some seat ∧
      seat'.bridge.heap? = (s.attempt? i st).elim seat.bridge.heap? outcomeOf) ∨
    (s.seats.size ≤ i ∧ seat'.bridge.heap? = none) := by
  obtain ⟨hseat, ho⟩ | ⟨seat, o, hseat, ho, rfl⟩ | ⟨hsize, resolver, settings, hnew⟩ :=
    h.seat?_step hi
  · exact .inl ⟨seat', hseat, by rw [attempt?_of_ne ho, Option.elim_none]⟩
  · left
    obtain ⟨id, slot, hfits⟩ := (h.seats i seat hseat).exists_fits
    refine ⟨seat, hseat, ?_⟩
    rw [attempt?_of_operation ho hseat]
    exact (h.does hseat hfits o).heap?
  · exact .inr ⟨hsize, by rw [hnew]; rfl⟩

/-- **A whole run**: the heap of a bridge is the outcome of its last attempt; a bridge that is yet
to be made has made none. -/
lemma heap?_afterAll (n : Nat) (steps : List Step) (ha : (start n).AllowsAll steps) (i : Nat) :
    (∀ seat, ((start n).afterAll steps).seat? i = some seat →
      seat.bridge.heap? = ((start n).attempts i steps).getLast?.bind outcomeOf) ∧
    (((start n).afterAll steps).seats.size ≤ i → (start n).attempts i steps = []) := by
  induction steps using List.reverseRecOn with
  | nil =>
    refine ⟨fun seat hi => ?_, fun _ => rfl⟩
    simp [afterAll, start, empty, seat?] at hi
  | append_singleton steps st ih =>
    have hbefore := ((allowsAll_concat _ steps st).1 ha).1
    have hsound := (reachable_afterAll n steps hbefore).sound
    obtain ⟨hheap, hnone⟩ := ih hbefore
    rw [afterAll_concat, attempts_concat]
    refine ⟨fun seat' hi => ?_, fun hsize => ?_⟩
    · rcases hsound.heap?_step hi with ⟨seat, hseat, heq⟩ | ⟨hsize, heq⟩
      · rw [heq, hheap seat hseat]
        rcases ((start n).afterAll steps).attempt? i st with _ | a
        · simp
        · simp
      · rw [heq, hnone hsize, attempt?_of_size_le hsize]
        rfl
    · have hsize' := Nat.le_trans (hsound.size_seats_le st) hsize
      rw [hnone hsize', attempt?_of_size_le hsize']
      rfl

/-! ### Replies -/

/-- An attempt over no region is answered with the fault that names it. -/
lemma reply_of_isEmpty {r : Region} {accepted : Bool}
    (ha : s.attempt? i st = some (r, accepted)) (he : r.isEmpty = true) :
    (s.step st).1.reply = .fault (.heapRegistration r.base r.size) := by
  rcases hi : s.seat? i with _ | seat
  · rw [attempt?_of_absent hi] at ha
    cases ha
  by_cases ho : ∃ o, st.operation? s = some (i, o)
  · obtain ⟨o, ho⟩ := ho
    rw [attempt?_of_operation ho hi] at ha
    refine reply_of_error ho hi (Operation.outcome_of_isEmpty ha he) ?_
    rintro k dim args signature rfl
    cases ha
  · rw [attempt?_of_ne (not_exists.1 ho)] at ha
    cases ha

/-- **The last attempt**: in every session, the heap of a bridge is registered if and only if the
bridge has attempted to register one, and the last attempt was over that region, which is one, and
was accepted. An operation of the bridge tells a device that has its slot of the region that it
attempts to register, if it attempts one, and of nothing else; an attempt over no region is
answered with the fault that names it; and any other step leaves the heap, also one that is an
operation of another bridge. -/
theorem heap_last_attempt (n : Nat) (steps : List Step) (ha : (start n).AllowsAll steps) {i : Nat}
    {seat : Seat} (hi : ((start n).afterAll steps).seat? i = some seat) :
    let s := (start n).afterAll steps
    (∀ r, seat.bridge.heap? = some r ↔
      ((start n).attempts i steps).getLast? = some (r, true) ∧ r.isEmpty = false) ∧
    (∀ st o, st.operation? s = some (i, o) → ∀ sim slot, seat.sim = some sim →
      s.fleet.cells[sim]?.map Cell.slot = some slot → s.fleet.owner? slot = some sim →
      (s.step st).2.fleet.registrations sim =
        s.fleet.registrations sim ++ (s.attempt? i st).elim [] fun x => x.1.told) ∧
    (∀ st r accepted, s.attempt? i st = some (r, accepted) → r.isEmpty = true →
      (s.step st).1.reply = .fault (.heapRegistration r.base r.size)) ∧
    ∀ st seat', s.attempt? i st = none → (s.step st).2.seat? i = some seat' →
      seat'.bridge.heap? = seat.bridge.heap? := by
  intro s
  have hsound : s.Sound := (reachable_afterAll n steps ha).sound
  have hlt : i < s.seats.size := lt_size_of_seat? hi
  refine ⟨fun r => ?_, fun st o ho sim slot hsim hslot hkeeps => ?_,
    fun st r accepted => reply_of_isEmpty, fun st seat' hnone hi' => ?_⟩
  · rw [(heap?_afterAll n steps ha i).1 seat hi, Option.bind_eq_some_iff]
    constructor
    · rintro ⟨a, hlast, hout⟩
      obtain ⟨rfl, hne⟩ := outcomeOf_eq_some_iff.1 hout
      exact ⟨hlast, hne⟩
    · rintro ⟨hlast, hne⟩
      exact ⟨(r, true), hlast, outcomeOf_eq_some_iff.2 ⟨rfl, hne⟩⟩
  · have hfits : seat.Fits s.fleet sim slot := Seat.fits_of_slot hsim hslot
    obtain ⟨hover, hlinked⟩ := (hsound.seats i seat hi).linked sim slot hfits
    have hfleet : (s.step st).2.fleet = (o.outcome (.of seat.bridge s.fleet)).2.fleet :=
      (hsound.ran_perform ho).fleet seat hi
    rw [hfleet, attempt?_of_operation ho hi]
    exact Operation.registrations_outcome (s := .of seat.bridge s.fleet) hlinked hover
      (fun _ => hfits.1) hkeeps o
  · rcases hsound.heap?_step hi' with ⟨seat₀, hseat₀, heq⟩ | ⟨hsize, -⟩
    · obtain rfl := Option.some.inj (hi.symm.trans hseat₀)
      rw [heq, hnone, Option.elim_none]
    · omega

/-- A heap is registered, and then another one that is rejected: none is left, and the next attempt
is over no region. -/
theorem heap_last_attempt_rejected :
    let steps := [.install id 1, .bridgeOver 0 .default, .connect 0, .registerHeap 0 ⟨4096, 64⟩,
      .configure 0 fun o => { o with failHeap := true }, .registerHeap 0 ⟨8192, 64⟩]
    let s := (start 0).afterAll steps
    let next := Step.registerHeap 0 ⟨4096, 0⟩
    ((start 0).attempts 0 steps).getLast? = some (⟨8192, 64⟩, false) ∧
      (∃ seat, s.seat? 0 = some seat ∧ seat.bridge.heap? = none) ∧
      (s.step next).2.fleet.registrations 0 = s.fleet.registrations 0 ∧
      (s.step next).1.reply = .fault (.heapRegistration 4096 0) := by
  intro steps s next
  have ha : (start 0).AllowsAll steps := by decide +kernel
  obtain ⟨seat, hi⟩ : ∃ seat, s.seat? 0 = some seat :=
    Option.isSome_iff_exists.1 (by decide +kernel)
  have hlast : ((start 0).attempts 0 steps).getLast? = some (⟨8192, 64⟩, false) := by
    decide +kernel
  have hnext : s.attempt? 0 next = some (⟨4096, 0⟩, false) := by decide +kernel
  obtain ⟨hheap, htold, hfault, -⟩ := heap_last_attempt 0 steps ha hi
  refine ⟨hlast, ⟨seat, hi, ?_⟩, ?_, hfault next _ _ hnext rfl⟩
  · refine Option.eq_none_iff_forall_ne_some.2 fun r hr => ?_
    have hr := ((hheap r).1 hr).1
    rw [hlast] at hr
    cases hr
  · have hsim : seat.sim = some 0 := by
      have hsim : (s.seat? 0).bind Seat.sim = some 0 := by decide +kernel
      rwa [hi] at hsim
    have hslot : s.fleet.cells[0]?.map Cell.slot = some 0 := by decide +kernel
    have howner : s.fleet.owner? 0 = some 0 := by decide +kernel
    rw [htold next _ rfl 0 0 hsim hslot howner, hnext]
    exact List.append_nil _

end Session

end Offload
