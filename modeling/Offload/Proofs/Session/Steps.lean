import Offload.Proofs.Session.Reachable

/-!
Steps of a session as operations of its bridges, and sessions after any steps at all.

A step is an operation of one bridge, or it is none of any. In either case every bridge but one is
left as it is.
-/

namespace Offload

open Simulator

namespace Session

/-- The operation that a step performs, and the bridge that it is performed on. -/
def Step.operation? (s : Session) : Step → Option (Nat × Operation)
  | .link i => some (i, .link)
  | .connect i => some (i, .connect)
  | .totalCores i => some (i, .totalCores)
  | .registerHeap i region => some (i, .registerHeap region)
  | .loadKernel i name code =>
    match Code.of code name with
    | .ok code => some (i, .loadKernel code)
    | .error _ => none
  | .launch j through signature args dim =>
    match signature.signature, s.kernel? j with
    | .ok signature, some k => some (through.getD k.owner, .launch k dim args signature)
    | _, _ => none
  | .offload i signature args dim name code heap =>
    match signature.signature, Code.of code name with
    | .ok signature, .ok code => some (i, .offload ⟨code, signature, args, dim⟩ heap)
    | _, _ => none
  | _ => none

def afterAll (s : Session) (steps : List Step) : Session :=
  steps.foldl (fun s st => (s.step st).2) s

def AllowsAll (s : Session) : List Step → Prop
  | [] => True
  | st :: steps => s.allows st = true ∧ (s.step st).2.AllowsAll steps

instance AllowsAll.decidable : (s : Session) → (steps : List Step) → Decidable (s.AllowsAll steps)
  | _, [] => .isTrue trivial
  | s, st :: steps =>
    have := AllowsAll.decidable (s.step st).2 steps
    inferInstanceAs (Decidable (s.allows st = true ∧ (s.step st).2.AllowsAll steps))

variable {s : Session} {i j : Nat} {seat seat' : Seat} {o : Operation} {st : Step}

lemma afterAll_concat (s : Session) (steps : List Step) (st : Step) :
    s.afterAll (steps ++ [st]) = ((s.afterAll steps).step st).2 := by
  simp [afterAll, List.foldl_append]

lemma allowsAll_concat (s : Session) (steps : List Step) (st : Step) :
    s.AllowsAll (steps ++ [st]) ↔ s.AllowsAll steps ∧ (s.afterAll steps).allows st = true := by
  induction steps generalizing s with
  | nil => simp [AllowsAll, afterAll]
  | cons first steps ih =>
    rw [List.cons_append, AllowsAll, AllowsAll, ih, and_assoc]
    rfl

lemma Reachable.afterAll (h : Reachable (fun _ => True) s) (steps : List Step)
    (ha : s.AllowsAll steps) : Reachable (fun _ => True) (s.afterAll steps) := by
  induction steps generalizing s with
  | nil => exact h
  | cons st steps ih => exact ih (.step h st ha.1 trivial) ha.2

lemma reachable_afterAll (n : Nat) (steps : List Step) (ha : (start n).AllowsAll steps) :
    Reachable (fun _ => True) ((start n).afterAll steps) :=
  (Reachable.start n trivial).afterAll steps ha

/-! ### Steps that are operations -/

/-- One session is the other after an operation of a bridge, up to the kernels. -/
structure Ran (s : Session) (i : Nat) (o : Operation) (s' : Session) : Prop where
  seats : ∀ j, s'.seat? j =
    if j = i then (s.seat? i).map fun seat =>
      { seat with bridge := (o.outcome (.of seat.bridge s.fleet)).2.bridge }
    else s.seat? j
  fleet : ∀ seat, s.seat? i = some seat →
    s'.fleet = (o.outcome (.of seat.bridge s.fleet)).2.fleet
  size : s'.seats.size = s.seats.size

/-- An action that leaves the scene of an operation changes the session as the operation does. -/
lemma ran_run {β : Type} {a : Action β}
    (ha : ∀ seat, s.seat? i = some seat →
      (a.outcome (.of seat.bridge s.fleet)).2 = (o.outcome (.of seat.bridge s.fleet)).2) :
    Ran s i o (s.run i a).2 := by
  rcases hi : s.seat? i with _ | seat
  · rw [run_of_absent hi]
    refine ⟨fun j => ?_, by simp [hi], rfl⟩
    split
    · rename_i hj
      rw [hj, hi, Option.map_none]
    · rfl
  · rw [run_of_seat hi]
    refine ⟨fun j => ?_, fun seat' hi' => ?_, by simp [Session.left]⟩
    · have hset : (s.left i seat (a.outcome (.of seat.bridge s.fleet)).2).seat? j = _ :=
        seat?_setIfInBounds rfl j
      rw [hset, hi, Option.map_some, ha seat hi]
      simp [lt_size_of_seat? hi]
    · obtain rfl := Option.some.inj (hi.symm.trans hi')
      exact congrArg Scene.fleet (ha seat hi)

lemma onBridge_snd {β : Type} (s : Session) (i : Nat) (a : Action β) (reply : β → Reply) :
    (s.onBridge i a reply).2 = (s.run i a).2 := by
  unfold onBridge
  rcases s.run i a with ⟨_ | ⟨r, notices, queries⟩, s'⟩ <;> rfl

lemma reply_onBridge {β : Type} {a : Action β} {g : β → Answer} (ha : o.action = g <$> a)
    (hi : s.seat? i = some seat) {e : Fault}
    (he : (o.outcome (.of seat.bridge s.fleet)).1 = .error e) (reply : β → Reply) :
    (s.onBridge i a reply).1.reply = .fault e := by
  rw [Operation.outcome_eq, ha, Action.outcome_map] at he
  unfold onBridge
  rw [run_of_seat hi]
  rcases hr : (a.outcome (.of seat.bridge s.fleet)).1 with e' | b <;> simp only [hr] at he ⊢
  · rw [Except.error.inj he]
  · cases he

lemma reply_loadStep {code : Code} (hi : s.seat? i = some seat) {e : Fault}
    (he : ((Operation.loadKernel code).outcome (.of seat.bridge s.fleet)).1 = .error e) :
    (s.loadStep i code).1.reply = .fault e := by
  rw [Operation.outcome_eq, Operation.action, Action.outcome_map] at he
  simp only [loadStep, run_of_seat hi]
  rcases hr : ((Bridge.loadKernel code).outcome (.of seat.bridge s.fleet)).1 with e' | k <;>
    simp only [hr] at he ⊢
  · rw [Except.error.inj he]
  · cases he

lemma ran_onBridge {β : Type} {a : Action β} {g : β → Answer} (ha : o.action = g <$> a) (i : Nat)
    (reply : β → Reply) : Ran s i o (s.onBridge i a reply).2 := by
  rw [onBridge_snd]
  exact ran_run fun _ _ => (Operation.outcome_of_action ha _).symm

lemma ran_loadStep (s : Session) (i : Nat) (code : Code) :
    Ran s i (.loadKernel code) (s.loadStep i code).2 := by
  have hran : Ran s i (.loadKernel code) (s.run i (Bridge.loadKernel code)).2 :=
    ran_run fun _ _ => (Operation.outcome_of_action (o := .loadKernel code) rfl _).symm
  unfold loadStep
  rcases hr : s.run i (Bridge.loadKernel code) with ⟨_ | ⟨e | k, notices, queries⟩, s'⟩ <;>
    rw [hr] at hran
  · exact hran
  · exact hran
  · exact ⟨hran.seats, hran.fleet, hran.size⟩

lemma Sound.ran_launchStep (h : s.Sound) (j : Nat) (k : Kernel) (through : Option Nat)
    (signature : Signature) (args : List Value) (dim : Int32) :
    Ran s (through.getD k.owner) (.launch k dim args signature)
      (s.launchStep j k through signature args dim).2 := by
  cases through with
  | none =>
    have hran : Ran s k.owner (.launch k dim args signature)
        (s.run k.owner (directLaunch k dim args signature)).2 := by
      refine ran_run fun seat hi => ?_
      have hnumber : (Scene.of seat.bridge s.fleet).bridge.id = k.owner :=
        (h.seats _ seat hi).number
      rw [directLaunch_outcome hnumber,
        ← Operation.outcome_of_action (o := .launch k dim args signature) rfl]
    unfold launchStep
    simp only [Option.getD_none, directLaunch_eq]
    rcases hr : s.run k.owner (directLaunch k dim args signature) with
      ⟨_ | ⟨e | k', notices, queries⟩, s'⟩ <;> rw [hr] at hran
    · exact hran
    · exact hran
    · exact ⟨hran.seats, hran.fleet, hran.size⟩
  | some i =>
    have hran : Ran s i (.launch k dim args signature)
        (s.run i (Bridge.launch k dim args signature)).2 :=
      ran_run fun _ _ =>
        (Operation.outcome_of_action (o := .launch k dim args signature) rfl _).symm
    unfold launchStep
    simp only [Option.getD_some]
    rcases hr : s.run i (Bridge.launch k dim args signature) with
      ⟨_ | ⟨e | k', notices, queries⟩, s'⟩ <;> rw [hr] at hran
    · exact hran
    · exact hran
    · exact ⟨hran.seats, hran.fleet, hran.size⟩

/-- How a bridge performs an operation in a session: loads and launches also keep the kernel. -/
inductive Performs (s : Session) : Nat → Operation → Report × Session → Prop
  | answered {β : Type} {i : Nat} {o : Operation} {a : Action β} {g : β → Answer}
      (ha : o.action = g <$> a) (reply : β → Reply) : Performs s i o (s.onBridge i a reply)
  | loaded (i : Nat) (code : Code) : Performs s i (.loadKernel code) (s.loadStep i code)
  | launched (j : Nat) (k : Kernel) (through : Option Nat) (signature : Signature)
      (args : List Value) (dim : Int32) : Performs s (through.getD k.owner)
        (.launch k dim args signature) (s.launchStep j k through signature args dim)

lemma performs_of_operation (ho : st.operation? s = some (i, o)) :
    Performs s i o (s.perform st) := by
  cases st with
  | link j | connect j | totalCores j | registerHeap j region =>
    obtain ⟨rfl, rfl⟩ := Prod.mk.inj (Option.some.inj ho)
    exact .answered rfl _
  | loadKernel j name code =>
    simp only [Step.operation?, perform] at ho ⊢
    split at ho
    · rename_i code' hcode
      obtain ⟨rfl, rfl⟩ := Prod.mk.inj (Option.some.inj ho)
      rw [hcode]
      exact .loaded j code'
    · cases ho
  | launch j through signature args dim =>
    simp only [Step.operation?, perform] at ho ⊢
    split at ho
    · rename_i signature' k hs hk
      obtain ⟨rfl, rfl⟩ := Prod.mk.inj (Option.some.inj ho)
      rw [hs, hk]
      exact .launched j k through signature' args dim
    · cases ho
  | offload j signature args dim name code heap =>
    simp only [Step.operation?, perform] at ho ⊢
    split at ho
    · rename_i signature' code' hs hc
      obtain ⟨rfl, rfl⟩ := Prod.mk.inj (Option.some.inj ho)
      rw [hs, hc]
      exact .answered rfl _
    · cases ho
  | _ => cases ho

/-- A step that performs an operation changes the session as the operation does. -/
lemma Sound.ran_perform (h : s.Sound) (ho : st.operation? s = some (i, o)) :
    Ran s i o (s.perform st).2 := by
  have hperforms := performs_of_operation ho
  generalize s.perform st = performed at hperforms ⊢
  cases hperforms with
  | answered ha reply => exact ran_onBridge ha i reply
  | loaded _ code => exact ran_loadStep s i code
  | launched j k through signature args dim =>
    exact h.ran_launchStep j k through signature args dim

/-! ### Steps that are none -/

lemma seats_installMany (s : Session) (options : Options) (n : Nat) :
    (s.installMany options n).2.seats = s.seats := by
  induction n generalizing s with
  | zero => rfl
  | succ n ih => exact ih (s.install options)

lemma seats_release (s : Session) (sim : Nat) : (s.release sim).seats = s.seats := by
  unfold release
  split <;> rfl

/-- A step that performs no operation leaves every bridge as it is, but for one that it drops or
makes. -/
lemma seats_perform (ho : st.operation? s = none) :
    (s.perform st).2.seats = s.seats ∨
      (∃ i, (s.perform st).2.seats = s.seats.setIfInBounds i none) ∨
      ∃ resolver settings sim watched, (s.perform st).2.seats =
        s.seats.push (some ⟨.of s.seats.size resolver settings, sim, watched⟩) := by
  cases st with
  | install change count => exact .inl (seats_installMany s (change {}) count)
  | dropSim sim => exact .inl (seats_release _ sim)
  | bridgeOver sim settings => exact .inr (.inr ⟨_, settings, some sim, false, rfl⟩)
  | watchedBridge sim settings opens nulls => exact .inr (.inr ⟨_, settings, some sim, true, rfl⟩)
  | libraryBridge settings loads => exact .inr (.inr ⟨_, settings, none, false, rfl⟩)
  | dropBridge i =>
    refine .inr (.inl ⟨i, ?_⟩)
    simp only [perform, dropBridge]
    split
    · rw [seats_release]
    · rfl
  | configure sim change => exact .inl rfl
  | journal sim => exact .inl rfl
  | takeJournal sim => exact .inl rfl
  | exports sim names => exact .inl rfl
  | settings i =>
    left
    simp only [perform]
    split <;> rfl
  | status i =>
    left
    simp only [perform]
    split <;> rfl
  | kernelInfo j =>
    left
    simp only [perform]
    split <;> rfl
  | table sim =>
    left
    simp only [perform]
    split <;> rfl
  | call j call =>
    left
    simp only [perform]
    split <;> rfl
  | loadKernel i name code =>
    rcases hc : Code.of code name with e | code'
    · exact .inl (by simp only [perform, hc])
    · simp [Step.operation?, hc] at ho
  | launch j through signature args dim =>
    rcases hs : signature.signature with e | signature'
    · exact .inl (by simp only [perform, hs])
    rcases hk : s.kernel? j with _ | k
    · exact .inl (by simp only [perform, hs, hk])
    · simp [Step.operation?, hs, hk] at ho
  | offload i signature args dim name code heap =>
    rcases hs : signature.signature with e | signature'
    · exact .inl (by simp only [perform, hs])
    rcases hc : Code.of code name with e | code'
    · exact .inl (by simp only [perform, hs, hc])
    · simp [Step.operation?, hs, hc] at ho
  | _ => cases ho

lemma Sound.size_seats_le (h : s.Sound) (st : Step) :
    s.seats.size ≤ (s.step st).2.seats.size := by
  change s.seats.size ≤ (s.perform st).2.seats.size
  rcases ho : st.operation? s with _ | ⟨j, o⟩
  · rcases seats_perform ho with heq | ⟨j, heq⟩ | ⟨resolver, settings, sim, watched, heq⟩ <;>
      rw [heq]
    · rw [Array.size_setIfInBounds]
    · rw [Array.size_push]
      exact Nat.le_succ _
  · rw [(h.ran_perform ho).size]

/-- **One step**: a bridge is as it was, or has performed the operation of the step, or is new. -/
lemma Sound.seat?_step (h : s.Sound) (hi : (s.step st).2.seat? i = some seat') :
    (s.seat? i = some seat' ∧ ∀ o, st.operation? s ≠ some (i, o)) ∨
    (∃ seat o, s.seat? i = some seat ∧ st.operation? s = some (i, o) ∧
      seat' = { seat with bridge := (o.outcome (.of seat.bridge s.fleet)).2.bridge }) ∨
    (s.seats.size ≤ i ∧ ∃ resolver settings, seat'.bridge = .of i resolver settings) := by
  change (s.perform st).2.seat? i = some seat' at hi
  rcases ho : st.operation? s with _ | ⟨j, o⟩
  · have hstays : ∀ o, (none : Option (Nat × Operation)) ≠ some (i, o) := by simp
    rcases seats_perform ho with heq | ⟨j, heq⟩ | ⟨resolver, settings, sim, watched, heq⟩
    · rw [seat?, heq] at hi
      exact .inl ⟨hi, hstays⟩
    · rw [seat?_setIfInBounds heq] at hi
      split at hi
      · cases hi
      · exact .inl ⟨hi, hstays⟩
    · rw [seat?, heq, Array.getElem?_push] at hi
      split at hi
      · rename_i hnew
        obtain rfl := Option.some.inj hi
        exact .inr (.inr ⟨Nat.le_of_eq hnew.symm, resolver, settings, by rw [hnew]⟩)
      · exact .inl ⟨hi, hstays⟩
  · rw [(h.ran_perform ho).seats] at hi
    split at hi
    · rename_i hj
      subst hj
      obtain ⟨seat, hseat, rfl⟩ := Option.map_eq_some_iff.1 hi
      exact .inr (.inl ⟨seat, o, hseat, rfl, rfl⟩)
    · rename_i hj
      refine .inl ⟨hi, fun o' heq => ?_⟩
      exact hj (Prod.mk.inj (Option.some.inj heq)).1.symm

/-- A step whose operation fails is answered with the fault. A launch is left out, since on the
kernel's own device it may name another fault than through the bridge. -/
lemma reply_of_error (ho : st.operation? s = some (i, o)) (hi : s.seat? i = some seat) {e : Fault}
    (he : (o.outcome (.of seat.bridge s.fleet)).1 = .error e)
    (hl : ∀ k dim args signature, o ≠ .launch k dim args signature) :
    (s.step st).1.reply = .fault e := by
  change (s.perform st).1.reply = .fault e
  have hperforms := performs_of_operation ho
  generalize s.perform st = performed at hperforms ⊢
  cases hperforms with
  | answered ha reply => exact reply_onBridge ha hi he reply
  | loaded _ code => exact reply_loadStep hi he
  | launched j k through signature args dim => exact absurd rfl (hl k dim args signature)

end Session

end Offload
