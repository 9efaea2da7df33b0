import Offload.Proofs.Bridge.Operation

/-!
Runs of a bridge that is the only user of its simulated device.

The history of the device is what was drained from its journal so far, followed by what the journal
holds. The bridge's books are kept beside it: they say what the history must look like for the
bridge to be as it is.
-/

namespace Offload

open Simulator

/-- A bridge with its device, somewhere in a run. -/
structure Run where
  bridge : Bridge
  fleet : Fleet
  sim : Nat
  drained : List Call
  /-- The registration that the bridge tried last, and whether it succeeded. -/
  tried : Option (Region × Bool)

inductive Move
  | perform (o : Operation)
  | configure (change : Options → Options)
  | drain
  /-- Whatever else happens to the fleet, if it leaves the device and its slot alone. -/
  | elsewhere (fleet : Fleet)

namespace Run

/-- A device is installed among others, and a bridge made on it. -/
def start (f : Fleet) (options : Options) (n : Nat) (settings : Settings) : Run :=
  ⟨.of n (.simulated f.cells.size) settings, f.install options, f.cells.size, [], none⟩

/-- Whether a fleet has the same device, reached through the same slots. -/
def Undisturbed (s : Run) (f : Fleet) : Prop :=
  f.cells[s.sim]? = s.fleet.cells[s.sim]? ∧
    ∀ slot : Slot, s.fleet.owner? slot = some s.sim → f.owner? slot = some s.sim

instance (s : Run) (f : Fleet) : Decidable (s.Undisturbed f) :=
  inferInstanceAs (Decidable (_ ∧ _))

def step (s : Run) : Move → Run
  | .perform o =>
    let scene := Scene.of s.bridge s.fleet
    let scene' := (o.outcome scene).2
    { s with
      bridge := scene'.bridge
      fleet := scene'.fleet
      tried := (o.tried? scene).or s.tried }
  | .configure change => { s with fleet := s.fleet.configure s.sim change }
  | .drain =>
    let (calls, fleet) := s.fleet.drain s.sim
    { s with fleet, drained := s.drained ++ calls.toList }
  | .elsewhere fleet => if s.Undisturbed fleet then { s with fleet } else s

def after (s : Run) (moves : List Move) : Run := moves.foldl step s

def history (s : Run) : List Call := s.drained ++ (s.fleet.journal s.sim).toList

lemma after_append_singleton (s : Run) (moves : List Move) (m : Move) :
    s.after (moves ++ [m]) = (s.after moves).step m := by
  simp [after, List.foldl_append]

end Run

/-! ### Histories -/

/-- Every call of a history is such, given the calls before it. -/
def Throughout (P : List Call → Call → Prop) (h : List Call) : Prop :=
  ∀ before c rest, h = before ++ c :: rest → P before c

lemma throughout_nil (P : List Call → Call → Prop) : Throughout P [] := by
  intro before c rest h
  simp at h

lemma throughout_of_forall {P : List Call → Call → Prop} {h : List Call}
    (hp : ∀ c ∈ h, ∀ before, P before c) : Throughout P h := by
  rintro before c rest rfl
  exact hp c (by simp) before

lemma throughout_singleton {P : List Call → Call → Prop} {c : Call} (hp : P [] c) :
    Throughout P [c] := by
  intro before c' rest h
  cases before with
  | nil =>
    obtain ⟨rfl, -⟩ := List.cons.inj h
    exact hp
  | cons a before => simp at h

lemma Throughout.append {P : List Call → Call → Prop} {h new : List Call} (hh : Throughout P h)
    (hn : Throughout (fun before => P (h ++ before)) new) : Throughout P (h ++ new) := by
  intro before c rest heq
  rcases List.append_eq_append_iff.1 heq with ⟨front, rfl, hnew⟩ | ⟨back, rfl, hrest⟩
  · exact hn front c rest hnew
  · cases back with
    | nil => simpa using hn [] c rest (by simpa using hrest.symm)
    | cons c' back =>
      obtain ⟨rfl, rfl⟩ := List.cons.inj hrest
      exact hh before c back rfl

def Simulator.Call.region? : Call → Option Region
  | .registerHeap base size => some ⟨base, size⟩
  | _ => none

/-- The region that the device was told last. -/
def registered? (h : List Call) : Option Region := (h.filterMap Call.region?).getLast?

lemma registered?_append (h new : List Call) :
    registered? (h ++ new) = (registered? new).or (registered? h) := by
  simp [registered?, List.getLast?_append]

lemma registered?_of_isLaunch {new : List Call} (h : ∀ c ∈ new, c.isLaunch = true) :
    registered? new = none := by
  have hnone : new.filterMap Call.region? = [] := by
    refine List.filterMap_eq_nil_iff.2 fun c hc => ?_
    have hl := h c hc
    cases c <;> simp_all [Call.isLaunch, Call.region?]
  rw [registered?, hnone]
  rfl

end Offload
