import Offload.Proofs.Run.Books

/-!
The order of calls on a device that one bridge uses alone, whatever the bridge is asked to do and
however the device's options change meanwhile.

Only a launch pushes and executes, and it executes right behind a clearing and all of its pushes.
So no execution carries an argument that an earlier launch left in the queue, or misses one.
-/

namespace Offload

open Simulator Bridge

namespace Run

/-- A property of calls, given the calls before them, that holds outside of launches and in every
launch over good books, holds throughout the history. -/
lemma throughout_after {P : List Call → Call → Prop} {settings : Settings}
    (hquiet : ∀ before c, c.isLaunch = false → P before c)
    (hlaunch : ∀ b h tried launched, Books b h tried → b.settings = settings →
      Launches b launched → Throughout (fun before => P (h ++ before)) launched)
    (f : Fleet) (options : Options) (n : Nat) (moves : List Move) :
    Throughout P ((start f options n settings).after moves).history := by
  induction moves using List.reverseRecOn with
  | nil =>
    have hempty : ((start f options n settings).after []).history = [] :=
      (sound_start f options n settings).books.fresh rfl
    rw [hempty]
    exact throughout_nil P
  | append_singleton moves m ih =>
    obtain ⟨hsound, hset⟩ := sound_after f options n settings moves
    obtain ⟨-, ⟨quiet, launched, hh, hq, hb, hl⟩, hset'⟩ := hsound.step m
    rw [after_append_singleton, hh, ← List.append_assoc]
    -- a launch comes last in its move, over the books as the rest of the move left them
    refine (ih.append (throughout_of_forall fun c hc before => hquiet _ c (hq c hc))).append ?_
    exact hlaunch _ _ _ _ hb (hset'.trans hset) hl

/-- The clearing and the pushes that an execution must have right before it. -/
def Complete (before : List Call) (c : Call) : Prop :=
  ∀ kernel dim args, c = .execute kernel dim args →
    (.clearArgs kernel :: args.map (.push kernel)) <:+ before

lemma complete_sequence {kernel : String} {args : List Pushed} {calls : List Call}
    (hs : Sequence kernel args calls) (h : List Call) :
    Throughout (fun before => Complete (h ++ before)) calls := by
  have hfront : ∀ done : List Pushed, Throughout (fun before => Complete (h ++ before))
      (.clearArgs kernel :: done.map (.push kernel)) := by
    refine fun done => throughout_of_forall fun c hc before kernel' dim args' heq => ?_
    subst heq
    simp at hc
  cases hs with
  | broken done rest => exact hfront done
  | whole dim =>
    refine (hfront args).append (throughout_singleton ?_)
    intro kernel' dim' args' heq
    obtain ⟨rfl, rfl, rfl⟩ := Call.execute.inj heq
    simp

/-- **Protocol safety**: a device that one bridge uses alone is called as it must be. No call
comes before the context is created; every execution has its clearing and exactly its pushes right
before it; and a move that executes leaves the registration that was tried last a success. -/
theorem protocol_safe (f : Fleet) (options : Options) (n : Nat) (settings : Settings)
    (moves : List Move) :
    let s := (start f options n settings).after moves
    (s.history = [] ∨ s.history.head? = some .createContext) ∧
    Throughout Complete s.history ∧
    ∀ m, ∃ new, (s.step m).history = s.history ++ new ∧
      ∀ kernel dim args, .execute kernel dim args ∈ new →
        ∃ r, (s.step m).tried = some (r, true) := by
  intro s
  obtain ⟨hsound, -⟩ := sound_after f options n settings moves
  refine ⟨?_, ?_, fun m => ?_⟩
  · by_cases hu : s.bridge.device = .undecided
    · exact .inl (hsound.books.fresh hu)
    · exact .inr (hsound.books.begun hu)
  · refine throughout_after (fun before c hc kernel dim args heq => ?_)
      (fun b h tried launched _ _ hl => ?_) f options n moves
    · subst heq
      simp [Call.isLaunch] at hc
    · cases hl with
      | none => exact throughout_nil _
      | calls _ _ _ _ _ _ _ hs => exact complete_sequence hs h
  · obtain ⟨-, ⟨quiet, launched, hh, hq, hb, hl⟩, -⟩ := hsound.step m
    refine ⟨_, hh, fun kernel dim args hmem => ?_⟩
    rcases List.mem_append.1 hmem with hmem | hmem
    · simpa [Call.isLaunch] using hq _ hmem
    · cases hl with
      | none => simp at hmem
      | calls region _ _ _ _ hheap => exact ⟨region, (hb.heap region hheap).2⟩

/-- A first offload executes, over the registration that it has just tried. -/
theorem protocol_safe_offload :
    let s := start .empty {} 0 .default
    let m : Move := .perform (.offload
      ⟨⟨[1], "k", by decide, by decide⟩, ⟨[.object, .int], false, none⟩, [.object 4096, .int 7], 16⟩
      ⟨4096, 64⟩)
    .execute "k" 16 [.object 4096, .int 7] ∈ (s.step m).history ∧
      ∃ r, (s.step m).tried = some (r, true) := by
  intro s m
  have hexec : .execute "k" 16 [.object 4096, .int 7] ∈ (s.step m).history := by decide +kernel
  obtain ⟨-, -, hmoves⟩ := protocol_safe .empty {} 0 .default []
  obtain ⟨new, hnew, htried⟩ := hmoves m
  have hempty : (Run.after s []).history = [] := by decide +kernel
  rw [hempty, List.nil_append] at hnew
  exact ⟨hexec, htried _ _ _ (hnew ▸ hexec)⟩

end Run

end Offload
