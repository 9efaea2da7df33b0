import Offload.Proofs.Marshal.Validation
import Offload.Proofs.Run.Protocol

/-!
The object references that reach a device which one bridge uses alone and checks them for.

A launch is checked against the region that the bridge holds active. By the books that is the
region the device was told last, and no launch tells it another.
-/

namespace Offload

open Simulator Bridge

/-- The arguments that a call hands over or reports. -/
def Simulator.Call.pushed : Call → List Pushed
  | .push _ arg => [arg]
  | .execute _ _ args => args
  | _ => []

namespace Marshal

variable {s : Signature} {args : List Value} {heap : Region}

/-- What passes the check of references refers into the region. -/
lemma spans_of_validate (h : validate s args heap true = .ok ()) {a : UInt64}
    (ha : .object a ∈ args) (hne : a ≠ 0) : heap.Spans a := by
  obtain ⟨hlen, hsound⟩ := validate_eq_ok_iff.1 h
  obtain ⟨i, hv⟩ := List.getElem?_of_mem ha
  have hslots : i < s.slots.length := by
    rw [Signature.length_slots, ← hlen]
    exact (List.getElem?_eq_some_iff.1 hv).1
  refine (Region.contains_iff_spans.1 ?_).1
  by_contra hout
  exact hsound i ⟨_, _, List.getElem?_eq_getElem hslots, hv,
    .inr (.inr ⟨rfl, a, rfl, hne, Bool.eq_false_iff.2 hout⟩)⟩

end Marshal

lemma Value.eq_object_of_pushed {v : Value} {a : UInt64} (h : v.pushed = .object a) :
    v = .object a := by
  cases v <;> simp_all [Value.pushed]

lemma Bridge.Sequence.pushed_subset {kernel : String} {args : List Pushed} {calls : List Call}
    (hs : Sequence kernel args calls) : ∀ c ∈ calls, c.pushed ⊆ args := by
  intro c hc
  obtain rfl | ⟨arg, harg, rfl⟩ | ⟨dim, rfl⟩ := hs.cases_of_mem hc
  · exact List.nil_subset args
  · exact List.cons_subset.2 ⟨harg, List.nil_subset args⟩
  · exact List.Subset.refl args

namespace Run

/-- Every reference in a call is null or lies in the region that the device was told last. -/
def Registered (before : List Call) (c : Call) : Prop :=
  ∀ a, .object a ∈ c.pushed → a = 0 ∨ ∃ r, registered? before = some r ∧
    r.base.toNat ≤ a.toNat ∧ a.toNat - r.base.toNat < r.size.toNat

/-- **No stray references**: a device that one checking bridge uses alone receives no reference
outside the region that it was told last. -/
theorem references_registered (f : Fleet) (options : Options) (n : Nat) (settings : Settings)
    (hv : settings.verifyObjects = true) (moves : List Move) :
    Throughout Registered ((start f options n settings).after moves).history := by
  refine throughout_after (P := Registered) (fun before c hc a ha => ?_)
    (fun b h tried launched hb hset hl before c rest heq a ha => ?_) f options n moves
  · cases c <;> simp_all [Call.isLaunch, Call.pushed]
  · by_cases hne : a = 0
    · exact .inl hne
    refine .inr ?_
    have hlaunch := hl.isLaunch
    cases hl with
    | none => simp at heq
    | calls region kernel args signature _ hheap hvalid hs =>
      have hmem : .object a ∈ args.map Value.pushed :=
        hs.pushed_subset c (by simp [heq]) ha
      obtain ⟨v, hmem, hobj⟩ := List.mem_map.1 hmem
      rw [Value.eq_object_of_pushed hobj] at hmem
      rw [hset, hv] at hvalid
      -- what the launch itself did before this call tells the device no region
      have hbefore : registered? before = none :=
        registered?_of_isLaunch fun c' hc' => hlaunch c' (by simp [heq, hc'])
      refine ⟨region, ?_, Marshal.spans_of_validate hvalid hmem hne⟩
      rw [registered?_append, hbefore]
      exact (hb.heap region hheap).1

/-- An offload hands over a reference, into the region that it registers. -/
theorem references_registered_offload :
    let m : Move := .perform (.offload
      ⟨⟨[1], "k", by decide, by decide⟩, ⟨[.object, .int], false, none⟩, [.object 4096, .int 7], 16⟩
      ⟨4096, 64⟩)
    let s := (start .empty {} 0 .default).after [m]
    .push "k" (.object 4096) ∈ s.history ∧ Throughout Registered s.history := by
  intro m s
  exact ⟨by decide +kernel, references_registered .empty {} 0 .default rfl [m]⟩

end Run

end Offload
