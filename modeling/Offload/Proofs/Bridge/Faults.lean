import Offload.Proofs.Bridge.Actions
import Offload.Proofs.Linkage.Table
import Offload.Proofs.Marshal.Validation

/-!
Which faults an action can end with.

What brings a device up fails fatally and nothing else does: loading and launching fail with
faults of one call, and leave the bridge as it was. Only an execution fails as an execution.
-/

namespace Offload

open Simulator (EntryPoint Fleet Handle)

/-- A failed execution is not fatal. -/
lemma Fault.notExecuted_of_isFatal {e : Fault} (h : e.isFatal = true) : e.notExecuted = true := by
  cases e <;> simp_all [Fault.isFatal, Fault.notExecuted]

namespace Action

variable {β γ : Type}

/-- An action that fails only fatally. -/
def Grave (a : Action β) : Prop :=
  ∀ s, a.Ends s fun r _ => ∀ e, faultOf r = some e → e.isFatal = true

/-- An action that leaves the bridge alone and fails only for its own call. -/
def Mild (a : Action β) : Prop :=
  ∀ s, a.Ends s fun r s' => s'.bridge = s.bridge ∧ ∀ e, faultOf r = some e → e.isFatal = false

lemma Mild.bind {a : Action β} {f : β → Action γ} (h : a.Mild) (hf : ∀ b, (f b).Mild) :
    (a >>= f).Mild := by
  intro s
  refine Ends.bind ((h s).mono fun r s' hr => ?_)
  obtain ⟨hb, he⟩ := hr
  cases r with
  | ok b => exact (hf b s').mono fun r' s'' hr' => ⟨hr'.1.trans hb, hr'.2⟩
  | error e => exact ⟨hb, he⟩

lemma mild_pure (b : β) : (pure b : Action β).Mild :=
  fun s => ends_of_ok (pure_apply b s) ⟨rfl, by simp⟩

lemma mild_of_onDevice {a : Action β} {P : Scene → Fault → Prop} (h : ∀ s, a.OnDevice s (P s))
    (hp : ∀ s e, P s e → e.isFatal = false) : a.Mild :=
  fun s => Ends.mono (h s) fun _ _ hr => ⟨hr.1, fun e he => hp s e (hr.2.2 e he)⟩

lemma mild_throw {e : Fault} (he : e.isFatal = false) : (throw e : Action β).Mild :=
  fun s => ends_of_error (throw_apply e s) ⟨rfl, fun _ h => Option.some.inj h ▸ he⟩

end Action

namespace Bridge

open Offload.Action

lemma ensureTable_grave : ensureTable.Grave := by
  intro s
  rcases ht : s.bridge.table with _ | t
  · rcases hl : (s.bridge.resolver.attempt s.fleet s.bridge.attempts).answers.link.1 with e | t
    · obtain ⟨notices, heq⟩ := ensureTable_of_not_linked ht hl
      refine ends_of_error heq fun e' he' => ?_
      rw [← Option.some.inj he']
      exact Answers.isFatal_of_link hl
    · obtain ⟨notices, heq⟩ := ensureTable_of_linked ht hl
      exact ends_of_ok heq (by simp)
  · exact ends_of_ok (ensureTable_of_bound ht) (by simp)

lemma createDevice_grave (t : Table EntryPoint) : (createDevice t).Grave := by
  intro s
  rcases hn : (s.fleet.createContext t.createContext).1.isNull
  · rcases hq : t.totalCores with _ | query
    · obtain ⟨notices, heq⟩ := createDevice_of_not_queried hn hq
      exact ends_of_ok heq (by simp)
    · obtain ⟨notices, heq⟩ := createDevice_of_queried hn hq
      exact ends_of_ok heq (by simp)
  · obtain ⟨notices, heq⟩ := createDevice_of_null hn
    exact ends_of_error heq (by simp [Fault.isFatal])

lemma connect_grave : connect.Grave := by
  intro s
  have htable := ensureTable_grave s
  unfold Ends at htable ⊢
  rw [connect_apply]
  rcases he : ensureTable s with ⟨t, s1⟩ | ⟨e, s1⟩ <;> simp only [he] at htable ⊢
  · rcases s1.bridge.device with _ | _ | d
    · exact createDevice_grave t s1
    · simp [Fault.isFatal]
    · simp
  · exact htable

variable {d : Device} {k : Kernel}

lemma registerOn_grave (region : Region) : (registerOn d region).Grave := by
  intro s
  rcases he : region.isEmpty
  · rcases ha : (s.fleet.registerHeap d.table.registerHeap region.base region.size).1
    · obtain ⟨notices, heq⟩ := registerOn_of_rejected he ha
      exact ends_of_error heq (by simp [Fault.isFatal])
    · obtain ⟨notices, heq⟩ := registerOn_of_accepted he ha
      exact ends_of_ok heq (by simp)
  · exact ends_of_error (registerOn_of_isEmpty he) (by simp [Fault.isFatal])

lemma loadOn_mild (code : Code) : (loadOn d code).Mild :=
  mild_of_onDevice (loadOn_onDevice code) fun _ _ he => he ▸ rfl

end Bridge

/-- A fault of one call, and of a call that did not come to its execution. -/
def Fault.IsRefusal (e : Fault) : Prop := e.isFatal = false ∧ e.notExecuted = true

/-- Whether a fault is about the arguments of a launch. -/
def Fault.blamesArguments : Fault → Bool
  | .argumentCount _ _ | .argumentMismatch _ _ _ | .nullReceiver | .unregisteredObject _ _ => true
  | _ => false

namespace Marshal

variable {s : Signature} {args : List Value} {heap : Region} {verify : Bool} {e : Fault}

lemma Blames.blamesArguments {i : Nat} (h : Blames s args heap verify i e) :
    e.blamesArguments = true := by
  cases h <;> rfl

lemma blamesArguments_of_validate (h : validate s args heap verify = .error e) :
    e.blamesArguments = true := by
  by_cases hlen : args.length = s.arity
  · obtain ⟨i, he, -⟩ := (validate_eq_error_iff hlen).1 h
    exact (blames_iff.2 he).blamesArguments
  · rw [validate_of_length_ne hlen] at h
    exact Except.error.inj h ▸ rfl

end Marshal

namespace Bridge

open Offload.Action

variable {d : Device} {k : Kernel} {s : Scene} {dim : Int32} {args : List Value}
  {signature : Signature}

/-- What a check can find: the extent, the signature, the heap, or the arguments. -/
lemma of_check_eq_error {e : Fault} (h : check s k dim args signature = .error e) :
    e = .invalidRange dim ∨ (∃ reason, e = .unsupportedSignature reason) ∨
      e = .heapNotRegistered ∨ e.blamesArguments = true := by
  rw [check_apply] at h
  split at h
  · split at h
    · split at h
      · exact .inr (.inr (.inl (Except.error.inj h).symm))
      · rename_i region _
        rcases hm : Marshal.validate signature args region s.bridge.settings.verifyObjects with
          e' | u <;> rw [hm] at h
        · obtain rfl := Except.error.inj h
          exact .inr (.inr (.inr (Marshal.blamesArguments_of_validate hm)))
        · cases h
    · exact .inr (.inl ⟨_, (Except.error.inj h).symm⟩)
  · exact .inl (Except.error.inj h).symm

lemma isRefusal_of_check {e : Fault} (h : check s k dim args signature = .error e) :
    e.IsRefusal := by
  rcases of_check_eq_error h with rfl | ⟨reason, rfl⟩ | rfl | hargs
  · exact ⟨rfl, rfl⟩
  · exact ⟨rfl, rfl⟩
  · exact ⟨rfl, rfl⟩
  · cases e <;> first | exact ⟨rfl, rfl⟩ | cases hargs

lemma launchOn_mild (dim : Int32) (args : List Value) (signature : Signature) :
    (launchOn d k dim args signature).Mild := by
  refine mild_of_onDevice (launchOn_onDevice dim args signature) fun s e he => ?_
  rcases he with hc | rfl | ⟨i, kind, rfl⟩ | rfl
  · exact (isRefusal_of_check hc).1
  · rfl
  · rfl
  · rfl

lemma serve_mild (request : Request) : (serve d request).Mild :=
  (loadOn_mild request.code).bind fun _ =>
    (launchOn_mild request.dim request.args request.signature).bind fun _ => mild_pure ()

end Bridge

end Offload
