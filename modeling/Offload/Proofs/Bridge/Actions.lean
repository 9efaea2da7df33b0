import Mathlib.Tactic.Common
import Offload.Bridge.Launch

/-!
What each action of a bridge does in a scene, read off its definition.

`Ends` says how an action ends, whichever way: the answer or the fault, and the scene it leaves.
-/

namespace Offload

open Simulator (EntryPoint Fleet Handle)

/-- The fault of an ending, if it is one. -/
def faultOf {β : Type} : Except Fault β → Option Fault
  | .ok _ => none
  | .error e => some e

@[simp] lemma faultOf_ok {β : Type} (b : β) : faultOf (.ok b) = none := rfl

@[simp] lemma faultOf_error {β : Type} (e : Fault) :
    faultOf (.error e : Except Fault β) = some e := rfl

lemma eq_ok_of_faultOf {β : Type} {r : Except Fault β} (h : faultOf r = none) :
    ∃ b, r = .ok b := by
  cases r with
  | ok b => exact ⟨b, rfl⟩
  | error e => simp at h

lemma eq_error_of_faultOf {β : Type} {r : Except Fault β} {e : Fault} (h : faultOf r = some e) :
    r = .error e := by
  cases r with
  | ok b => simp at h
  | error e' => rw [Option.some.inj h]

namespace Action

open EStateM (Result)

variable {β γ : Type}

/-- However the action ends, the result and the scene it leaves are such. -/
def Ends (a : Action β) (s : Scene) (Q : Except Fault β → Scene → Prop) : Prop :=
  match a s with
  | .ok b s' => Q (.ok b) s'
  | .error e s' => Q (.error e) s'

/-- How an action ends in a scene, and the scene it leaves. -/
def outcome (a : Action β) (s : Scene) : Except Fault β × Scene :=
  match a s with
  | .ok b s' => (.ok b, s')
  | .error e s' => (.error e, s')

/-- Whether an action succeeds in a scene. -/
def succeeds (a : Action β) (s : Scene) : Bool :=
  match a s with
  | .ok _ _ => true
  | .error _ _ => false

lemma ends_iff {a : Action β} {s : Scene} {Q : Except Fault β → Scene → Prop} :
    a.Ends s Q ↔ Q (a.outcome s).1 (a.outcome s).2 := by
  unfold Ends outcome
  cases a s <;> exact Iff.rfl

lemma Ends.mono {a : Action β} {s : Scene} {Q R : Except Fault β → Scene → Prop}
    (h : a.Ends s Q) (hqr : ∀ r s', Q r s' → R r s') : a.Ends s R := by
  unfold Ends at h ⊢
  split <;> simp_all

lemma Ends.and {a : Action β} {s : Scene} {Q R : Except Fault β → Scene → Prop}
    (h : a.Ends s Q) (h' : a.Ends s R) : a.Ends s fun r s' => Q r s' ∧ R r s' := by
  unfold Ends at h h' ⊢
  split <;> simp_all

lemma Ends.bind {a : Action β} {f : β → Action γ} {s : Scene} {Q : Except Fault γ → Scene → Prop}
    (h : a.Ends s fun r s' =>
      match r with
      | .ok b => (f b).Ends s' Q
      | .error e => Q (.error e) s') :
    (a >>= f).Ends s Q := by
  unfold Ends at h ⊢
  change match EStateM.bind a f s with
    | .ok b s' => Q (.ok b) s'
    | .error e s' => Q (.error e) s'
  unfold EStateM.bind
  split at h <;> simp_all

lemma ends_of_ok {a : Action β} {s s' : Scene} {b : β} {Q : Except Fault β → Scene → Prop}
    (h : a s = .ok b s') (hq : Q (.ok b) s') : a.Ends s Q := by
  rwa [Ends, h]

lemma ends_of_error {a : Action β} {s s' : Scene} {e : Fault} {Q : Except Fault β → Scene → Prop}
    (h : a s = .error e s') (hq : Q (.error e) s') : a.Ends s Q := by
  rwa [Ends, h]

lemma Ends.of_eq {a a' : Action β} {s s' : Scene} {Q : Except Fault β → Scene → Prop}
    (h : a s = a' s') (hq : a'.Ends s' Q) : a.Ends s Q := by
  rwa [Ends, h]

lemma Ends.bind_of_ok {a : Action β} {f : β → Action γ} {s s' : Scene} {b : β}
    {Q : Except Fault γ → Scene → Prop} (h : a s = .ok b s') (hq : (f b).Ends s' Q) :
    (a >>= f).Ends s Q :=
  Ends.bind (ends_of_ok h hq)

lemma Ends.bind_of_error {a : Action β} {f : β → Action γ} {s s' : Scene} {e : Fault}
    {Q : Except Fault γ → Scene → Prop} (h : a s = .error e s') (hq : Q (.error e) s') :
    (a >>= f).Ends s Q :=
  Ends.bind (ends_of_error h hq)

lemma succeeds_of_ok {a : Action β} {s s' : Scene} {b : β} (h : a s = .ok b s') :
    a.succeeds s = true := by
  simp [Action.succeeds, h]

lemma not_succeeds_of_error {a : Action β} {s s' : Scene} {e : Fault} (h : a s = .error e s') :
    a.succeeds s = false := by
  simp [Action.succeeds, h]

lemma bind_apply (a : Action β) (f : β → Action γ) (s : Scene) :
    (a >>= f) s =
      match a s with
      | .ok b s' => f b s'
      | .error e s' => .error e s' := by
  change EStateM.bind a f s = _
  unfold EStateM.bind
  cases a s <;> rfl

lemma pure_apply (b : β) (s : Scene) : (pure b : Action β) s = .ok b s := rfl

lemma get_apply (s : Scene) : (get : Action Scene) s = .ok s s := rfl

lemma modify_apply (f : Scene → Scene) (s : Scene) :
    (modify f : Action PUnit) s = .ok ⟨⟩ (f s) := rfl

lemma throw_apply (e : Fault) (s : Scene) : (throw e : Action β) s = .error e s := rfl

lemma map_apply (f : β → γ) (a : Action β) (s : Scene) :
    (f <$> a) s =
      match a s with
      | .ok b s' => .ok (f b) s'
      | .error e s' => .error e s' := by
  change EStateM.map f a s = _
  unfold EStateM.map
  cases a s <;> rfl

lemma outcome_map (f : β → γ) (a : Action β) (s : Scene) :
    (f <$> a).outcome s = ((a.outcome s).1.map f, (a.outcome s).2) := by
  unfold outcome
  rw [map_apply]
  cases a s <;> rfl

/-- What becomes of the answer changes neither the fault nor the scene. -/
lemma Ends.map {a : Action β} {s : Scene} {P : Option Fault → Scene → Prop} (f : β → γ)
    (h : a.Ends s fun r s' => P (faultOf r) s') :
    (f <$> a).Ends s fun r s' => P (faultOf r) s' := by
  unfold Ends at h ⊢
  rw [map_apply]
  cases ha : a s <;> simpa [ha] using h

/-- An action on the device alone: the bridge stays as it is, nothing is asked, a fault is such. -/
def OnDevice (a : Action β) (s : Scene) (P : Fault → Prop) : Prop :=
  a.Ends s fun r s' =>
    s'.bridge = s.bridge ∧ s'.queries = s.queries ∧ ∀ e, faultOf r = some e → P e

lemma onDevice_of_ok {a : Action β} {s s' : Scene} {b : β} {P : Fault → Prop}
    (h : a s = .ok b s') (hb : s'.bridge = s.bridge) (hq : s'.queries = s.queries) :
    a.OnDevice s P :=
  ends_of_ok h ⟨hb, hq, by simp⟩

lemma onDevice_of_error {a : Action β} {s s' : Scene} {e : Fault} {P : Fault → Prop}
    (h : a s = .error e s') (hb : s'.bridge = s.bridge) (hq : s'.queries = s.queries)
    (he : P e) : a.OnDevice s P :=
  ends_of_error h ⟨hb, hq, fun _ h => Option.some.inj h ▸ he⟩

lemma OnDevice.mono {a : Action β} {s : Scene} {P P' : Fault → Prop} (h : a.OnDevice s P)
    (hp : ∀ e, P e → P' e) : a.OnDevice s P' :=
  Ends.mono h fun _ _ hr => ⟨hr.1, hr.2.1, fun e he => hp e (hr.2.2 e he)⟩

/-- An action that goes on, on the device alone, where it has come to. -/
lemma OnDevice.of_eq {a a' : Action β} {s s' : Scene} {P : Fault → Prop} (h : a s = a' s')
    (hb : s'.bridge = s.bridge) (hq : s'.queries = s.queries) (h' : a'.OnDevice s' P) :
    a.OnDevice s P :=
  Ends.of_eq h (Ends.mono h' fun _ _ hr => ⟨hr.1.trans hb, hr.2.1.trans hq, hr.2.2⟩)

lemma OnDevice.bind {a : Action β} {f : β → Action γ} {s : Scene} {P : Fault → Prop}
    (h : a.OnDevice s P) (hf : ∀ b s', (f b).OnDevice s' P) : (a >>= f).OnDevice s P := by
  rcases ha : a s with ⟨b, s'⟩ | ⟨e, s'⟩
  · unfold OnDevice Ends at h
    rw [ha] at h
    exact .of_eq (by rw [bind_apply, ha]) h.1 h.2.1 (hf b s')
  · unfold OnDevice Ends at h
    rw [ha] at h
    exact onDevice_of_error (by rw [bind_apply, ha]) h.1 h.2.1 (h.2.2 e rfl)

lemma call_apply (f : Fleet → β × Fleet) (s : Scene) :
    call f s = .ok (f s.fleet).1 { s with fleet := (f s.fleet).2 } := rfl

lemma report_apply (n : Notice) (s : Scene) :
    report n s = .ok () { s with notices := s.notices.push n } := rfl

lemma setHeap_apply (heap : Option Region) (s : Scene) :
    setHeap heap s = .ok () (s.withHeap heap) := rfl

end Action

namespace Bridge

open Offload.Action

lemma ensureTable_of_bound {s : Scene} {t : Table EntryPoint} (h : s.bridge.table = some t) :
    ensureTable s = .ok t s := by
  unfold ensureTable
  simp only [bind_apply, get_apply, h, pure_apply]

/-- What an attempt to link answers in a scene, and what it asks. -/
def attempted (s : Scene) : Except Fault (Table EntryPoint) × List Query :=
  (s.bridge.resolver.attempt s.fleet s.bridge.attempts).answers.link

lemma ensureTable_of_linked {s : Scene} {t : Table EntryPoint} (h : s.bridge.table = none)
    (hl : (attempted s).1 = .ok t) :
    ∃ notices, ensureTable s = .ok t
      { s with
        bridge := { s.bridge with attempts := s.bridge.attempts + 1, table := some t }
        notices
        queries := s.queries ++ (attempted s).2 } := by
  unfold attempted at hl ⊢
  unfold ensureTable
  simp only [bind_apply, get_apply, h, hl, modify_apply, report_apply, pure_apply]
  exact ⟨_, rfl⟩

lemma ensureTable_of_not_linked {s : Scene} {e : Fault} (h : s.bridge.table = none)
    (hl : (attempted s).1 = .error e) :
    ∃ notices, ensureTable s = .error e
      { s with
        bridge := { s.bridge with attempts := s.bridge.attempts + 1 }
        notices
        queries := s.queries ++ (attempted s).2 } := by
  unfold attempted at hl ⊢
  unfold ensureTable
  simp only [bind_apply, get_apply, h, hl, modify_apply, report_apply, throw_apply]
  exact ⟨_, rfl⟩

lemma requireDevice_apply (operation : String) (s : Scene) :
    requireDevice operation s =
      match s.bridge.device with
      | .ready d => .ok d s
      | .unavailable => .error .context s
      | .undecided => .error (.notInitialized operation) s := by
  unfold requireDevice
  simp only [bind_apply, get_apply]
  cases s.bridge.device <;> rfl

lemma createDevice_of_null {t : Table EntryPoint} {s : Scene}
    (h : (s.fleet.createContext t.createContext).1.isNull = true) :
    ∃ notices, createDevice t s = .error .context
      { s with
        bridge := { s.bridge with device := .unavailable }
        fleet := (s.fleet.createContext t.createContext).2
        notices } := by
  unfold createDevice
  simp only [bind_apply, call_apply, h, if_true, modify_apply, report_apply, throw_apply]
  exact ⟨_, rfl⟩

lemma createDevice_of_not_queried {t : Table EntryPoint} {s : Scene}
    (h : (s.fleet.createContext t.createContext).1.isNull = false) (hq : t.totalCores = none) :
    ∃ notices,
      let d : Device :=
        ⟨t, (s.fleet.createContext t.createContext).1, s.bridge.settings.fallbackCores, none⟩
      createDevice t s = .ok d
        { s with
          bridge := { s.bridge with device := .ready d }
          fleet := (s.fleet.createContext t.createContext).2
          notices } := by
  unfold createDevice
  simp only [bind_apply, call_apply, h, hq, Bool.false_eq_true, if_false, modify_apply,
    report_apply, pure_apply, get_apply]
  exact ⟨_, rfl⟩

lemma createDevice_of_queried {t : Table EntryPoint} {s : Scene} {query : EntryPoint}
    (h : (s.fleet.createContext t.createContext).1.isNull = false)
    (hq : t.totalCores = some query) :
    ∃ notices,
      let c := s.fleet.createContext t.createContext
      let q := c.2.totalCores query c.1
      let d : Device := ⟨t, c.1, (coreCount (some q.1) s.bridge.settings.fallbackCores).1, none⟩
      createDevice t s = .ok d
        { s with bridge := { s.bridge with device := .ready d }, fleet := q.2, notices } := by
  unfold createDevice
  simp only [bind_apply, call_apply, h, hq, Bool.false_eq_true, if_false, modify_apply,
    report_apply, pure_apply, get_apply, map_apply]
  exact ⟨_, rfl⟩

lemma connect_apply (s : Scene) :
    connect s =
      match ensureTable s with
      | .error e s' => .error e s'
      | .ok t s' =>
        match s'.bridge.device with
        | .ready d => .ok d s'
        | .unavailable => .error .context s'
        | .undecided => createDevice t s' := by
  unfold connect
  rw [bind_apply]
  rcases ensureTable s with ⟨t, s'⟩ | ⟨e, s'⟩
  · simp only [bind_apply, get_apply]
    cases s'.bridge.device <;> rfl
  · rfl

variable {d : Device} {region : Region} {s : Scene}

lemma heap?_of_ready {b : Bridge} (hd : b.device = .ready d) : b.heap? = d.heap := by
  simp [heap?, device?, hd]

lemma registerOn_of_isEmpty (h : region.isEmpty = true) :
    registerOn d region s =
      .error (.heapRegistration region.base region.size) (s.withHeap none) := by
  unfold registerOn
  simp only [h, if_true, bind_apply, setHeap_apply, throw_apply]

lemma registerOn_of_rejected (h : region.isEmpty = false)
    (ha : (s.fleet.registerHeap d.table.registerHeap region.base region.size).1 = false) :
    ∃ notices, registerOn d region s =
      .error (.heapRegistration region.base region.size)
        { s.withHeap none with
          fleet := (s.fleet.registerHeap d.table.registerHeap region.base region.size).2
          notices } := by
  unfold registerOn
  simp only [h, ha, Bool.false_eq_true, if_false, Bool.not_false, if_true, bind_apply, call_apply,
    setHeap_apply, report_apply, throw_apply]
  refine ⟨s.notices.push (.heapRejected region), ?_⟩
  unfold Scene.withHeap
  cases s.bridge.device <;> rfl

lemma registerOn_of_accepted (h : region.isEmpty = false)
    (ha : (s.fleet.registerHeap d.table.registerHeap region.base region.size).1 = true) :
    ∃ notices, registerOn d region s =
      .ok region
        { s.withHeap (some region) with
          fleet := (s.fleet.registerHeap d.table.registerHeap region.base region.size).2
          notices } := by
  unfold registerOn
  simp only [h, ha, Bool.false_eq_true, if_false, Bool.not_true, bind_apply, call_apply,
    setHeap_apply]
  rcases registrationNotice? d.heap region with _ | n
  · refine ⟨s.notices, ?_⟩
    simp only [pure_apply]
    unfold Scene.withHeap
    cases s.bridge.device <;> rfl
  · refine ⟨s.notices.push n, ?_⟩
    simp only [bind_apply, report_apply, pure_apply]
    unfold Scene.withHeap
    cases s.bridge.device <;> rfl

/-- What is handed over to load a kernel, and what comes back. -/
def loading (d : Device) (code : Code) (f : Fleet) : Handle × Fleet :=
  f.createKernel d.table.createKernel d.handle (some code.terminated)
    (some (Text.utf8 code.name ++ [0]))

lemma loadOn_of_null {code : Code} (h : (loading d code s.fleet).1.isNull = true) :
    ∃ notices, loadOn d code s =
      .error (.kernelLoad code.name) { s with fleet := (loading d code s.fleet).2, notices } := by
  unfold loading at h
  unfold loadOn
  rw [code.terminatedName_eq]
  simp only [bind_apply, call_apply, h, if_true, report_apply, throw_apply]
  exact ⟨_, rfl⟩

lemma loadOn_of_loaded {code : Code} (h : (loading d code s.fleet).1.isNull = false) :
    ∃ notices, loadOn d code s =
      .ok ⟨s.bridge.id, (loading d code s.fleet).1, code.name, 0⟩
        { s with fleet := (loading d code s.fleet).2, notices } := by
  unfold loading at h ⊢
  unfold loadOn
  rw [code.terminatedName_eq]
  simp only [bind_apply, call_apply, h, Bool.false_eq_true, if_false, report_apply, get_apply,
    pure_apply]
  exact ⟨_, rfl⟩

variable {k : Kernel}

lemma pushOne_of_pushed {i : Nat} {v : Value}
    (h : (s.fleet.push (d.table.push v.pushed.kind) k.handle v.pushed).1 = true) :
    pushOne d k i v s = .ok ()
      { s with fleet := (s.fleet.push (d.table.push v.pushed.kind) k.handle v.pushed).2 } := by
  unfold pushOne
  simp only [bind_apply, call_apply, h, Bool.not_true, Bool.false_eq_true, if_false, pure_apply]

lemma pushOne_of_failed {i : Nat} {v : Value}
    (h : (s.fleet.push (d.table.push v.pushed.kind) k.handle v.pushed).1 = false) :
    ∃ notices, pushOne d k i v s =
      .error (.argumentPush i v.kind)
        { s with
          fleet := (s.fleet.push (d.table.push v.pushed.kind) k.handle v.pushed).2
          notices } := by
  unfold pushOne
  simp only [bind_apply, call_apply, h, Bool.not_false, if_true, report_apply, throw_apply]
  exact ⟨_, rfl⟩

lemma execute_of_ran {range : Range}
    (h : (s.fleet.execute d.table.execute k.handle range.dim).1 = true) :
    ∃ notices, execute d k range s =
      .ok { k with launches := k.launches + 1 }
        { s with fleet := (s.fleet.execute d.table.execute k.handle range.dim).2, notices } := by
  unfold execute
  simp only [bind_apply, call_apply, h, Bool.not_true, Bool.false_eq_true, if_false, report_apply,
    pure_apply]
  exact ⟨_, rfl⟩

lemma execute_of_failed {range : Range}
    (h : (s.fleet.execute d.table.execute k.handle range.dim).1 = false) :
    ∃ notices, execute d k range s =
      .error (.execution k.name)
        { s with fleet := (s.fleet.execute d.table.execute k.handle range.dim).2, notices } := by
  unfold execute
  simp only [bind_apply, call_apply, h, Bool.not_false, if_true, report_apply, throw_apply]
  exact ⟨_, rfl⟩

/-- The check of a launch on the heap that is registered. -/
def check (s : Scene) (k : Kernel) (dim : Int32) (args : List Value) (signature : Signature) :
    Except Fault Range :=
  checkLaunch s.bridge.heap? s.bridge.settings.verifyObjects k.name dim args signature

variable {dim : Int32} {args : List Value} {signature : Signature}

/-- The check in its order: the extent, the result, the heap and then the arguments. -/
lemma check_apply :
    check s k dim args signature =
      if h : 0 < dim then
        if signature.isVoid = true then
          match s.bridge.heap? with
          | none => .error .heapNotRegistered
          | some region =>
            (Marshal.validate signature args region s.bridge.settings.verifyObjects).map
              fun _ => ⟨dim, h⟩
        else
          .error (.unsupportedSignature
            ("kernel '" ++ k.name ++ "' returns a value; only void kernels can be launched"))
      else .error (.invalidRange dim) := by
  unfold check checkLaunch
  by_cases hdim : 0 < dim
  · rw [dif_pos hdim, Range.of_pos hdim]
    rcases signature.isVoid
    · rfl
    · rcases s.bridge.heap? with _ | region
      · rfl
      · simp only [bind, Except.bind]
        rcases Marshal.validate signature args region s.bridge.settings.verifyObjects <;> rfl
  · rw [dif_neg hdim, Range.of_not_pos hdim]
    rfl

lemma launchOn_of_unfit {e : Fault} (h : check s k dim args signature = .error e) :
    launchOn d k dim args signature s = .error e s := by
  unfold check at h
  unfold launchOn
  simp only [bind_apply, get_apply, h, throw_apply]

lemma launchOn_of_not_cleared {range : Range} (h : check s k dim args signature = .ok range)
    (hc : (s.fleet.clearArgs d.table.clearArgs k.handle).1 = false) :
    launchOn d k dim args signature s =
      .error (.clearArgs k.name)
        { s with fleet := (s.fleet.clearArgs d.table.clearArgs k.handle).2 } := by
  unfold check at h
  unfold launchOn
  simp only [bind_apply, get_apply, h, call_apply, hc, Bool.not_false, if_true, throw_apply]

lemma launchOn_of_cleared {range : Range} (h : check s k dim args signature = .ok range)
    (hc : (s.fleet.clearArgs d.table.clearArgs k.handle).1 = true) :
    launchOn d k dim args signature s =
      (pushAll d k 0 args >>= fun _ => execute d k range)
        { s with fleet := (s.fleet.clearArgs d.table.clearArgs k.handle).2 } := by
  unfold check at h
  unfold launchOn
  simp only [bind_apply, get_apply, h, call_apply, hc, Bool.not_true, Bool.false_eq_true, if_false]

lemma loadOn_onDevice (code : Code) (s : Scene) :
    (loadOn d code).OnDevice s (· = .kernelLoad code.name) := by
  rcases hn : (loading d code s.fleet).1.isNull
  · obtain ⟨notices, heq⟩ := loadOn_of_loaded hn
    exact onDevice_of_ok heq rfl rfl
  · obtain ⟨notices, heq⟩ := loadOn_of_null hn
    exact onDevice_of_error heq rfl rfl rfl

lemma pushAll_onDevice (i : Nat) (args : List Value) (s : Scene) :
    (pushAll d k i args).OnDevice s fun e => ∃ j kind, e = .argumentPush j kind := by
  induction args generalizing i s with
  | nil => exact onDevice_of_ok (pure_apply () s) rfl rfl
  | cons v args ih =>
    refine OnDevice.bind ?_ fun _ s' => ih (i + 1) s'
    rcases hp : (s.fleet.push (d.table.push v.pushed.kind) k.handle v.pushed).1
    · obtain ⟨notices, heq⟩ := pushOne_of_failed (i := i) hp
      exact onDevice_of_error heq rfl rfl ⟨i, v.kind, rfl⟩
    · exact onDevice_of_ok (pushOne_of_pushed hp) rfl rfl

lemma execute_onDevice (range : Range) (s : Scene) :
    (execute d k range).OnDevice s (· = .execution k.name) := by
  rcases hx : (s.fleet.execute d.table.execute k.handle range.dim).1
  · obtain ⟨notices, heq⟩ := execute_of_failed hx
    exact onDevice_of_error heq rfl rfl rfl
  · obtain ⟨notices, heq⟩ := execute_of_ran hx
    exact onDevice_of_ok heq rfl rfl

/-- A launch is stopped by its check or by one of its calls. -/
lemma launchOn_onDevice (dim : Int32) (args : List Value) (signature : Signature) (s : Scene) :
    (launchOn d k dim args signature).OnDevice s fun e =>
      check s k dim args signature = .error e ∨ e = .clearArgs k.name ∨
        (∃ i kind, e = .argumentPush i kind) ∨ e = .execution k.name := by
  rcases hc : check s k dim args signature with e | range
  · exact onDevice_of_error (launchOn_of_unfit hc) rfl rfl (.inl rfl)
  rcases hcl : (s.fleet.clearArgs d.table.clearArgs k.handle).1
  · exact onDevice_of_error (launchOn_of_not_cleared hc hcl) rfl rfl (.inr (.inl rfl))
  · refine .of_eq (launchOn_of_cleared hc hcl) rfl rfl (OnDevice.bind ?_ fun _ s' => ?_)
    · exact (pushAll_onDevice 0 args _).mono fun e he => .inr (.inr (.inl he))
    · exact (execute_onDevice range s').mono fun e he => .inr (.inr (.inr he))

/-- A launch that succeeds is counted, and nothing else about the kernel changes. -/
lemma launchOn_answer :
    (launchOn d k dim args signature).Ends s fun r _ =>
      ∀ k', r = .ok k' → k' = { k with launches := k.launches + 1 } := by
  rcases hc : check s k dim args signature with e | range
  · exact ends_of_error (launchOn_of_unfit hc) (by simp)
  rcases hcl : (s.fleet.clearArgs d.table.clearArgs k.handle).1
  · exact ends_of_error (launchOn_of_not_cleared hc hcl) (by simp)
  refine Ends.of_eq (launchOn_of_cleared hc hcl) (Ends.bind ?_)
  refine ends_iff.2 ?_
  split
  · rcases hx : ((Action.outcome (pushAll d k 0 args) _).2.fleet.execute d.table.execute k.handle
      range.dim).1
    · obtain ⟨notices, heq⟩ := execute_of_failed hx
      exact ends_of_error heq (by simp)
    · obtain ⟨notices, heq⟩ := execute_of_ran hx
      exact ends_of_ok heq (by simp)
  · simp

lemma launch_apply :
    launch k dim args signature s =
      match s.bridge.device with
      | .ready d =>
        if s.bridge.id = k.owner then launchOn d k dim args signature s
        else .error (.invalidKernel ("kernel '" ++ k.name ++ "' was created on another context")) s
      | .unavailable => .error .context s
      | .undecided => .error (.notInitialized "execute_kernel_void_1d") s := by
  unfold launch
  rw [bind_apply, requireDevice_apply]
  rcases s.bridge.device with _ | _ | d
  · rfl
  · rfl
  · simp only [bind_apply, get_apply]
    by_cases h : s.bridge.id = k.owner
    · simp only [h, ne_eq, not_true, if_true, if_false]
    · simp only [h, ne_eq, not_false_iff, if_true, if_false, bind_apply, throw_apply]

lemma launch_of_owner (hd : s.bridge.device = .ready d) (hk : s.bridge.id = k.owner) :
    launch k dim args signature s = launchOn d k dim args signature s := by
  simp only [launch_apply, hd, hk, if_true]

lemma launch_of_stranger (hd : s.bridge.device = .ready d) (hk : s.bridge.id ≠ k.owner) :
    launch k dim args signature s =
      .error (.invalidKernel ("kernel '" ++ k.name ++ "' was created on another context")) s := by
  simp only [launch_apply, hd, hk, if_false]

lemma launch_answer :
    (launch k dim args signature).Ends s fun r _ =>
      ∀ k', r = .ok k' → k' = { k with launches := k.launches + 1 } := by
  rcases hd : s.bridge.device with _ | _ | d
  · exact ends_of_error (by rw [launch_apply, hd]) (by simp)
  · exact ends_of_error (by rw [launch_apply, hd]) (by simp)
  by_cases hk : s.bridge.id = k.owner
  · exact Ends.of_eq (launch_of_owner hd hk) launchOn_answer
  · exact ends_of_error (launch_of_stranger hd hk) (by simp)

/-- What is left of an offload once a heap is registered. -/
def serve (d : Device) (request : Request) : Action Unit := do
  let k ← loadOn d request.code
  let _ ← launchOn d k request.dim request.args request.signature

lemma offload_of_not_range {request : Request} {heap : Region} {e : Fault}
    (h : Range.of request.dim = .error e) : offload request heap s = .error e s := by
  unfold offload
  rw [h]
  rfl

/-- What is left of an offload once the device is had. -/
def provide (d : Device) (request : Request) (heap : Region) : Action Unit :=
  if d.heap.isNone then registerOn d heap >>= fun _ => serve d request else serve d request

lemma offload_of_range {request : Request} {heap : Region} {range : Range}
    (h : Range.of request.dim = .ok range) :
    offload request heap s =
      match connect s with
      | .error e s' => .error e s'
      | .ok d s' => provide d request heap s' := by
  unfold offload
  simp only [h]
  rw [bind_apply]
  cases connect s <;> rfl

/-- A launch passes the check only over a registered heap that its arguments fit. -/
lemma of_check_eq_ok {range : Range} (h : check s k dim args signature = .ok range) :
    range.dim = dim ∧ ∃ region, s.bridge.heap? = some region ∧
      Marshal.validate signature args region s.bridge.settings.verifyObjects = .ok () := by
  rw [check_apply] at h
  split at h
  · split at h
    · split at h
      · cases h
      · rename_i region hheap
        rcases hm : Marshal.validate signature args region s.bridge.settings.verifyObjects with
          e | u <;> rw [hm] at h
        · cases h
        · exact ⟨(congrArg Range.dim (Except.ok.inj h)).symm, region, hheap, hm⟩
    · cases h
  · cases h

end Bridge

end Offload
