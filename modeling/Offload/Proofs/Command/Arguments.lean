import Offload.Command.Perform
import Offload.Proofs.Bridge.Faults
import Offload.Proofs.Bridge.Stepwise
import Offload.Proofs.Marshal.Validation

/-!
Arguments that were read from texts, against the check that a launch makes.

What is read for a slot has the slot's kind, and a reference that is read is null or lies in the
heap. So the check finds nothing wrong but a receiver that was given as null.
-/

namespace Offload

open Simulator

/-- A region as an allocation has it: not at the null address, and within the address space. -/
structure Region.Allocated (r : Region) : Prop where
  base_pos : 0 < r.base.toNat
  stop_le : r.base.toNat + r.size.toNat ≤ UInt64.size - 1

/-- A reference to nothing or into a region, or no reference at all. -/
def Value.Within (v : Value) (r : Region) : Prop :=
  ∀ a, v = .object a → a = 0 ∨ r.base.toNat ≤ a.toNat ∧ a.toNat < r.base.toNat + r.size.toNat

lemma Region.Allocated.contains {r : Region} (h : r.Allocated) {v : Value} (hv : v.Within r)
    {a : UInt64} (ha : v = .object a) (hne : a ≠ 0) : r.contains a = true := by
  obtain ⟨hbase, hstop⟩ := (hv a ha).resolve_left hne
  have hle := h.stop_le
  rw [contains_iff, toNat_stop]
  omega

namespace Command

variable {heap : Region}

/-- The text of the null reference. -/
def nullText : List Char := ['n', 'u', 'l', 'l']

/-! ### One slot -/

lemma readObject_within (hheap : heap.Allocated) {cs : List Char} {v : Value}
    (h : readObject heap cs = .ok v) :
    v.kind = .object ∧ v.Within heap ∧ (v = .null ↔ cs = nullText) := by
  unfold readObject at h
  split at h
  · rename_i hnull
    obtain rfl := Except.ok.inj h
    exact ⟨rfl, fun a ha => .inl (Value.object.inj ha).symm, by simp [hnull, nullText]⟩
  rename_i hnull
  split at h
  · rename_i rest
    rcases hoff : readOffset rest with e | offset
    · simp [hoff, bind, Except.bind] at h
    simp only [hoff, bind, Except.bind] at h
    split at h
    · simp at h
    rename_i hlt
    obtain rfl := Except.ok.inj h
    have hsize : heap.size.toNat < UInt64.size := heap.size.toNat_lt
    have hbase := hheap.base_pos
    have hstop := hheap.stop_le
    have haddr : (heap.base + UInt64.ofNat offset).toNat = heap.base.toNat + offset := by
      rw [UInt64.toNat_add, UInt64.toNat_ofNat_of_lt' (by omega), Nat.mod_eq_of_lt]
      simp only [UInt64.size] at hstop
      omega
    refine ⟨rfl, fun a ha => .inr ?_, ?_⟩
    · obtain rfl := Value.object.inj ha
      omega
    · constructor
      · intro hv
        have hzero : (heap.base + UInt64.ofNat offset).toNat = 0 := by
          rw [Value.object.inj hv]
          rfl
        omega
      · intro hcs
        exact absurd hcs hnull
  · simp at h

lemma exists_of_map_eq_ok {ε α β : Type} {r : Except ε α} {f : α → β} {b : β}
    (h : r.map f = .ok b) : ∃ a, r = .ok a ∧ f a = b := by
  cases r with
  | error e => simp [Except.map] at h
  | ok a => exact ⟨a, rfl, Except.ok.inj h⟩

lemma kind_of_readBoolean {cs : List Char} {v : Value} (h : readBoolean cs = .ok v) :
    v.kind = .boolean := by
  unfold readBoolean at h
  split_ifs at h <;> obtain rfl := Except.ok.inj h <;> rfl

lemma kind_of_readChar {cs : List Char} {v : Value} (h : readChar cs = .ok v) :
    v.kind = .char := by
  have hnumber : ∀ {v : Value},
      (readUnsigned 10 UInt16.size cs).map (fun n => Value.char (UInt16.ofNat n)) = .ok v →
        v.kind = .char := by
    intro v hv
    obtain ⟨n, -, rfl⟩ := exists_of_map_eq_ok hv
    rfl
  unfold readChar at h
  split at h
  · split_ifs at h
    · exact hnumber h
    · obtain rfl := Except.ok.inj h
      rfl
  · exact hnumber h

lemma kind_of_readTrimmed (hheap : heap.Allocated) {kind : Kind} {cs : List Char} {v : Value}
    (h : readTrimmed heap kind cs = .ok v) : v.kind = kind := by
  cases kind with
  | object => exact (readObject_within hheap h).1
  | boolean => exact kind_of_readBoolean h
  | char => exact kind_of_readChar h
  | _ =>
    obtain ⟨n, -, rfl⟩ := exists_of_map_eq_ok h
    rfl

/-- **One slot**: what is read for it has its kind; a reference is null or lies in the heap, and is
null only by the text that says so. -/
lemma readValue_within (hheap : heap.Allocated) {kind : Kind} {text : String} {v : Value}
    (h : readValue heap kind text = .ok v) :
    v.kind = kind ∧ v.Within heap ∧
      (v = .null ↔ kind = .object ∧ Text.trim text.toList = nullText) := by
  have hkind := kind_of_readTrimmed hheap h
  by_cases hobject : kind = .object
  · subst hobject
    simpa using readObject_within hheap h
  · have hnone : ∀ a, v ≠ .object a := by
      rintro a rfl
      exact hobject hkind.symm
    refine ⟨hkind, fun a ha => absurd ha (hnone a), ?_⟩
    exact ⟨fun hv => absurd hv (hnone 0), fun hk => absurd hk.1 hobject⟩

/-! ### All slots -/

lemma of_readSlots (hheap : heap.Allocated) {i : Nat} {kinds : List Kind} {texts : List String}
    {args : List Value} (hlen : texts.length = kinds.length)
    (h : readSlots heap i kinds texts = .ok args) :
    args.map Value.kind = kinds ∧ (∀ v ∈ args, v.Within heap) ∧
      (args.head? = some .null ↔ kinds.head? = some .object ∧
        texts.head?.map (Text.trim ∘ String.toList) = some nullText) := by
  induction kinds generalizing i texts args with
  | nil =>
    obtain rfl := Except.ok.inj h
    simp
  | cons kind kinds ih =>
    cases texts with
    | nil => simp at hlen
    | cons text texts =>
      rw [readSlots] at h
      rcases hv : readValue heap kind text with fault | v
      · simp [hv] at h
      simp only [hv] at h
      obtain ⟨vs, hvs, rfl⟩ := exists_of_map_eq_ok h
      obtain ⟨hkind, hwithin, hnull⟩ := readValue_within hheap hv
      obtain ⟨hkinds, hwithins, -⟩ := ih (by simpa using hlen) hvs
      refine ⟨by rw [List.map_cons, hkind, hkinds], ?_, by simpa using hnull⟩
      intro w hw
      rcases List.mem_cons.1 hw with rfl | hw
      · exact hwithin
      · exact hwithins w hw

end Command

namespace Marshal

/-- Arguments of a signature's kinds, whose references are null or lie in the host's heap. -/
structure Fits (s : Signature) (heap : Region) (args : List Value) : Prop where
  allocated : heap.Allocated
  kinds : args.map Value.kind = s.slots
  within : ∀ v ∈ args, v.Within heap

variable {s : Signature} {heap : Region} {args : List Value} {verify : Bool}

/-- In its slot, a value that is null or lies in the heap is at fault as a null receiver only. -/
lemma slotFault?_of_within (hheap : heap.Allocated) {v : Value} (hv : v.Within heap) (i : Nat) :
    slotFault? s heap verify i v.kind v =
      if i = 0 ∧ s.hasReceiver = true ∧ v = .null then some .nullReceiver else none := by
  unfold slotFault?
  rw [if_neg (by simp)]
  cases v with
  | object a =>
    have hcontains : ¬ (verify = true ∧ a ≠ 0 ∧ (!heap.contains a) = true) := by
      rintro ⟨-, hne, hout⟩
      rw [hheap.contains hv rfl hne] at hout
      simp at hout
    simp only [Value.address?, Value.null, Value.object.injEq, if_neg hcontains]
  | _ => simp [Value.address?, Value.null]

lemma Fits.length_eq (h : Fits s heap args) : args.length = s.arity := by
  rw [← Signature.length_slots, ← h.kinds, List.length_map]

/-- Of arguments that fit, only a null receiver is at fault. -/
lemma Fits.faultAt?_eq (h : Fits s heap args) (i : Nat) :
    faultAt? s args heap verify i =
      if i = 0 ∧ s.hasReceiver = true ∧ args.head? = some .null then some .nullReceiver
      else none := by
  rcases hv : args[i]? with _ | v
  · have hempty : ¬ (i = 0 ∧ s.hasReceiver = true ∧ args.head? = some .null) := by
      rintro ⟨rfl, -, hhead⟩
      rw [← List.head?_eq_getElem?, hhead] at hv
      cases hv
    rw [if_neg hempty, faultAt?, hv]
    cases s.slots[i]? <;> rfl
  · have hslot : s.slots[i]? = some v.kind := by rw [← h.kinds, List.getElem?_map, hv]; rfl
    rw [faultAt?_of_slot hslot hv,
      slotFault?_of_within h.allocated (h.within v (List.mem_of_getElem? hv))]
    refine if_congr (and_congr_right fun hi => ?_) rfl rfl
    rw [List.head?_eq_getElem?, ← hi, hv, Option.some.injEq]

/-- Arguments that fit pass the check but for a null receiver. -/
lemma Fits.validate_eq (h : Fits s heap args) :
    validate s args heap verify =
      if s.hasReceiver = true ∧ args.head? = some .null then .error .nullReceiver else .ok () := by
  split
  · rename_i hnull
    refine (validate_eq_error_iff h.length_eq).2 ⟨0, ?_, by omega⟩
    rw [h.faultAt?_eq, if_pos ⟨rfl, hnull⟩]
  · rename_i hnull
    refine validate_eq_ok_iff.2 ⟨h.length_eq, fun i => not_faulty_iff.2 ?_⟩
    rw [h.faultAt?_eq, if_neg fun hi => hnull hi.2]

end Marshal

/-! ### Launches of such arguments -/

/-- A fault of arguments that do not fit their signature, or point outside the heap. -/
def Fault.isMisfit : Fault → Bool
  | .argumentCount _ _ | .argumentMismatch _ _ _ | .unregisteredObject _ _ => true
  | _ => false

lemma Fault.not_isMisfit_of_isFatal {e : Fault} (h : e.isFatal = true) : e.isMisfit = false := by
  cases e <;> simp_all [Fault.isFatal, Fault.isMisfit]

namespace Action

variable {β γ : Type}

/-- An action that does not fail for its arguments. -/
def Fit (a : Action β) (s : Scene) : Prop :=
  a.Ends s fun r _ => ∀ e, faultOf r = some e → e.isMisfit = false

lemma fit_of_ok {a : Action β} {s s' : Scene} {b : β} (h : a s = .ok b s') : a.Fit s :=
  ends_of_ok h (by simp)

lemma fit_of_onDevice {a : Action β} {s : Scene} {P : Fault → Prop} (h : a.OnDevice s P)
    (hp : ∀ e, P e → e.isMisfit = false) : a.Fit s :=
  Ends.mono h fun _ _ hr e he => hp e (hr.2.2 e he)

lemma Grave.fit {a : Action β} (h : a.Grave) (s : Scene) : a.Fit s :=
  (h s).mono fun _ _ hr e he => Fault.not_isMisfit_of_isFatal (hr e he)

/-- An action fits in a scene if its first part does, and the rest does wherever that leads. -/
lemma Fit.bind {a : Action β} {f : β → Action γ} {s : Scene} (h : a.Fit s)
    (hf : ∀ b s', a s = .ok b s' → (f b).Fit s') : (a >>= f).Fit s := by
  rcases ha : a s with ⟨b, s'⟩ | ⟨e, s'⟩
  · exact Ends.bind_of_ok ha (hf b s' ha)
  · refine Ends.bind_of_error ha fun e' he' => ?_
    unfold Fit Ends at h
    rw [ha] at h
    exact h e' he'

end Action

namespace Bridge

open Offload.Action

variable {d : Device} {k : Kernel} {s : Scene} {heap : Region} {args : List Value}
  {signature : Signature} {dim : Int32}

lemma loadOn_fit (code : Code) (s : Scene) : (loadOn d code).Fit s :=
  fit_of_onDevice (loadOn_onDevice code s) fun _ he => he ▸ rfl

/-- What the check of a launch comes to for arguments that fit the registered heap. -/
lemma check_of_fits (hfits : Marshal.Fits signature heap args) (hs : s.bridge.heap? = some heap)
    (k : Kernel) (dim : Int32) :
    check s k dim args signature =
      if h : 0 < dim then
        if signature.isVoid = false then
          .error (.unsupportedSignature
            ("kernel '" ++ k.name ++ "' returns a value; only void kernels can be launched"))
        else if signature.hasReceiver = true ∧ args.head? = some .null then .error .nullReceiver
        else .ok ⟨dim, h⟩
      else .error (.invalidRange dim) := by
  rw [check_apply, hs]
  simp only [hfits.validate_eq]
  rcases signature.isVoid
  · rfl
  · by_cases hnull : signature.hasReceiver = true ∧ args.head? = some .null
    · simp only [if_pos hnull]
      rfl
    · simp only [if_neg hnull]
      rfl

/-- The check on arguments that fit does not find them misfit. -/
lemma not_isMisfit_of_check (hfits : Marshal.Fits signature heap args)
    (hs : s.bridge.heap? = some heap) {e : Fault} (h : check s k dim args signature = .error e) :
    e.isMisfit = false := by
  rw [check_of_fits hfits hs] at h
  split_ifs at h <;> exact Except.error.inj h ▸ rfl

lemma launchOn_fit (hfits : Marshal.Fits signature heap args) (hs : s.bridge.heap? = some heap) :
    (launchOn d k dim args signature).Fit s := by
  refine fit_of_onDevice (launchOn_onDevice dim args signature s) fun e he => ?_
  rcases he with hc | rfl | ⟨i, kind, rfl⟩ | rfl
  · exact not_isMisfit_of_check hfits hs hc
  · rfl
  · rfl
  · rfl

end Bridge

namespace Command

open Bridge Offload.Action

/-- Arguments that are read fit, and the first of them is null only by its text. -/
lemma fits_of_readArguments {signature : Signature} {heap : Region} {texts : List String}
    {args : List Value} (hheap : heap.Allocated)
    (h : readArguments signature heap texts = .ok args) :
    Marshal.Fits signature heap args ∧
      (args.head? = some .null ↔ signature.slots.head? = some .object ∧
        texts.head?.map (Text.trim ∘ String.toList) = some nullText) := by
  unfold readArguments at h
  split at h
  · simp at h
  rename_i hcount
  have hlen : texts.length = signature.slots.length := by
    rw [Signature.length_slots]
    exact not_not.1 hcount
  obtain ⟨hkinds, hwithin, hnull⟩ := of_readSlots hheap hlen h
  exact ⟨⟨hheap, hkinds, hwithin⟩, hnull⟩

variable {job : Job} {s s' : Scene}

/-- Once the kernel of a job is loaded, the bridge is ready with the job's heap. -/
structure Loaded (job : Job) (k : Kernel) (s : Scene) : Prop where
  ready : ∃ d, s.bridge.device = .ready d ∧ d.heap = some job.heap
  owner : s.bridge.id = k.owner

lemma Loaded.heap? {k : Kernel} (h : Loaded job k s) : s.bridge.heap? = some job.heap := by
  obtain ⟨d, hd, hh⟩ := h.ready
  rw [heap?_of_ready hd, hh]

/-- A launch leaves the bridge as it was, and counts itself. -/
lemma Loaded.of_launch {k k' : Kernel} (h : Loaded job k s)
    (hl : launch k job.dim job.args job.signature s = .ok k' s') :
    s'.bridge = s.bridge ∧ k' = { k with launches := k.launches + 1 } := by
  obtain ⟨d, hd, -⟩ := h.ready
  rw [launch_of_owner hd h.owner] at hl
  have hbridge := launchOn_mild (d := d) (k := k) job.dim job.args job.signature s
  have hanswer : (launchOn d k job.dim job.args job.signature).Ends s _ := launchOn_answer
  unfold Ends at hbridge hanswer
  rw [hl] at hbridge hanswer
  exact ⟨hbridge.1, hanswer k' rfl⟩

lemma Loaded.launched {k k' : Kernel} (h : Loaded job k s)
    (hl : launch k job.dim job.args job.signature s = .ok k' s') : Loaded job k' s' := by
  obtain ⟨hbridge, rfl⟩ := h.of_launch hl
  exact ⟨by rw [hbridge]; exact h.ready, by rw [hbridge]; exact h.owner⟩

lemma loaded_of_loadOn {d d' : Device} {k : Kernel} (hd : s.bridge.device = .ready d')
    (hh : d'.heap = some job.heap) (hl : loadOn d job.code s = .ok k s') : Loaded job k s' := by
  obtain ⟨hbridge, howner⟩ := own_of_loadOn hl
  rw [← hbridge] at hd
  exact ⟨⟨d', hd, hh⟩, by rw [hbridge, howner]⟩

/-- **All launches** of a job whose arguments fit end without a misfit. -/
lemma launchTimes_fit (hfits : Marshal.Fits job.signature job.heap job.args) (n : Nat)
    {k : Kernel} (h : Loaded job k s) : (launchTimes job n k).Fit s := by
  induction n generalizing k s with
  | zero => exact fit_of_ok (pure_apply k s)
  | succ n ih =>
    refine Fit.bind ?_ fun k' s' hl => ih (h.launched hl)
    obtain ⟨d, hd, -⟩ := h.ready
    exact Ends.of_eq (launch_of_owner hd h.owner) (launchOn_fit hfits h.heap?)

lemma runJob_fit (hfits : Marshal.Fits job.signature job.heap job.args) (s : Scene) :
    (runJob job).Fit s := by
  refine Fit.bind (connect_grave.fit s) fun d s1 hc => ?_
  have hd : s1.bridge.device = .ready d := ready_of_connect hc
  have hregister := registerHeap_of_ready hd job.heap
  refine Fit.bind (Ends.of_eq hregister ((registerOn_grave job.heap).fit s1)) fun _ s2 hr => ?_
  have hd2 := ready_of_registerOn hd (hregister.symm.trans hr)
  exact Fit.bind (loadOn_fit job.code s2) fun k s3 hl =>
    launchTimes_fit hfits job.repeats (loaded_of_loadOn hd2 rfl hl)

/-- **Arguments that are read pass the check**: as many as there are slots, each of its slot's kind,
every reference null or in the heap. The check finds nothing but a receiver that was given as null,
and no run of them fails for their number, their kinds or their references. -/
theorem validate_of_readArguments {signature : Signature} {heap : Region} {texts : List String}
    {args : List Value} (hheap : heap.Allocated)
    (h : readArguments signature heap texts = .ok args) :
    args.length = signature.arity ∧
    args.map Value.kind = signature.slots ∧
    (∀ a, .object a ∈ args → a = 0 ∨
      heap.base.toNat ≤ a.toNat ∧ a.toNat < heap.base.toNat + heap.size.toNat) ∧
    (∀ verify, Marshal.validate signature args heap verify =
      if signature.hasReceiver = true ∧
          texts.head?.map (Text.trim ∘ String.toList) = some ['n', 'u', 'l', 'l']
      then .error .nullReceiver else .ok ()) ∧
    ∀ (code : Code) (dim : Int32) (repeats : Nat) (s s' : Scene) (e : Fault),
      runJob ⟨code, signature, args, heap, dim, repeats⟩ s = .error e s' → e.isMisfit = false := by
  obtain ⟨hfits, hnull⟩ := fits_of_readArguments hheap h
  refine ⟨hfits.length_eq, hfits.kinds, fun a ha => hfits.within _ ha a rfl, fun verify => ?_,
    fun code dim repeats s s' e hrun => ?_⟩
  · rw [hfits.validate_eq]
    -- the receiver's slot takes an object, so that its text alone decides
    have hslot : signature.hasReceiver = true → signature.slots.head? = some .object := by
      intro hr
      simp [Signature.slots, hr]
    refine if_congr ?_ rfl rfl
    exact ⟨fun hn => ⟨hn.1, (hnull.1 hn.2).2⟩, fun hn => ⟨hn.1, hnull.2 ⟨hslot hn.1, hn.2⟩⟩⟩
  · have hfit : (runJob ⟨code, signature, args, heap, dim, repeats⟩).Fit s := runJob_fit hfits s
    unfold Fit Ends at hfit
    rw [hrun] at hfit
    exact hfit e rfl

/-- A null receiver, and offsets up to the last byte of a heap that ends at the last address. -/
theorem validate_of_readArguments_edge :
    let signature : Signature := .void [.object, .int] true
    let heap : Region := ⟨0xffffffffffffff00, 0xff⟩
    let args : List Value := [.null, .object 0xfffffffffffffffe, .int (-3)]
    readArguments signature heap [" null", "@0xfe ", "-3"] = .ok args ∧
      Marshal.validate signature args heap true = .error .nullReceiver := by
  intro signature heap args
  have hread : readArguments signature heap [" null", "@0xfe ", "-3"] = .ok args := by
    decide +kernel
  have hheap : heap.Allocated := ⟨by decide, by decide⟩
  obtain ⟨-, -, -, hvalid, -⟩ := validate_of_readArguments hheap hread
  exact ⟨hread, (hvalid true).trans (by decide +kernel)⟩

end Command

end Offload
