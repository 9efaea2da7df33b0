import Offload.Proofs.Bridge.Actions

/-!
An offload against the operations it is made of.

An offload works on the device that connecting gave it, and skips the guards of the operations that
a caller would use one by one. A bridge that has connected has its device from then on, and a
kernel that it has loaded is its own, so none of these guards would have refused anything.
-/

namespace Offload.Bridge

open Offload.Action

/-- The operations before the launch: connecting, registering the heap unless a region is
registered, and loading the kernel. -/
def prepare (request : Request) (heap : Region) : Action Kernel := do
  let _ ← connect
  if (← get).bridge.heap?.isNone then
    let _ ← registerHeap heap
  loadKernel request.code

/-- The operations of an offload one by one, up to the first that fails. -/
def stepwise (request : Request) (heap : Region) : Action Unit := do
  let k ← prepare request heap
  let _ ← launch k request.dim request.args request.signature

variable {d : Device} {k : Kernel} {s s' : Scene} {request : Request} {heap : Region}

/-! ### Devices that differ in their heap alone -/

lemma loadOn_withHeap (d : Device) (region? : Option Region) (code : Code) :
    loadOn { d with heap := region? } code = loadOn d code := rfl

lemma pushAll_withHeap (d : Device) (region? : Option Region) (k : Kernel) (i : Nat)
    (args : List Value) : pushAll { d with heap := region? } k i args = pushAll d k i args := by
  induction args generalizing i with
  | nil => rfl
  | cons v args ih =>
    rw [pushAll, pushAll]
    simp only [ih]
    rfl

lemma launchOn_withHeap (d : Device) (region? : Option Region) (k : Kernel) (dim : Int32)
    (args : List Value) (signature : Signature) :
    launchOn { d with heap := region? } k dim args signature = launchOn d k dim args signature := by
  unfold launchOn
  simp only [pushAll_withHeap]
  rfl

lemma serve_withHeap (d : Device) (region? : Option Region) (request : Request) :
    serve { d with heap := region? } request = serve d request := by
  unfold serve
  simp only [loadOn_withHeap, launchOn_withHeap]

/-! ### The guards -/

lemma ready_of_createDevice {t : Table Simulator.EntryPoint} (h : createDevice t s = .ok d s') :
    s'.bridge.device = .ready d := by
  rcases hn : (s.fleet.createContext t.createContext).1.isNull
  · rcases hq : t.totalCores with _ | query
    · obtain ⟨notices, heq⟩ := createDevice_of_not_queried hn hq
      rw [heq] at h
      cases h
      rfl
    · obtain ⟨notices, heq⟩ := createDevice_of_queried hn hq
      rw [heq] at h
      cases h
      rfl
  · obtain ⟨notices, heq⟩ := createDevice_of_null hn
    rw [heq] at h
    cases h

/-- A bridge that has connected has its device. -/
lemma ready_of_connect (h : connect s = .ok d s') : s'.bridge.device = .ready d := by
  rw [connect_apply] at h
  rcases he : ensureTable s with ⟨t, s1⟩ | ⟨e, s1⟩ <;> simp only [he] at h
  · rcases hd : s1.bridge.device with _ | _ | d1 <;> simp only [hd] at h
    · exact ready_of_createDevice h
    · cases h
    · cases h
      exact hd
  · cases h

lemma requireDevice_of_ready (hd : s.bridge.device = .ready d) (operation : String) :
    requireDevice operation s = .ok d s := by
  rw [requireDevice_apply, hd]

lemma registerHeap_of_ready (hd : s.bridge.device = .ready d) (region : Region) :
    registerHeap region s = registerOn d region s := by
  rw [registerHeap, bind_apply, requireDevice_of_ready hd]

lemma loadKernel_of_ready (hd : s.bridge.device = .ready d) (code : Code) :
    loadKernel code s = loadOn d code s := by
  rw [loadKernel, bind_apply, requireDevice_of_ready hd]

lemma ready_of_registerOn {region region' : Region} (hd : s.bridge.device = .ready d)
    (h : registerOn d region s = .ok region' s') :
    s'.bridge.device = .ready { d with heap := some region } := by
  rcases he : region.isEmpty
  · rcases ha : (s.fleet.registerHeap d.table.registerHeap region.base region.size).1
    · obtain ⟨notices, heq⟩ := registerOn_of_rejected he ha
      rw [heq] at h
      cases h
    · obtain ⟨notices, heq⟩ := registerOn_of_accepted he ha
      rw [heq] at h
      cases h
      simp [Scene.withHeap, hd]
  · rw [registerOn_of_isEmpty he] at h
    cases h

/-- A kernel belongs to the bridge that has loaded it, which has its device still. -/
lemma own_of_loadOn {code : Code} (h : loadOn d code s = .ok k s') :
    s'.bridge = s.bridge ∧ k.owner = s.bridge.id := by
  rcases hn : (loading d code s.fleet).1.isNull
  · obtain ⟨notices, heq⟩ := loadOn_of_loaded hn
    rw [heq] at h
    cases h
    exact ⟨rfl, rfl⟩
  · obtain ⟨notices, heq⟩ := loadOn_of_null hn
    rw [heq] at h
    cases h

/-- The guards of loading and launching refuse nothing on a bridge that has its device. -/
lemma loadKernel_launch_eq_serve (hd : s.bridge.device = .ready d) (request : Request) :
    (loadKernel request.code >>= fun k =>
      launch k request.dim request.args request.signature >>= fun _ => pure ()) s =
      serve d request s := by
  unfold serve
  rw [bind_apply, bind_apply, loadKernel_of_ready hd]
  rcases hl : loadOn d request.code s with ⟨k, s1⟩ | ⟨e, s1⟩
  · obtain ⟨hbridge, howner⟩ := own_of_loadOn hl
    have hd' : s1.bridge.device = .ready d := by rw [hbridge, hd]
    have hown : s1.bridge.id = k.owner := by rw [hbridge, howner]
    simp only
    rw [bind_apply, bind_apply, launch_of_owner hd' hown]
  · rfl

lemma stepwise_of_connected (hc : connect s = .ok d s') (request : Request) (heap : Region) :
    stepwise request heap s = provide d request heap s' := by
  have hd : s'.bridge.device = .ready d := ready_of_connect hc
  unfold stepwise prepare provide
  rw [bind_apply, bind_apply, hc]
  simp only [bind_apply, get_apply, heap?_of_ready hd]
  by_cases hheap : d.heap.isNone
  · simp only [hheap, if_true, bind_apply, registerHeap_of_ready hd]
    rcases hr : registerOn d heap s' with ⟨region, s1⟩ | ⟨e, s1⟩
    · have hserve := loadKernel_launch_eq_serve (ready_of_registerOn hd hr) request
      rw [serve_withHeap] at hserve
      simpa only [bind_apply] using hserve
    · rfl
  · simp only [hheap, if_false, Bool.false_eq_true]
    simpa only [bind_apply] using loadKernel_launch_eq_serve hd request

lemma stepwise_of_not_connected {e : Fault} (hc : connect s = .error e s') (request : Request)
    (heap : Region) : stepwise request heap s = .error e s' := by
  unfold stepwise prepare
  rw [bind_apply, bind_apply, hc]

/-- After the operations before it, no guard of the launch refuses it. -/
lemma launch_of_prepare (h : prepare request heap s = .ok k s') :
    ∃ d, s'.bridge.device = .ready d ∧ k.owner = s'.bridge.id := by
  have hload : ∀ {s1 d}, s1.bridge.device = .ready d → loadKernel request.code s1 = .ok k s' →
      s'.bridge.device = .ready d ∧ k.owner = s'.bridge.id := by
    intro s1 d hd hl
    rw [loadKernel_of_ready hd] at hl
    obtain ⟨hbridge, howner⟩ := own_of_loadOn hl
    exact ⟨by rw [hbridge, hd], by rw [hbridge, howner]⟩
  unfold prepare at h
  rw [bind_apply] at h
  rcases hc : connect s with ⟨d, s1⟩ | ⟨e, s1⟩ <;> simp only [hc] at h
  · have hd : s1.bridge.device = .ready d := ready_of_connect hc
    simp only [bind_apply, get_apply, heap?_of_ready hd] at h
    by_cases hheap : d.heap.isNone
    · simp only [hheap, if_true, bind_apply, registerHeap_of_ready hd] at h
      rcases hr : registerOn d heap s1 with ⟨region, s2⟩ | ⟨e, s2⟩ <;> simp only [hr] at h
      · exact ⟨_, hload (ready_of_registerOn hd hr) h⟩
      · cases h
    · simp only [hheap, if_false, Bool.false_eq_true] at h
      exact ⟨d, hload hd h⟩
  · cases h

/-- **Offload by steps**: with no work items an offload is refused and changes nothing. Otherwise it
ends exactly as its operations do one by one: with the same answer, reports, calls, bridge and
devices. Once the kernel is loaded, the launch is the one on the device without any guard. -/
theorem offload_eq_stepwise (s : Scene) (request : Request) (heap : Region) :
    (request.dim ≤ 0 → offload request heap s = .error (.invalidRange request.dim) s) ∧
    (0 < request.dim → offload request heap s = stepwise request heap s) ∧
    ∀ k s', prepare request heap s = .ok k s' → ∃ d, s'.bridge.device = .ready d ∧
      k.owner = s'.bridge.id ∧
      launch k request.dim request.args request.signature s' =
        launchOn d k request.dim request.args request.signature s' := by
  refine ⟨fun hdim => ?_, fun hdim => ?_, fun k s' hk => ?_⟩
  · exact offload_of_not_range (Range.of_not_pos (Int32.not_lt.2 hdim))
  · rw [offload_of_range (Range.of_pos hdim)]
    rcases hc : connect s with ⟨d, s'⟩ | ⟨e, s'⟩
    · exact (stepwise_of_connected hc request heap).symm
    · exact (stepwise_of_not_connected hc request heap).symm
  · obtain ⟨d, hd, howner⟩ := launch_of_prepare hk
    exact ⟨d, hd, howner, launch_of_owner hd howner.symm⟩

/-- A first offload on a device: it ends as its operations do, the last of them on the device that
the first one has made; and without work items it is refused. -/
theorem offload_eq_stepwise_first :
    let s := Scene.of (.of 0 (.simulated 0) .default) (Simulator.Fleet.empty.install {})
    let request : Request := ⟨⟨[1], "k", by decide, by decide⟩,
      ⟨[.object, .int], false, none⟩, [.object 4096, .int 7], 16⟩
    offload request ⟨4096, 64⟩ s = stepwise request ⟨4096, 64⟩ s ∧
      (∃ k s' d, prepare request ⟨4096, 64⟩ s = .ok k s' ∧
        launch k 16 request.args request.signature s' =
          launchOn d k 16 request.args request.signature s') ∧
      offload { request with dim := 0 } ⟨4096, 64⟩ s = .error (.invalidRange 0) s := by
  intro s request
  obtain ⟨-, hpositive, hguards⟩ := offload_eq_stepwise s request ⟨4096, 64⟩
  obtain ⟨hrefused, -, -⟩ := offload_eq_stepwise s { request with dim := 0 } ⟨4096, 64⟩
  have hok : (prepare request ⟨4096, 64⟩).succeeds s = true := by decide +kernel
  obtain ⟨k, s', hk⟩ : ∃ k s', prepare request ⟨4096, 64⟩ s = .ok k s' := by
    rcases hp : prepare request ⟨4096, 64⟩ s with ⟨k, s'⟩ | ⟨e, s'⟩
    · exact ⟨k, s', rfl⟩
    · rw [not_succeeds_of_error hp] at hok
      cases hok
  obtain ⟨d, -, -, hlaunch⟩ := hguards k s' hk
  exact ⟨hpositive (by decide), ⟨k, s', d, hk, hlaunch⟩, hrefused (by decide)⟩

end Offload.Bridge
