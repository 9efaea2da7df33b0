import Offload.Proofs.Command.Launches

/-!
A run on a simulated device, from its command line to the executions on the device.

Everything that can stop the run is found out before the device is reached, or is one of three
refusals: of an empty heap, of code that begins with a zero, and of a launch that fails its check.
-/

namespace Offload

open Simulator

/-! ### Names of files -/

namespace Files

/-- Only a component that names something can lead to a file, and nothing can lead on from it. -/
lemma Tree.step_eq_atFile {t : Tree} {place : Place} {c : String} {bytes : List UInt8}
    (hplace : ∀ b, place ≠ .atFile b) (h : t.step place c = .ok (.atFile bytes)) :
    c ≠ "" ∧ c ≠ "." ∧ c ≠ ".." := by
  have hne : ∀ p, (Except.ok p : Except FileFault Place) = .ok (.atFile bytes) → place ≠ p := by
    rintro p hp rfl
    exact hplace bytes (Except.ok.inj hp)
  refine ⟨?_, ?_, ?_⟩
  · rintro rfl
    cases place <;> simp_all [Tree.step]
  · rintro rfl
    cases place <;> simp_all [Tree.step]
  · rintro rfl
    unfold Tree.step at h
    cases place with
    | inside parents => cases parents <;> simp_all
    | outside => simp_all
    | atFile b => exact hplace b rfl

/-- A walk that ends at a file ends with the name of the file. -/
lemma Tree.exists_last_of_foldlM {t : Tree} {start : Place} {parts : List String}
    {bytes : List UInt8} (hstart : ∀ b, start ≠ .atFile b)
    (h : parts.foldlM t.step start = .ok (.atFile bytes)) :
    ∃ front last, parts = front ++ [last] ∧ last ≠ "" ∧ last ≠ "." ∧ last ≠ ".." := by
  rcases List.eq_nil_or_concat parts with rfl | ⟨front, last, rfl⟩
  · exact absurd (Except.ok.inj h) (hstart bytes)
  rw [List.concat_eq_append] at h ⊢
  rw [List.foldlM_append] at h
  rcases hfront : front.foldlM t.step start with e | place
  · simp [hfront, bind, Except.bind] at h
  have hlast : t.step place last = .ok (.atFile bytes) := by
    rw [hfront] at h
    change (t.step place last >>= pure) = _ at h
    rwa [bind_pure] at h
  refine ⟨front, last, rfl, Tree.step_eq_atFile ?_ hlast⟩
  rintro b rfl
  simp [Tree.step] at hlast

/-- A path that can be read has a name. -/
lemma exists_stem_of_ofTree {t : Tree} {path : String} {bytes : List UInt8}
    (h : ofTree t path = .ok bytes) : ∃ name, stem? path = some name := by
  unfold ofTree at h
  split at h
  · simp at h
  split at h
  · simp at h
  split at h
  · simp at h
  dsimp only at h
  generalize hfrom : (if path.toList.head? = some '/' then Place.outside else .inside []) =
    start at h
  have hstart : ∀ b, start ≠ .atFile b := by
    intro b
    rw [← hfrom]
    split_ifs <;> simp
  split at h
  next b hwalk =>
    obtain ⟨front, last, hparts, hempty, hdot, hup⟩ := Tree.exists_last_of_foldlM hstart hwalk
    unfold stem?
    simp only [getLast?_named hparts hempty hdot]
    exact ⟨_, rfl⟩
  next => simp at h
  next => simp at h

end Files

namespace Command

open Bridge Offload.Action

variable {env : Environment} {o : RunOptions} {heap : Region} {settings : Settings}
  {signature : Signature} {job : Job}

/-! ### Before the device -/

lemma effectiveSettings_eq_ok_iff {backend : Backend} :
    (∃ settings, effectiveSettings env backend = .ok settings) ↔
      ∃ settings, Settings.ofEnvironment env.vars env.files = .ok settings := by
  unfold effectiveSettings
  rcases Settings.ofEnvironment env.vars env.files with e | settings <;> simp

lemma jobArguments_eq_ok_iff {args : List Value} :
    jobArguments o heap signature = .ok args ↔ readArguments signature heap o.args = .ok args := by
  unfold jobArguments
  rcases readArguments signature heap o.args with e | args' <;> simp [Except.mapError]

/-- The code of a run is what its file holds, under the name that the kernel goes by. -/
lemma jobCode_eq_ok_iff {code : Code} :
    jobCode env o = .ok code ↔
      env.files o.kernel = .ok code.bytes ∧ o.name.or (Files.stem? o.kernel) = some code.name := by
  unfold jobCode kernelName
  rcases env.files o.kernel with e | bytes
  · simp
  rcases o.name.or (Files.stem? o.kernel) with _ | name
  · simp [bind, Except.bind]
  have hcode : ofFault (Code.of bytes name) = .ok code ↔ Code.of bytes name = .ok code := by
    unfold ofFault
    rcases Code.of bytes name with e | code' <;> simp [Except.mapError]
  simp only [bind, Except.bind, hcode, Code.of_eq_ok_iff, Except.ok.injEq, Option.some.injEq]
  rw [eq_comm, @eq_comm _ name]

/-- The job that a run asks for, of what its texts and its file hold. -/
structure Job.Meets (job : Job) (env : Environment) (o : RunOptions) (heap : Region) : Prop where
  args : readArguments job.signature heap o.args = .ok job.args
  bytes : env.files o.kernel = .ok job.code.bytes
  name : o.name.or (Files.stem? o.kernel) = some job.code.name
  heap : job.heap = heap
  dim : job.dim = o.dim
  repeats : job.repeats = o.repeats.toNat

lemma prepare_eq_ok_iff :
    prepare env o signature heap = .ok job ↔ job.signature = signature ∧ job.Meets env o heap := by
  constructor
  · intro h
    unfold prepare at h
    rcases hargs : jobArguments o heap signature with e | args
    · simp [hargs, bind, Except.bind] at h
    rcases hcode : jobCode env o with e | code
    · simp [hargs, hcode, bind, Except.bind] at h
    simp only [hargs, hcode, bind, Except.bind, pure, Except.pure, Except.ok.injEq] at h
    subst h
    obtain ⟨hbytes, hname⟩ := jobCode_eq_ok_iff.1 hcode
    exact ⟨rfl, jobArguments_eq_ok_iff.1 hargs, hbytes, hname, rfl, rfl, rfl⟩
  · rintro ⟨rfl, h⟩
    unfold prepare
    rw [jobArguments_eq_ok_iff.2 h.args, jobCode_eq_ok_iff.2 ⟨h.bytes, h.name⟩]
    rw [← h.heap, ← h.dim, ← h.repeats]
    rfl

/-- All that a run does before it reaches the device has gone well, and comes to this job. -/
structure Prepared (env : Environment) (o : RunOptions) (heap : Region) (settings : Settings)
    (job : Job) : Prop where
  settings : effectiveSettings env o.backend = .ok settings
  signature : Signature.parse o.signature (!o.isInstance) = .ok job.signature
  meets : job.Meets env o heap

lemma Prepared.unique {settings' : Settings} {job' : Job} (h : Prepared env o heap settings job)
    (h' : Prepared env o heap settings' job') : job' = job := by
  have hsignature : job'.signature = job.signature :=
    Except.ok.inj (h'.signature.symm.trans h.signature)
  have hjob := prepare_eq_ok_iff.2 ⟨rfl, h.meets⟩
  have hjob' := prepare_eq_ok_iff.2 ⟨hsignature, h'.meets⟩
  exact Except.ok.inj (hjob'.symm.trans hjob)

lemma performRun_of_prepared (ha : env.allocate o.heapBytes = some heap)
    (h : Prepared env o heap settings job) :
    performRun env o = performJob job (stage env o.backend settings) := by
  unfold performRun
  simp only [h.settings, h.signature, ha, prepare_eq_ok_iff.2 ⟨rfl, h.meets⟩]

lemma performRun_of_not_prepared (ha : env.allocate o.heapBytes = some heap)
    (h : ∀ settings job, ¬ Prepared env o heap settings job) :
    ∃ failure, performRun env o = .failed failure := by
  unfold performRun
  rcases hsettings : effectiveSettings env o.backend with failure | settings
  · exact ⟨failure, rfl⟩
  rcases hsignature : Signature.parse o.signature (!o.isInstance) with flaw | signature
  · exact ⟨_, rfl⟩
  rcases hjob : prepare env o signature heap with failure | job
  · exact ⟨failure, by simp only [ha, hjob]⟩
  · obtain ⟨rfl, hmeets⟩ := prepare_eq_ok_iff.1 hjob
    exact absurd ⟨hsettings, hsignature, hmeets⟩ (h settings job)

/-! ### What is enough -/

/-- What a run on a simulated device needs to succeed: the name of its kernel, its signature and
its arguments. -/
structure RunOptions.Sufficient (o : RunOptions) (env : Environment) (heap : Region)
    (name : String) (signature : Signature) (args : List Value) : Prop where
  configured : ∃ settings, Settings.ofEnvironment env.vars env.files = .ok settings
  described : Signature.parse o.signature (!o.isInstance) = .ok signature
  read : readArguments signature heap o.args = .ok args
  coded : ∃ first rest, env.files o.kernel = .ok (first :: rest) ∧ first ≠ 0
  named : o.name.or (Files.stem? o.kernel) = some name
  noZero : '\x00' ∉ name.toList
  heap_pos : 0 < o.heapBytes
  launches : o.repeats = 0 ∨ 0 < o.dim ∧ signature.isVoid = true ∧
    (o.isInstance = true → args.head? ≠ some .null)

/-- Only an instance method has a receiver. -/
lemma hasReceiver_of_parse {descriptor : String} {isStatic : Bool}
    (h : Signature.parse descriptor isStatic = .ok signature) :
    signature.hasReceiver = !isStatic := by
  obtain ⟨parsed, -, rfl⟩ := exists_of_map_eq_ok h
  rfl

/-- Of a run that is made ready, the job is runnable if and only if what it needs is there. -/
lemma Prepared.runnable_iff (h : Prepared env o heap settings job)
    (hsize : heap.size = o.heapBytes) :
    job.Runnable ↔ o.Sufficient env heap job.code.name job.signature job.args := by
  have hmeets := h.meets
  have hreceiver := hasReceiver_of_parse h.signature
  rw [Bool.not_not] at hreceiver
  have hheap : job.heap.isEmpty = false ↔ 0 < o.heapBytes := by
    rw [hmeets.heap, ← hsize]
    simp [Region.isEmpty, UInt64.pos_iff_ne_zero]
  have hcode : job.code.bytes.head? ≠ some 0 ↔
      ∃ first rest, env.files o.kernel = .ok (first :: rest) ∧ first ≠ 0 := by
    obtain ⟨first, rest, hcons⟩ := List.exists_cons_of_ne_nil job.code.bytes_ne_nil
    rw [hmeets.bytes, hcons]
    simp
  have hrepeats : job.repeats = 0 ↔ o.repeats = 0 := by
    rw [hmeets.repeats]
    exact UInt32.toNat_inj (b := 0)
  have hlaunch : job.Launchable ↔ 0 < o.dim ∧ job.signature.isVoid = true ∧
      (o.isInstance = true → job.args.head? ≠ some .null) := by
    rw [← hmeets.dim, ← hreceiver]
    exact ⟨fun hl => ⟨hl.dim, hl.isVoid, fun hr hn => hl.receiver ⟨hr, hn⟩⟩,
      fun hl => ⟨hl.1, hl.2.1, fun hn => hl.2.2 hn.1 hn.2⟩⟩
  constructor
  · intro hr
    exact {
      configured := effectiveSettings_eq_ok_iff.1 ⟨settings, h.settings⟩
      described := h.signature
      read := hmeets.args
      coded := hcode.1 hr.code
      named := hmeets.name
      noZero := job.code.name_noZero
      heap_pos := hheap.1 hr.heap
      launches := hr.launches.imp hrepeats.1 hlaunch.1 }
  · intro hs
    exact {
      heap := hheap.2 hs.heap_pos
      code := hcode.2 hs.coded
      launches := hs.launches.imp hrepeats.2 hlaunch.2 }

/-- A run that has what it needs is made ready. -/
lemma RunOptions.Sufficient.prepared {name : String} {args : List Value}
    (h : o.Sufficient env heap name signature args) :
    ∃ settings job, Prepared env o heap settings job ∧ job.code.name = name ∧
      job.signature = signature ∧ job.args = args := by
  obtain ⟨settings, hsettings⟩ := effectiveSettings_eq_ok_iff.2 h.configured
  obtain ⟨first, rest, hbytes, -⟩ := h.coded
  let code : Code := ⟨first :: rest, name, by simp, h.noZero⟩
  let job : Job := ⟨code, signature, args, heap, o.dim, o.repeats.toNat⟩
  have hmeets : job.Meets env o heap := ⟨h.read, hbytes, h.named, rfl, rfl, rfl⟩
  exact ⟨settings, job, ⟨hsettings, h.described, hmeets⟩, rfl, rfl, rfl⟩

/-- What a run that is made ready needs, it needs for the name and the arguments of its job. -/
lemma Prepared.of_sufficient (h : Prepared env o heap settings job)
    (hsize : heap.size = o.heapBytes) {name : String} {args : List Value}
    (hs : o.Sufficient env heap name signature args) :
    job.Runnable ∧ name = job.code.name ∧ args = job.args := by
  obtain ⟨settings', job', h', rfl, rfl, rfl⟩ := hs.prepared
  obtain rfl := h.unique h'
  exact ⟨(h.runnable_iff hsize).2 hs, rfl, rfl⟩

/-- A kernel whose file can be read always has a name to go by. -/
lemma RunOptions.exists_name (o : RunOptions) {t : Files.Tree} {bytes : List UInt8}
    (h : Files.ofTree t o.kernel = .ok bytes) :
    ∃ name, o.name.or (Files.stem? o.kernel) = some name := by
  obtain ⟨stem, hstem⟩ := Files.exists_stem_of_ofTree h
  cases o.name with
  | none => exact ⟨stem, hstem⟩
  | some name => exact ⟨name, rfl⟩

/-! ### The outcome -/

/-- What a device has executed by the end of a command. -/
def Outcome.executions (outcome : Outcome) (id : Nat) : List Call :=
  (outcome.fleet.journal id).toList.filter Call.isExecute

lemma Outcome.executions_failed (failure : Failure) (id : Nat) :
    (failed failure).executions id = [] := rfl

lemma Prepared.fits (h : Prepared env o heap settings job) (hheap : heap.Allocated) :
    Marshal.Fits job.signature job.heap job.args := by
  rw [h.meets.heap]
  exact (fits_of_readArguments hheap h.meets.args).1

lemma performJob_of_ok {scene scene' : Scene} {k : Kernel} (h : runJob job scene = .ok k scene') :
    performJob job scene =
      ({ exitCode := 0, output := ranText job k } : Outcome).after scene' := by
  rw [performJob, h]

lemma performJob_of_error {scene scene' : Scene} {e : Fault}
    (h : runJob job scene = .error e scene') :
    performJob job scene = (Outcome.failed (runFailure e)).after scene' := by
  rw [performJob, h]

/-- The outcome of a job whose arguments fit, on the simulated device of a run. -/
lemma performJob_of_simulated (env : Environment) {backend : Backend}
    (hsimulate : backend.simulate = true) (settings : Settings)
    (hfits : Marshal.Fits job.signature job.heap job.args) :
    let outcome := performJob job (stage env backend settings)
    (job.Runnable → outcome.exitCode = 0 ∧
      (∃ k, outcome.output = ranText job k ∧ k.name = job.code.name ∧
        k.launches = job.repeats) ∧
      ∀ id, outcome.executions id =
        if id = 0 then List.replicate job.repeats job.execution else []) ∧
    (¬ job.Runnable → outcome.exitCode = 1 ∧ ∀ id, outcome.executions id = []) := by
  have hstage : stage env backend settings = .of (.of 0 (.simulated 0) settings)
      (Fleet.empty.install { totalCores := backend.simCores }) := by
    rw [stage, if_pos hsimulate]
  have huntried : Untried Fleet.empty.nextSlot (stage env backend settings) := by
    rw [hstage]
    exact ⟨rfl, rfl, rfl, Fleet.willing_install _⟩
  obtain ⟨hends, hfails⟩ := runJob_of_untried job huntried hfits
  refine ⟨fun hr => ?_, fun hr => ?_⟩
  · obtain ⟨k, s', kernels, hrun, hname, hlaunches, hwilling⟩ := hends hr
    rw [performJob_of_ok hrun]
    exact ⟨rfl, ⟨k, rfl, hname, hlaunches⟩, hwilling.executions⟩
  · obtain ⟨e, s', kernels, hrun, hwilling⟩ := hfails hr
    rw [performJob_of_error hrun]
    exact ⟨rfl, fun id => (hwilling.executions id).trans (ite_self _)⟩

/-- **A run on a simulated device** succeeds if and only if it has what it needs: settings,
signature and arguments that can be read, code and a name that can be handed over, a heap that is
not empty, and launches that pass their check unless there are none. It then says what it did, and
the device has executed the kernel as often as it was to, each time with the arguments that were
read. Otherwise nothing was executed. A path that can be read always gives the kernel a name. -/
theorem carryOut_run_simulated {env : Environment} {words : List String} {verbose : Bool}
    {o : RunOptions} {heap : Region} (hparse : parse words = .ok ⟨verbose, .run o⟩)
    (hsimulate : o.backend.simulate = true) (ha : env.allocate o.heapBytes = some heap)
    (hsize : heap.size = o.heapBytes) (hheap : heap.Allocated) :
    let outcome := carryOut env words
    (outcome.exitCode = 0 ↔ ∃ name signature args, o.Sufficient env heap name signature args) ∧
    (∀ name signature args, o.Sufficient env heap name signature args →
      outcome.output = "kernel '" ++ name ++ "' ran " ++ toString o.repeats.toNat ++
        " time(s) over [" ++ toString o.dim.toInt ++ "] with " ++ toString args.length ++
        " argument(s)" ∧
      ∀ id, outcome.executions id =
        if id = 0 then List.replicate o.repeats.toNat (.execute name o.dim (args.map Value.pushed))
        else []) ∧
    (outcome.exitCode ≠ 0 → outcome.exitCode = 1 ∧ ∀ id, outcome.executions id = []) ∧
    ∀ tree bytes, Files.ofTree tree o.kernel = .ok bytes →
      ∃ name, o.name.or (Files.stem? o.kernel) = some name := by
  have houtcome : carryOut env words = performRun env o := by simp only [carryOut, hparse, perform]
  simp only
  rw [houtcome]
  by_cases hprepared : ∃ settings job, Prepared env o heap settings job
  · obtain ⟨settings, job, hp⟩ := hprepared
    obtain ⟨hends, hfails⟩ := performJob_of_simulated env hsimulate settings (hp.fits hheap)
    rw [performRun_of_prepared ha hp]
    refine ⟨⟨fun hzero => ?_, ?_⟩, ?_, fun hne => ?_, fun _ _ => o.exists_name⟩
    · by_contra hnot
      have hfail := hfails fun hr => hnot ⟨_, _, _, (hp.runnable_iff hsize).1 hr⟩
      omega
    · rintro ⟨name, signature, args, hs⟩
      exact (hends (hp.of_sufficient hsize hs).1).1
    · intro name signature args hs
      obtain ⟨hr, rfl, rfl⟩ := hp.of_sufficient hsize hs
      obtain ⟨-, ⟨k, houtput, hname, hlaunches⟩, hexecutions⟩ := hends hr
      rw [← hp.meets.dim, ← hp.meets.repeats]
      refine ⟨?_, hexecutions⟩
      rw [houtput, ← hname, ← hlaunches]
      rfl
    · exact hfails fun hr => hne (hends hr).1
  · obtain ⟨failure, hfailed⟩ := performRun_of_not_prepared ha fun settings job hp =>
      hprepared ⟨settings, job, hp⟩
    have hnone : ∀ name signature args, ¬ o.Sufficient env heap name signature args := by
      intro name signature args hs
      obtain ⟨settings, job, hp, -⟩ := hs.prepared
      exact hprepared ⟨settings, job, hp⟩
    rw [hfailed]
    refine ⟨⟨fun hzero => by simp [Outcome.failed] at hzero, ?_⟩, ?_, fun _ => ⟨rfl, ?_⟩,
      fun _ _ => o.exists_name⟩
    · rintro ⟨name, signature, args, hs⟩
      exact absurd hs (hnone _ _ _)
    · intro name signature args hs
      exact absurd hs (hnone _ _ _)
    · exact Outcome.executions_failed failure

/-- Two launches of an instance method, and none where the receiver is null. -/
theorem carryOut_run_simulated_receiver :
    let env : Environment := {
      vars := fun _ => none
      files := Files.ofTree [("bin/k.hsa", .file [7, 0, 1])]
      loads := fun _ => false
      allocate := fun size => some ⟨4096, size⟩ }
    let words := fun receiver => ["run", "--simulate", "--kernel", "bin/k.hsa", "--dim", "16",
      "--signature", "(I)V", "--instance", "--arg", receiver, "--arg", "-3", "--heap-bytes", "64",
      "--repeat", "2"]
    let execution : Call := .execute "k" 16 ([.object 4104, .int (-3)].map Value.pushed)
    (carryOut env (words "@8")).exitCode = 0 ∧
      (carryOut env (words "@8")).output =
        "kernel 'k' ran 2 time(s) over [16] with 2 argument(s)" ∧
      (carryOut env (words "@8")).executions 0 = [execution, execution] ∧
      (carryOut env (words "null")).exitCode = 1 ∧
      (carryOut env (words "null")).executions 0 = [] := by
  intro env words execution
  let o : String → RunOptions := fun receiver => {
    backend := ⟨true, none, none⟩, kernel := "bin/k.hsa", name := none, signature := "(I)V"
    isInstance := true, dim := 16, args := [receiver, "-3"], heapBytes := 64, repeats := 2 }
  have hparse : parse (words "@8") = .ok ⟨false, .run (o "@8")⟩ := by decide +kernel
  have hparse' : parse (words "null") = .ok ⟨false, .run (o "null")⟩ := by decide +kernel
  have ha : ∀ receiver, env.allocate (o receiver).heapBytes = some ⟨4096, 64⟩ := fun _ => rfl
  have hheap : Region.Allocated ⟨4096, 64⟩ := ⟨by decide, by decide⟩
  have hs : (o "@8").Sufficient env ⟨4096, 64⟩ "k" (.void [.int] true)
      [.object 4104, .int (-3)] := {
    configured := ⟨.default, rfl⟩
    described := by decide +kernel
    read := by decide +kernel
    coded := ⟨7, [0, 1], by decide +kernel, by decide⟩
    named := by decide +kernel
    noZero := by decide
    heap_pos := by decide
    launches := .inr (by decide) }
  obtain ⟨hzero, hends, -, -⟩ := carryOut_run_simulated hparse rfl (ha _) rfl hheap
  obtain ⟨-, -, hfails, -⟩ := carryOut_run_simulated hparse' rfl (ha _) rfl hheap
  obtain ⟨houtput, hexecutions⟩ := hends _ _ _ hs
  have hrefused : (carryOut env (words "null")).exitCode ≠ 0 := by decide +kernel
  obtain ⟨hone, hnothing⟩ := hfails hrefused
  exact ⟨hzero.2 ⟨_, _, _, hs⟩, houtput.trans (by decide +kernel), hexecutions 0, hone, hnothing 0⟩

end Command

end Offload
