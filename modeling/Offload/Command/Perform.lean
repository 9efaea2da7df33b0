import Offload.Command.Options
import Offload.Command.Arguments
import Offload.Settings.Sources
import Offload.Settings.Writer
import Offload.Bridge.Launch

/-!
Carrying out a command: what it prints, how it ends, and what the devices have seen by then.
-/

namespace Offload.Command

open Simulator (Fleet)

/-- What a command finds around it. -/
structure Environment where
  vars : Settings.Variables
  files : Files
  /-- Whether a library can be loaded. -/
  loads : String → Bool
  /-- Host memory of so many bytes, if there is so much. -/
  allocate : UInt64 → Option Region

/-- Messages of a failure, the outermost first. -/
abbrev Failure := List String

structure Outcome where
  exitCode : Nat
  output : String := ""
  errors : String := ""
  /-- The devices as the command leaves them. -/
  fleet : Fleet := .empty
  notices : List Notice := []

/-- A cause behind its label, its further lines indented as deep. -/
def indented (label indent cause : String) : String :=
  label ++ ("\n" ++ indent).intercalate ((cause.toList.splitOn '\n').map String.ofList)

/-- Numbers the causes from `i`. -/
def numbered : Nat → List String → String
  | _, [] => ""
  | i, cause :: rest =>
    let digits := toString i
    let label := String.ofList (List.replicate (5 - digits.length) ' ') ++ digits ++ ": "
    "\n" ++ indented label "       " cause ++ numbered (i + 1) rest

/-- A failure as it is reported: its causes below it, numbered when there are several. -/
def failureText : Failure → String
  | [] => "Error: \n"
  | [message] => "Error: " ++ message ++ "\n"
  | [message, cause] =>
    "Error: " ++ message ++ "\n\nCaused by:\n" ++ indented "    " "    " cause ++ "\n"
  | message :: causes => "Error: " ++ message ++ "\n\nCaused by:" ++ numbered 0 causes ++ "\n"

namespace Outcome

def failed (failure : Failure) : Outcome := { exitCode := 1, errors := failureText failure }

/-- An outcome with what a scene has come to. -/
def after (o : Outcome) (scene : Scene) : Outcome :=
  { o with fleet := scene.fleet, notices := scene.notices.toList }

end Outcome

/-- The settings from the environment, under those of the command line. -/
def effectiveSettings (env : Environment) (backend : Backend) : Except Failure Settings :=
  match Settings.ofEnvironment env.vars env.files with
  | .ok s => .ok (Settings.overrideLibrary backend.library s)
  | .error e => .error ["reading okra configuration", e.message]

/-- A bridge over the device that a command works with. -/
def stage (env : Environment) (backend : Backend) (settings : Settings) : Scene :=
  if backend.simulate then
    .of (.of 0 (.simulated 0) settings) (Fleet.empty.install { totalCores := backend.simCores })
  else
    let library := settings.libraryText
    .of (.of 0 (.library library (env.loads library)) settings) .empty

def unavailableText : String := "\nGPU offload unavailable; kernels run on the host.\n"

/-- What is found out about a device. -/
def inspect (scene : Scene) : String × Scene :=
  match Bridge.link scene with
  | .error e scene => ("  Linkage: [ ] " ++ e.message ++ "\n" ++ unavailableText, scene)
  | .ok _ scene =>
    match Bridge.connect scene with
    | .error e scene =>
      ("  Linkage: [x]\n  Context: [ ] " ++ e.message ++ "\n" ++ unavailableText, scene)
    | .ok d scene =>
      ("  Linkage: [x]\n  Context: [x]\n\nDevice\n  Cores:   " ++ toString d.cores.toNat ++ "\n",
        scene)

def version : String := "0.1.0"

def performInfo (env : Environment) (backend : Backend) (json : Bool) : Outcome :=
  match effectiveSettings env backend with
  | .error failure => .failed failure
  | .ok settings =>
    if json then
      match settings.render with
      | .ok text => { exitCode := 0, output := text ++ "\n" }
      | .error reason => .failed [(Fault.config reason).message]
    else
      let library := if backend.simulate then "(simulated)" else settings.libraryText
      let (found, scene) := inspect (stage env backend settings)
      let output :=
        "okra bridge v" ++ version ++ "\n\nRuntime\n  Library: " ++ library ++ "\n" ++ found
      { exitCode := 0, output : Outcome }.after scene

/-- A run made ready: the kernel's code, its arguments and the memory they point into. -/
structure Job where
  code : Code
  signature : Signature
  args : List Value
  heap : Region
  dim : Int32
  repeats : Nat

/-- The name a kernel goes by: the one given, or else its file's. -/
def kernelName (o : RunOptions) : Except Failure String :=
  match o.name.or (Files.stem? o.kernel) with
  | some name => .ok name
  | none => .error ["kernel path has no file name; pass --name"]

def ofFault {α : Type} (r : Except Fault α) : Except Failure α :=
  r.mapError fun e => [e.message]

/-- The arguments of a run. -/
def jobArguments (o : RunOptions) (heap : Region) (signature : Signature) :
    Except Failure (List Value) :=
  (readArguments signature heap o.args).mapError ArgumentsFault.messages

/-- The code of a run. -/
def jobCode (env : Environment) (o : RunOptions) : Except Failure Code :=
  match env.files o.kernel with
  | .error e => .error ["reading " ++ o.kernel, e.message]
  | .ok bytes => do
    let name ← kernelName o
    ofFault (Code.of bytes name)

def prepare (env : Environment) (o : RunOptions) (signature : Signature) (heap : Region) :
    Except Failure Job := do
  let args ← jobArguments o heap signature
  let code ← jobCode env o
  return ⟨code, signature, args, heap, o.dim, o.repeats.toNat⟩

/-- Launches a kernel so many times. -/
def launchTimes (job : Job) : Nat → Kernel → Action Kernel
  | 0, k => pure k
  | n + 1, k => do
    let k ← Bridge.launch k job.dim job.args job.signature
    launchTimes job n k

def runJob (job : Job) : Action Kernel := do
  let d ← Bridge.connect
  let _ ← Bridge.registerHeap job.heap
  let k ← Bridge.loadOn d job.code
  launchTimes job job.repeats k

/-- A kernel that cannot be loaded would still run on the host. -/
def runFailure : Fault → Failure
  | .kernelLoad name => [(Fault.kernelLoad name).message ++ " (the kernel would run on the host)"]
  | e => [e.message]

def ranText (job : Job) (k : Kernel) : String :=
  "kernel '" ++ k.name ++ "' ran " ++ toString k.launches ++ " time(s) over [" ++
    toString job.dim.toInt ++ "] with " ++ toString job.args.length ++ " argument(s)"

def performJob (job : Job) (scene : Scene) : Outcome :=
  match runJob job scene with
  | .ok k scene => { exitCode := 0, output := ranText job k : Outcome }.after scene
  | .error e scene => (Outcome.failed (runFailure e)).after scene

def performRun (env : Environment) (o : RunOptions) : Outcome :=
  match effectiveSettings env o.backend with
  | .error failure => .failed failure
  | .ok settings =>
    match Signature.parse o.signature (!o.isInstance) with
    | .error flaw => .failed [(Fault.ofFlaw o.signature flaw).message]
    | .ok signature =>
      match env.allocate o.heapBytes with
      | none => { exitCode := 101 }
      | some heap =>
        match prepare env o signature heap with
        | .error failure => .failed failure
        | .ok job => performJob job (stage env o.backend settings)

def perform (env : Environment) : Task → Outcome
  | .info backend json => performInfo env backend json
  | .run o => performRun env o

/-- What comes of a line that is not carried out. Asking for the version is answered. -/
def refuse (e : UsageError) : Outcome :=
  { exitCode := e.exitCode
    output := if e = .versionAsked then "okra " ++ version ++ "\n" else "" }

def carryOut (env : Environment) (words : List String) : Outcome :=
  match parse words with
  | .ok invocation => perform env invocation.task
  | .error e => refuse e

end Offload.Command
