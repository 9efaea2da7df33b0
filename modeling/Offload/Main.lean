import Offload.Command.Perform

/-!
The command line program: gathers what a command may ask of its surroundings, carries it out and
prints what comes of it.
-/

namespace Offload.Main

/-- Reads a file if the path is one of those that a command asks for. -/
def readForCommand (path : String) : IO (Except FileFault (List UInt8)) := do
  if '\x00' ∈ path.toList then return .error .zeroInName
  try
    return .ok (← IO.FS.readBinFile path).toList
  catch e =>
    match e with
    | .inappropriateType _ code _ =>
      return .error (if code = 21 then .isDirectory else .notDirectory)
    | .invalidArgument _ _ _ => return .error .nameTooLong
    | _ => return .error .notFound

/-- The files that a command line can lead to: the settings and the kernel. -/
def pathsAsked (vars : Settings.Variables) (task : Command.Task) : List String :=
  (vars Settings.configVariable).toList ++
    match task with
    | .info _ _ => []
    | .run o => [o.kernel]

def variablesNow : IO Settings.Variables := do
  let names := [Settings.configVariable, Settings.libraryVariable, Settings.coresVariable]
  let values ← names.mapM fun name => do return (name, ← IO.getEnv name)
  return fun name => (List.lookup name values).join

def environmentNow (task : Command.Task) : IO Command.Environment := do
  let vars ← variablesNow
  let contents ← (pathsAsked vars task).mapM fun path => do
    return (path, ← readForCommand path)
  return {
    vars
    files := fun path => (List.lookup path contents).getD (.error .notFound)
    loads := fun _ => false
    allocate := fun size => some (if size = 0 then ⟨1, 0⟩ else ⟨4096, size⟩) }

def usage : String :=
  "Usage: okra [-v] info [--simulate] [--library PATH] [--sim-cores N] [--json]\n" ++
  "       okra [-v] run --kernel PATH --dim N [--name NAME] [--signature DESCRIPTOR]\n" ++
  "                 [--instance] [--arg VALUE]... [--heap-bytes N] [--repeat N]\n" ++
  "                 [--simulate] [--library PATH] [--sim-cores N]\n"

/-- Notices worth printing: all of them, or all but the finest. -/
def isShown (verbose : Bool) (n : Notice) : Bool := verbose || n.level ≠ .debug

def isRun : Command.Task → Bool
  | .info _ _ => false
  | .run _ => true

end Offload.Main

open Offload Offload.Main

def main (words : List String) : IO UInt32 := do
  match Command.parse words with
  | .error e =>
    let outcome : Command.Outcome := Command.refuse e
    if outcome.output.isEmpty then
      if outcome.exitCode = 0 then IO.print usage else IO.eprint usage
    IO.print outcome.output
    return outcome.exitCode.toUInt32
  | .ok invocation =>
    let env ← environmentNow invocation.task
    let started ← IO.monoMsNow
    let outcome := Command.perform env invocation.task
    for n in outcome.notices do
      if isShown invocation.verbose n then IO.eprintln n.text
    IO.print outcome.output
    let elapsed := (← IO.monoMsNow) - started
    if isRun invocation.task && outcome.exitCode = 0 then
      IO.println (" in " ++ toString elapsed ++ "ms")
    IO.eprint outcome.errors
    return outcome.exitCode.toUInt32
