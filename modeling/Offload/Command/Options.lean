import Offload.Command.Words

/-!
Reading a command line.

The words are taken from left to right. An option without an attached value waits for the next
word; what it was given is settled when the next name comes or the line ends, so that an unknown
name in between is the error that counts. Only the option for arguments takes a word that begins
with a dash. No name but that option's may come twice.
-/

namespace Offload.Command

/-- What a command line has given so far. -/
structure Given where
  verbose : Bool := false
  simulate : Bool := false
  json : Bool := false
  isInstance : Bool := false
  library : Option String := none
  simCores : Option UInt32 := none
  kernel : Option String := none
  name : Option String := none
  signature : Option String := none
  dim : Option Int32 := none
  args : Array String := #[]
  heapBytes : Option UInt64 := none
  repeats : Option UInt32 := none
  deriving DecidableEq, Repr

/-- A number between two bounds. -/
def boundedInt (low high : Int) (text : String) : Except UsageError Int :=
  match Text.readSigned Int64.size text.toList with
  | .ok n => if low ≤ n ∧ n ≤ high then .ok n else .error .badValue
  | .error _ => .error .badValue

def count32 (text : String) : Except UsageError UInt32 :=
  (boundedInt 0 (UInt32.size - 1 : Nat) text).map fun n => UInt32.ofNat n.toNat

def int32 (text : String) : Except UsageError Int32 :=
  (boundedInt Int32.minValue.toInt Int32.maxValue.toInt text).map Int32.ofInt

def size64 (text : String) : Except UsageError UInt64 :=
  match Text.readUnsigned 10 UInt64.size text.toList with
  | .ok n => .ok (UInt64.ofNat n)
  | .error _ => .error .badValue

def path (text : String) : Except UsageError String :=
  if text.isEmpty then .error .noValue else .ok text

/-- The value of an option that may come once. -/
def once {α : Type} (before : Option α) (value : Except UsageError α) :
    Except UsageError (Option α) :=
  if before.isSome then .error .conflict else value.map some

namespace Given

variable (g : Given)

def set : Opt → String → Except UsageError Given
  | .library, text => (once g.library (path text)).map fun v => { g with library := v }
  | .simCores, text => (once g.simCores (count32 text)).map fun v => { g with simCores := v }
  | .kernel, text => (once g.kernel (path text)).map fun v => { g with kernel := v }
  | .name, text => (once g.name (.ok text)).map fun v => { g with name := v }
  | .signature, text => (once g.signature (.ok text)).map fun v => { g with signature := v }
  | .dim, text => (once g.dim (int32 text)).map fun v => { g with dim := v }
  | .arg, text => .ok { g with args := g.args.push text }
  | .heapBytes, text => (once g.heapBytes (size64 text)).map fun v => { g with heapBytes := v }
  | .repeats, text => (once g.repeats (count32 text)).map fun v => { g with repeats := v }

def raise : Flag → Except UsageError Given
  | .help => .error .helpAsked
  | .version => .error .versionAsked
  | .verbose => if g.verbose then .error .conflict else .ok { g with verbose := true }
  | .simulate => if g.simulate then .error .conflict else .ok { g with simulate := true }
  | .json => if g.json then .error .conflict else .ok { g with json := true }
  | .isInstance => if g.isInstance then .error .conflict else .ok { g with isInstance := true }

end Given

/-- An option that has been named without a value, and the word that came as one since. -/
structure Pending where
  opt : Opt
  value : Option String
  deriving DecidableEq, Repr

/-- The state of reading within one scope. -/
structure Line where
  given : Given := {}
  pending : Option Pending := none
  /-- Whether two dashes have ended the options. -/
  escaped : Bool := false
  deriving DecidableEq, Repr

namespace Line

variable (l : Line)

/-- Settles the pending option. -/
def settle : Except UsageError Line :=
  match l.pending with
  | none => .ok l
  | some ⟨_, none⟩ => .error .noValue
  | some ⟨opt, some v⟩ =>
    (l.given.set opt v).map fun given => { l with given, pending := none }

/-- The option that still waits for its value. -/
def waiting? : Option Opt :=
  match l.pending with
  | some ⟨opt, none⟩ => some opt
  | _ => none

def raise (f : Flag) : Except UsageError Line := do
  let l ← l.settle
  return { l with given := ← l.given.raise f }

def set (opt : Opt) (value : String) : Except UsageError Line := do
  let l ← l.settle
  return { l with given := ← l.given.set opt value }

def await (opt : Opt) : Except UsageError Line := do
  let l ← l.settle
  return { l with pending := some ⟨opt, none⟩ }

def long (scope : Scope) (name : String) (value : Option String) : Except UsageError Line :=
  match scope.flag? name, scope.opt? name, value with
  | some f, _, none => l.raise f
  | some _, _, some _ => .error .tooManyValues
  | none, some opt, none => l.await opt
  | none, some opt, some v => l.set opt v
  | none, none, _ => .error .unknownArgument

def short (scope : Scope) (letters : List Char) : Except UsageError Line :=
  letters.foldlM (fun l c =>
    match scope.letter? c with
    | some f => raise l f
    | none => .error .unknownArgument) l

/-- Reads one word behind the command. -/
def step (scope : Scope) (w : String) : Except UsageError Line :=
  if l.escaped then .error .unknownArgument
  else if l.waiting? = some .arg then .ok { l with pending := some ⟨.arg, some w⟩ }
  else
    match Word.of w with
    | .escape => .ok { l with escaped := true }
    | .long name value => l.long scope name value
    | .short letters => l.short scope letters
    | .plain =>
      match l.waiting? with
      | some opt => .ok { l with pending := some ⟨opt, some w⟩ }
      | none => .error .unknownArgument

def run (scope : Scope) (words : List String) : Except UsageError Line :=
  words.foldlM (fun l w => step l scope w) l

end Line

/-- What the words behind a command give. -/
def Given.ofWords (scope : Scope) (words : List String) : Except UsageError Given := do
  return (← (← Line.run {} scope words).settle).given

/-- Which device a command works with. -/
structure Backend where
  simulate : Bool
  library : Option String
  simCores : Option UInt32
  deriving DecidableEq, Repr

structure RunOptions where
  backend : Backend
  kernel : String
  name : Option String
  signature : String
  isInstance : Bool
  dim : Int32
  args : List String
  heapBytes : UInt64
  repeats : UInt32
  deriving DecidableEq, Repr

/-- What a command line asks for. -/
inductive Task
  | info (backend : Backend) (json : Bool)
  | run (options : RunOptions)
  deriving DecidableEq, Repr

structure Invocation where
  verbose : Bool
  task : Task
  deriving DecidableEq, Repr

namespace Given

variable (g : Given)

/-- The backend; a number of simulated cores asks for the simulation. -/
def backend : Except UsageError Backend :=
  if g.simCores.isSome ∧ !g.simulate then .error .missingArgument
  else .ok ⟨g.simulate, g.library, g.simCores⟩

def info : Except UsageError Task := do return .info (← g.backend) g.json

def run : Except UsageError Task := do
  let backend ← g.backend
  match g.kernel, g.dim with
  | some kernel, some dim =>
    return .run {
      backend, kernel, dim
      name := g.name
      signature := g.signature.getD "()V"
      isInstance := g.isInstance
      args := g.args.toList
      heapBytes := g.heapBytes.getD 1048576
      repeats := g.repeats.getD 1 }
  | _, _ => .error .missingArgument

end Given

def commandNames : List String := ["info", "run", "help"]

/-- Help on a command: of its name at most one word may follow. -/
def askHelp : List String → UsageError
  | [] => .helpAsked
  | [w] => if w ∈ commandNames then .helpAsked else .unknownCommand
  | _ => .unknownCommand

/-- Reads a line from before its command. -/
def parseFrom (l : Line) : List String → Except UsageError Invocation
  | [] => .error (if l.given.verbose then .noCommand else .nothingGiven)
  | w :: ws =>
    if l.escaped then .error (if w ∈ commandNames then .unknownArgument else .unknownCommand)
    else if w = "info" then do
      let g ← Given.ofWords .info ws
      return ⟨l.given.verbose || g.verbose, ← g.info⟩
    else if w = "run" then do
      let g ← Given.ofWords .run ws
      return ⟨l.given.verbose || g.verbose, ← g.run⟩
    else if w = "help" then .error (askHelp ws)
    else if Word.of w = .plain then .error .unknownCommand
    else
      match l.step .top w with
      | .ok l' => parseFrom l' ws
      | .error e => .error e

/-- The task that the words of a command line ask for. -/
def parse (words : List String) : Except UsageError Invocation := parseFrom {} words

end Offload.Command
