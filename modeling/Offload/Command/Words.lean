import Offload.Text.Integer

/-!
The words of a command line, and the flags and options they may stand for.

A word of two dashes ends the options; one that begins with them is a long name, perhaps with an
attached value; one dash before letters is a row of flags; anything else, a lone dash too, is plain.
-/

namespace Offload.Command

inductive Word
  | escape
  | long (name : String) (value : Option String)
  | short (letters : List Char)
  | plain
  deriving DecidableEq, Repr

/-- The value attached behind the first equals sign, if there is one. -/
def attached : List Char → Option String
  | [] => none
  | c :: cs => if c = '=' then some (String.ofList cs) else attached cs

def Word.of (w : String) : Word :=
  match w.toList with
  | ['-', '-'] => .escape
  | '-' :: '-' :: rest => .long (String.ofList (rest.takeWhile (· ≠ '='))) (attached rest)
  | '-' :: c :: rest => .short (c :: rest)
  | _ => .plain

/-- Names that stand for themselves. -/
inductive Flag
  | verbose
  | help
  | version
  | simulate
  | json
  | isInstance
  deriving DecidableEq, Repr

/-- Names that take a value. -/
inductive Opt
  | library
  | simCores
  | kernel
  | name
  | signature
  | dim
  | arg
  | heapBytes
  | repeats
  deriving DecidableEq, Repr

def Flag.spelling : Flag → String
  | .verbose => "verbose"
  | .help => "help"
  | .version => "version"
  | .simulate => "simulate"
  | .json => "json"
  | .isInstance => "instance"

def Opt.spelling : Opt → String
  | .library => "library"
  | .simCores => "sim-cores"
  | .kernel => "kernel"
  | .name => "name"
  | .signature => "signature"
  | .dim => "dim"
  | .arg => "arg"
  | .heapBytes => "heap-bytes"
  | .repeats => "repeat"

def Flag.letter? : Flag → Option Char
  | .verbose => some 'v'
  | .help => some 'h'
  | .version => some 'V'
  | _ => none

/-- Where on the line a word stands: before the command, or behind one of the two. -/
inductive Scope
  | top
  | info
  | run
  deriving DecidableEq, Repr

def Scope.flags : Scope → List Flag
  | .top => [.verbose, .help, .version]
  | .info => [.verbose, .help, .simulate, .json]
  | .run => [.verbose, .help, .simulate, .isInstance]

def Scope.opts : Scope → List Opt
  | .top => []
  | .info => [.library, .simCores]
  | .run =>
    [.library, .simCores, .kernel, .name, .signature, .dim, .arg, .heapBytes, .repeats]

def Scope.flag? (s : Scope) (name : String) : Option Flag :=
  s.flags.find? fun f => f.spelling = name

def Scope.opt? (s : Scope) (name : String) : Option Opt :=
  s.opts.find? fun o => o.spelling = name

def Scope.letter? (s : Scope) (c : Char) : Option Flag :=
  s.flags.find? fun f => f.letter? = some c

/-- Why a command line is not carried out. -/
inductive UsageError
  | helpAsked
  | versionAsked
  | nothingGiven
  | noCommand
  | unknownCommand
  | unknownArgument
  | conflict
  | tooManyValues
  /-- An option without its value, or a path that is empty. -/
  | noValue
  | badValue
  | missingArgument
  deriving DecidableEq, Repr

def UsageError.exitCode : UsageError → Nat
  | .helpAsked | .versionAsked => 0
  | _ => 2

end Offload.Command
