import Offload.Settings.Reader
import Offload.Files
import Offload.Fault
import Offload.Text.Blank
import Offload.Text.Integer

/-!
Where settings come from: a file, and variables of the environment that override it.

The first variable names the file. The others replace single settings, whatever the file holds,
and the number of cores is checked last, when every source has been heard.
-/

namespace Offload.Settings

def configVariable : String := "OKRA_CONFIG"

def libraryVariable : String := "OKRA_LIBRARY"

def coresVariable : String := "OKRA_FALLBACK_CORES"

/-- Variables of the environment. -/
abbrev Variables := String → Option String

def ofText (text : String) : Except Fault Settings := (parse text).mapError .config

def ofFile (files : Files) (path : String) : Except Fault Settings :=
  match files.readText path with
  | .ok text => ofText text
  | .error e => .error (.config (path ++ ": " ++ e.message))

def coresOfText (text : String) : Except Fault UInt32 :=
  match Text.readUnsigned 10 UInt32.size (Text.trim text.toList) with
  | .ok n => .ok (UInt32.ofNat n)
  | .error _ =>
    .error (.config (coresVariable ++ "=" ++ Text.quoted text ++ " is not a number"))

def overrideLibrary (library : Option String) (s : Settings) : Settings :=
  match library with
  | some path => { s with library := Text.utf8 path }
  | none => s

def overrideCores (cores : Option String) (s : Settings) : Except Fault Settings :=
  match cores with
  | some text => (coresOfText text).map fun n => { s with fallbackCores := n }
  | none => .ok s

def checked (s : Settings) : Except Fault Settings :=
  if s.fallbackCores = 0 then .error (.config "fallback_cores must be at least 1") else .ok s

/-- The settings that the environment asks for. -/
def ofEnvironment (vars : Variables) (files : Files) : Except Fault Settings := do
  let base ←
    match vars configVariable with
    | some path => ofFile files path
    | none => .ok default
  let s ←
    overrideCores (vars coresVariable) (overrideLibrary (vars libraryVariable) base)
  checked s

end Offload.Settings
