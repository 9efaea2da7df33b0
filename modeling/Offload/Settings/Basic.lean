import Offload.Text.Utf8

/-!
The settings of a bridge: where the device's library is, how many cores to report when the device
does not say, and whether object arguments are checked against the registered heap.
-/

namespace Offload

structure Settings where
  /-- Path or file name, as bytes: a path need not be text. -/
  library : List UInt8
  fallbackCores : UInt32
  verifyObjects : Bool
  deriving DecidableEq, Repr

namespace Settings

def defaultLibrary : String := "libokra_x86_64.so"

def default : Settings := ⟨Text.utf8 defaultLibrary, 1, true⟩

/-- The library's path as messages show it. -/
def libraryText (s : Settings) : String := Text.ofUtf8 s.library

/-- The members of a settings text, in the order they are written. -/
inductive Field
  | library
  | fallbackCores
  | verifyObjects
  deriving DecidableEq, Repr

def Field.key : Field → String
  | .library => "library_path"
  | .fallbackCores => "fallback_cores"
  | .verifyObjects => "verify_object_refs"

def Field.all : List Field := [.library, .fallbackCores, .verifyObjects]

def Field.ofKey? (key : List Char) : Option Field := all.find? fun f => f.key.toList = key

@[simp] theorem Field.ofKey?_key (f : Field) : ofKey? f.key.toList = some f := by
  cases f <;> decide

end Settings

end Offload
