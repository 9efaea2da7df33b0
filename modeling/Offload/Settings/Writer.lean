import Offload.Settings.Basic
import Offload.Json.Text

/-!
Writing settings as a structured text, a member a line.
-/

namespace Offload.Settings

open Json

def renderMember (f : Field) (value : List Char) : List Char :=
  [' ', ' '] ++ renderString f.key.toList ++ [':', ' '] ++ value

/-- The members of settings whose library path is the given text. -/
def renderAll (library : List Char) (s : Settings) : List Char :=
  ['\x7b', '\n'] ++
  renderMember .library (renderString library) ++ [',', '\n'] ++
  renderMember .fallbackCores (Nat.toDigits 10 s.fallbackCores.toNat) ++ [',', '\n'] ++
  renderMember .verifyObjects (if s.verifyObjects then "true" else "false").toList ++
  ['\n', '\x7d']

/-- Settings as text. A library path that is not text cannot be written. -/
def render (s : Settings) : Except String String :=
  match Text.ofUtf8? s.library with
  | some library => .ok (String.ofList (renderAll library.toList s))
  | none => .error "path contains invalid UTF-8 characters"

end Offload.Settings
